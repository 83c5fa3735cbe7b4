import SqlBuffer.Line.Basic
import SqlBuffer.Token.Basic

/-
  Looking up tokens in a line index that knows the tokens of its lines, at their columns.
-/

namespace SqlBuffer

/-- What stands at a position: a token, at its columns, or none; and the span, in the whole text,
of the token or of the gap between tokens. -/
structure TokenAt where
  token : Option Token
  span : Span
deriving DecidableEq, Repr

namespace LineIndex

/-- The token that covers a column of a line, or the gap around it, in a list of tokens in order.
The token before the list ends at column `done`. -/
def findToken (line : Span) (column : Nat) (done : Nat) : List Token → TokenAt
  | [] => ⟨none, min (line.start + done) line.stop, line.stop⟩
  | t :: ts =>
    if column < t.span.start then ⟨none, line.start + done, line.start + t.span.start⟩
    else if t.span.contains column then ⟨some t, t.span.shift line.start⟩
    else findToken line column t.span.stop ts

/-- What stands at a column of a line, if the line exists and its tokens are known. -/
def tokenInColumn? (index : LineIndex (List Token)) (n column : Nat) : Option TokenAt := do
  let line ← index.line? n
  let tokens ← line.info
  return findToken line.span column 0 tokens

/-- What stands at a position of the text. Where nothing is known this is the one position. The
span of one position is made in any case, so there is no answer at the last position. -/
def tokenAt? (index : LineIndex (List Token)) (i : Nat) : Option TokenAt :=
  let found := do
    let n ← index.lineHolding? i
    let line ← index.line? n
    index.tokenInColumn? n (i - line.span.start)
  if i < lastPosition then some (found.getD ⟨none, i, i + 1⟩) else none

theorem tokenAt?_eq {index : LineIndex (List Token)} {i : Nat} (h : i < lastPosition) :
    index.tokenAt? i = some (((index.lineHolding? i).bind fun n => (index.line? n).bind fun line =>
      index.tokenInColumn? n (i - line.span.start)).getD ⟨none, i, i + 1⟩) :=
  if_pos h

theorem lt_of_tokenAt? {index : LineIndex (List Token)} {i : Nat} {x : TokenAt}
    (h : index.tokenAt? i = some x) : i < lastPosition := by
  unfold tokenAt? at h
  split at h
  · next hi => exact hi
  · cases h

def placedTokenAt? (index : LineIndex (List Token)) (i : Nat) : Option Token := do
  let found ← index.tokenAt? i
  let t ← found.token
  return ⟨t.kind, found.span⟩

end LineIndex

end SqlBuffer
