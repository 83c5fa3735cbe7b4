import SqlBuffer.Language
import SqlBuffer.Token.Lookup

/-
  Bracket matching on the tokens of lines, so that a bracket in a string or a comment never
  counts.
-/

namespace SqlBuffer

/-- The span of the token that closes a bracket of kind `origin`, in a list of tokens that goes
away from it. Of the brackets met on the way, `depth` are not closed yet. -/
def findPartner (origin partner : TokenKind) (depth : Nat) : List Token → Option Span
  | [] => none
  | t :: ts =>
    if t.kind.sameAs origin then findPartner origin partner (depth + 1) ts
    else if t.kind.sameAs partner then
      match depth with
      | 0 => some t.span
      | d + 1 => findPartner origin partner d ts
    else findPartner origin partner depth ts

namespace LineIndex

def placedTokens (line : Line (List Token)) (keep : Token → Bool) : List Token :=
  ((line.info.getD []).filter keep).map (·.shift line.span.start)

/-- The tokens after a place on line `n`, through the last line of the window. -/
def tokensAfter (index : LineIndex (List Token)) (window : Span) (n column : Nat) : List Token :=
  match (index.lines.take window.stop).drop n with
  | line :: following =>
    placedTokens line (column ≤ ·.span.start) ++ following.flatMap (placedTokens · fun _ => true)
  | [] => []

/-- The tokens before a place on line `n`, from the nearest to the first of the window. -/
def tokensBefore (index : LineIndex (List Token)) (window : Span) (n column : Nat) : List Token :=
  match ((index.lines.take (n + 1)).drop window.start).reverse with
  | line :: preceding =>
    (placedTokens line (·.span.stop ≤ column)).reverse
      ++ preceding.flatMap fun line => (placedTokens line fun _ => true).reverse
  | [] => []

/-- The partner of the bracket that ends at position `i`, if both are on lines of the window. -/
def bracketPartner? (index : LineIndex (List Token)) (language : Language) (i : Nat)
    (window : Span) : Option Span := do
  let (n, column) ← index.caretPlace? i
  guard (column ≠ 0)
  let found ← index.tokenInColumn? n (column - 1)
  let origin ← found.token
  guard (origin.span.stop = column)
  let partner ← language.partner? origin.kind
  guard (window.contains n)
  let tokens :=
    if language.isOpening origin.kind then index.tokensAfter window n origin.span.stop
    else index.tokensBefore window n origin.span.start
  findPartner origin.kind partner 0 tokens

/-- The span to delete in place of one opening bracket that its closing bracket follows. -/
def pairDeletion? (index : LineIndex (List Token)) (language : Language) (textLength : Nat)
    (r : Span) (replacement : List Char) : Option Span := do
  guard (r.length = 1 ∧ replacement = [])
  let deleted ← (← index.tokenAt? r.start).token
  let closing ← language.closing? deleted.kind
  guard (r.start + 1 < textLength)
  let lexeme ← language.lexeme? deleted.kind
  guard (lexeme.length = 1)
  let next ← (← index.tokenAt? (r.start + 1)).token
  guard (next.kind.sameAs closing)
  return ⟨r.start, r.start + 2⟩

end LineIndex

end SqlBuffer
