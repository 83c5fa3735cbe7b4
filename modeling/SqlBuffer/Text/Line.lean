import SqlBuffer.Span

/-
  The lines of a text.
  A line ends with its line break: line feed, carriage return, a return and a line feed together,
  vertical tab, form feed, next line, line separator or paragraph separator. A text that ends in
  a break has one more line, which is empty, and the empty text has one empty line.
-/

namespace SqlBuffer

/-- Ends a line of a text, alone or, for a carriage return, with the line feed after it. -/
def endsLine (c : Char) : Bool :=
  c == '\n' || c == '\r' || c == '\x0b' || c == '\x0c' || c == '\u0085' || c == '\u2028'
    || c == '\u2029'

def splitLines : List Char → List (List Char)
  | [] => [[]]
  | '\r' :: '\n' :: cs => ['\r', '\n'] :: splitLines cs
  | c :: cs =>
    if endsLine c then [c] :: splitLines cs
    else
      match splitLines cs with
      | line :: lines => (c :: line) :: lines
      | [] => [[c]]

/-- Consecutive spans with the lengths of the given lines, from position `start` on. -/
def spansFrom (start : Nat) : List (List Char) → List Span
  | [] => []
  | line :: lines => ⟨start, start + line.length⟩ :: spansFrom (start + line.length) lines

/-- The spans of the lines of a text that begins at position `start`. -/
def lineSpans (start : Nat) (text : List Char) : List Span :=
  spansFrom start (splitLines text)

/-- The start of the line that position `i` lies on: the last line start at or before it. -/
def lineStart (text : List Char) (i : Nat) : Nat :=
  match ((lineSpans 0 text).filter (·.start ≤ i)).getLast? with
  | some r => r.start
  | none => 0

/-- Where the line that position `i` lies on ends: the first line start after it, or the end of
the text. -/
def lineStop (text : List Char) (i : Nat) : Nat :=
  match (lineSpans 0 text).find? (i < ·.start) with
  | some r => r.start
  | none => text.length

theorem splitLines_ne_nil (text : List Char) : splitLines text ≠ [] := by
  fun_cases splitLines text <;> simp_all

theorem flatten_splitLines (text : List Char) : (splitLines text).flatten = text := by
  fun_induction splitLines text <;> simp_all

end SqlBuffer
