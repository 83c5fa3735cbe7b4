import SqlBuffer.Line.Search
import SqlBuffer.Text.Line

/-
  The line index of a text: the span of each line, with a value for the line where one is known.
  Positions are looked up by binary search over the line starts. A span of line numbers is
  half-open like a span of positions.
-/

namespace SqlBuffer

/-- A line of a text, with its line break, and what is known about it. -/
structure Line (α : Type) where
  span : Span
  info : Option α
deriving DecidableEq, Repr

def Line.fresh {α : Type} (span : Span) : Line α :=
  ⟨span, none⟩

structure LineIndex (α : Type) where
  lines : List (Line α)
deriving DecidableEq, Repr

namespace LineIndex

variable {α : Type}

def empty : LineIndex α :=
  ⟨[.fresh ⟨0, 0⟩]⟩

def ofText (text : List Char) : LineIndex α :=
  ⟨(lineSpans 0 text).map .fresh⟩

def size (index : LineIndex α) : Nat :=
  index.lines.length

def isEmpty (index : LineIndex α) : Bool :=
  index.lines.isEmpty

def last (index : LineIndex α) : Nat :=
  index.size - 1

/-- The number of characters that the lines cover. -/
def textLength (index : LineIndex α) : Nat :=
  match index.lines.getLast? with
  | some line => line.span.stop
  | none => 0

def line? (index : LineIndex α) (n : Nat) : Option (Line α) :=
  index.lines[n]?

def info? (index : LineIndex α) (n : Nat) : Option α :=
  (index.line? n).bind (·.info)

/-- The characters that a span of lines covers. Line numbers past the end count as the last line;
an empty span of lines covers no character, at the start of its first line. -/
def charSpan (index : LineIndex α) (lines : Span) : Span :=
  match index.line? (min lines.start index.last), index.line? (min (lines.stop - 1) index.last) with
  | some first, some final =>
    if lines.isEmpty then ⟨first.span.start, first.span.start⟩
    else ⟨first.span.start, max final.span.stop first.span.start⟩
  | _, _ => ⟨0, 0⟩

/-- The line that holds the character at position `i`. -/
def lineHolding? (index : LineIndex α) (i : Nat) : Option Nat :=
  match boundary (·.span.start ≤ i) index.lines with
  | 0 => none
  | n + 1 => if (index.line? n).any (·.span.contains i) then some n else none

/-- The line of the caret at position `i`: the end of the text belongs to the last line. -/
def caretLine? (index : LineIndex α) (i : Nat) : Option Nat :=
  match index.lines.getLast? with
  | some line => if line.span.stop = i then some index.last else index.lineHolding? i
  | none => none

/-- The line of the caret at position `i` and its column there. -/
def caretPlace? (index : LineIndex α) (i : Nat) : Option (Nat × Nat) := do
  let n ← index.caretLine? i
  let line ← index.line? n
  return (n, i - line.span.start)

/-- The fewest lines that hold all characters of a span. An empty span has the line of its
start. A span that is the last line has that line alone, and one that starts past the end of the
text has no line. -/
def linesHolding (index : LineIndex α) (r : Span) : Span :=
  match index.lines.getLast? with
  | none => ⟨0, 0⟩
  | some line =>
    match index.caretLine? r.start with
    | none => ⟨index.last, index.last⟩
    | some first =>
      if r = line.span then ⟨index.last, index.last + 1⟩
      else
        let final := if r.isEmpty then r.start else r.stop - 1
        ⟨first, max ((index.lineHolding? final).getD index.last) first + 1⟩

/-- The lines of a span, with the empty line at the end of the text if the span reaches it. -/
def linesReached (index : LineIndex α) (r : Span) : Span :=
  match index.lines.getLast? with
  | some line =>
    if line.span.isEmpty ∧ r.stop = line.span.start then
      ⟨(index.linesHolding r).start, index.size⟩
    else index.linesHolding r
  | none => index.linesHolding r

/-- Sets or clears what is known about a line. A line that does not exist is left out. -/
def setInfo (index : LineIndex α) (n : Nat) (info : Option α) : LineIndex α :=
  ⟨index.lines.modify n fun line => { line with info }⟩

end LineIndex

end SqlBuffer
