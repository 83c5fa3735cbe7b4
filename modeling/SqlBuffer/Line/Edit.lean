import SqlBuffer.Line.Basic

/-
  Keeping a line index up to date.
  After a change of the text only the lines near the change are split again. The change is given
  by the span that it has in the new text and by the difference in length. A carriage return
  before the change may join a line feed at its start to one line break, or stop doing so; so the
  region to split again starts at the earlier of the old and the new line start.
-/

namespace SqlBuffer.LineIndex

variable {α : Type}

/-- The lines of the old text that a change touched. The character after the change counts as
touched, so that a change that ends with a line break also has the line after it. -/
def linesTouched (index : LineIndex α) (edited : Span) (delta : Int) : Span :=
  let oldStop := signedPosition edited.stop - delta
  if oldStop < signedPosition edited.start then ⟨0, 0⟩
  else index.linesReached (Span.extend ⟨edited.start, positionOf oldStop⟩ index.textLength)

/-- The old lines to replace, and the region of the new text that takes their place. -/
structure Replacement where
  lines : Span
  region : Span
deriving DecidableEq, Repr

/-- The whole lines of a text that a span touches. -/
def lineRegion (text : List Char) (r : Span) : Span :=
  ⟨lineStart text r.start, lineStop text (if r.isEmpty then r.start else r.stop - 1)⟩

def replacement (index : LineIndex α) (text : List Char) (edited : Span) (delta : Int) :
    Replacement :=
  let lines := index.linesTouched edited delta
  let region := lineRegion text (edited.extend text.length)
  let oldStart := (index.charSpan lines).start
  if region.start < oldStart then
    ⟨⟨(index.caretLine? region.start).getD lines.start, lines.stop⟩, region⟩
  else ⟨lines, ⟨oldStart, region.stop⟩⟩

/-- The lines that stand in the region of the new text. Split on its own, a region that ends with
a line break has an empty line after it, which counts only at the end of the text. -/
def newLines (index : LineIndex α) (text : List Char) (r : Replacement) : List (Line α) :=
  let lines := (lineSpans r.region.start (r.region.slice text)).map Line.fresh
  let reachesEnd := !r.lines.isEmpty && r.lines.stop == index.size
  if !reachesEnd && lines.getLast?.any (·.span.isEmpty) then lines.dropLast else lines

/-- The index after a change that led to `text`, and the span of the lines that are new in it.
Nothing is known about these; the lines after them are moved and keep what is known. -/
def update (index : LineIndex α) (text : List Char) (edited : Span) (delta : Int) :
    LineIndex α × Span :=
  let r := index.replacement text edited delta
  let lines := index.newLines text r
  let following := (index.lines.drop r.lines.stop).map fun line =>
    { line with span := line.span.shift delta }
  (⟨index.lines.take r.lines.start ++ lines ++ following⟩,
    ⟨r.lines.start, r.lines.start + lines.length⟩)

end SqlBuffer.LineIndex
