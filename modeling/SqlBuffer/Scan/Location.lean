import SqlBuffer.Scan.Cursor
import SqlBuffer.Text.Space

/-
  Where a token stands in the text it was scanned from: its own text, and the line it is on. The
  parts of the text are cut out by bytes. A line ends with a line break of the scanner, so a
  carriage return alone ends none.
-/

namespace SqlBuffer

/-- A span of a text, in characters and in bytes of UTF-8. -/
structure Location where
  source : List Char
  span : Span
  bytes : Span

def ScannedToken.location (t : ScannedToken) (source : List Char) : Location :=
  ⟨source, t.span, t.bytes⟩

namespace Location

def before (p : Location) : List Char :=
  takeBytes p.bytes.start p.source

def rest (p : Location) : List Char :=
  dropBytes p.bytes.stop p.source

def text (p : Location) : List Char :=
  takeBytes p.bytes.length (dropBytes p.bytes.start p.source)

/-- The part before the span of the line that the span starts on. -/
def lineHead (p : Location) : List Char :=
  (p.before.reverse.takeWhile (!isLineBreak ·)).reverse

/-- The part after the span of the line that the span ends on, with its line break. A span that
ends with a line break ends its line. -/
def lineTail (p : Location) : List Char :=
  if p.text.getLast?.any isLineBreak then []
  else p.rest.takeWhile (!isLineBreak ·) ++ (p.rest.dropWhile (!isLineBreak ·)).take 1

/-- The whole lines that the span touches. -/
def lineText (p : Location) : List Char :=
  p.lineHead ++ p.text ++ p.lineTail

def column (p : Location) : Nat :=
  p.lineHead.length

/-- The number of the line that the span starts on, counted from zero. -/
def lineNumber (p : Location) : Nat :=
  p.before.countP isLineBreak

end Location

end SqlBuffer
