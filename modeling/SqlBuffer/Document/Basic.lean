import SqlBuffer.Bracket
import SqlBuffer.Scan.Basic
import SqlBuffer.Token.Ordered

/-
  Documents: a text with its line index, the tokens of each line and all tokens in one list.
  Each line is scanned by itself. A line with a character that no rule accepts has no tokens, and
  is pending until an edit changes it.
-/

namespace SqlBuffer

/-- How many lines a search for a bracket goes to either side if nothing else is said. -/
def defaultBracketWindow : Nat := 1000

structure Document where
  text : List Char
  index : LineIndex (List Token)
  tokens : TokenList
  language : Language
  options : ScanOptions
  /-- How many lines a search for a bracket goes to either side of its start. -/
  bracketWindow : Nat := defaultBracketWindow
  /-- The number of edits so far. It has no bound here, and fits a word of 64 bits for as long as
  there are fewer than `2 ^ 64` edits. -/
  revision : Nat := 0

/-- The lines with a character that no rule accepts, and what each was rejected for. -/
abbrev FailedLines := List (Nat × ScanError)

/-- The outcome of scanning some lines of a text: the lines with their tokens, these tokens at
their places in the text, and the lines that failed. -/
structure ScannedLines where
  lines : List (Line (List Token))
  tokens : List Token
  failed : FailedLines

/-- Scans lines of a text, the first of which has number `n`. -/
def scanLines (o : ScanOptions) (text : List Char) (n : Nat) :
    List (Line (List Token)) → ScannedLines
  | [] => ⟨[], [], []⟩
  | line :: lines =>
    let rest := scanLines o text (n + 1) lines
    match Scan.lineTokens o (line.span.slice text) with
    | .ok ts =>
      ⟨⟨line.span, some ts⟩ :: rest.lines, ts.map (·.offset line.span.start) ++ rest.tokens,
        rest.failed⟩
    | .error e => ⟨⟨line.span, none⟩ :: rest.lines, rest.tokens, (n, e) :: rest.failed⟩

namespace Document

/-- Scans the lines of the document with the numbers of a span. The tokens of these lines are put
into the index; the token list of the document is left as it is. -/
def scan (d : Document) (lines : Span) : Document × ScannedLines :=
  let scanned := scanLines d.options d.text lines.start (lines.slice d.index.lines)
  let index := ⟨d.index.lines.take lines.start ++ scanned.lines ++ d.index.lines.drop lines.stop⟩
  ({ d with index }, scanned)

def openText (language : Language) (options : ScanOptions) (text : List Char) : Document :=
  let index : LineIndex (List Token) := .ofText text
  let d : Document := { text, index, tokens := .empty, language, options }
  let (d, scanned) := d.scan ⟨0, index.size⟩
  { d with tokens := ⟨scanned.tokens⟩ }

def length (d : Document) : Nat :=
  d.text.length

/-- The partner of the bracket that ends at position `i`, if it is near enough. -/
def nearPartner? (d : Document) (i : Nat) : Option Span := do
  let n ← d.index.caretLine? i
  d.index.bracketPartner? d.language i
    ⟨n - d.bracketWindow, advance (advance n d.bracketWindow) 1⟩

/-- The numbers of the lines without tokens. -/
def pendingLines (d : Document) : List Nat :=
  (List.range d.index.size).filter fun n => (d.index.info? n).isNone

end Document

end SqlBuffer
