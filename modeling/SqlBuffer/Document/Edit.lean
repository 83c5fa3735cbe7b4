import SqlBuffer.Document.Basic
import SqlBuffer.Line.Edit

/-
  Editing a document. An edit replaces a span of the text and brings the line index, the tokens
  of the changed lines and the token list up to date before anyone looks at them.
-/

namespace SqlBuffer

structure EditReport where
  /-- The span of the old text that was replaced. -/
  applied : Span
  /-- The span of the inserted text in the new one. -/
  edited : Span
  /-- The difference in length. -/
  delta : Int
  /-- The span of the lines that were scanned again, in the new text. -/
  invalidated : Span
  /-- How many lines were scanned again. -/
  invalidatedLines : Nat
  failed : FailedLines

/-- What has to be drawn again apart from the inserted text. A change on one line needs
nothing. -/
def EditReport.redraw? (o : EditReport) : Option Span :=
  if o.invalidatedLines ≤ 1 then none
  else
    let extra : Span :=
      if o.edited.start = o.invalidated.start then
        ⟨min o.edited.stop o.invalidated.stop, o.invalidated.stop⟩
      else o.invalidated
    if extra.isEmpty then none else some extra

namespace Document

/-- A span within the text: the start is moved back to its end, and the stop to between the start
and the end. -/
def clamp (d : Document) (r : Span) : Span :=
  let start := min r.start d.length
  ⟨start, max start (min r.stop d.length)⟩

/-- Replaces a span of the text. Deleting an opening bracket that its closing bracket follows
deletes both. -/
def edit (d : Document) (r : Span) (replacement : List Char) : Document × EditReport :=
  let r := d.clamp r
  let applied := (d.index.pairDeletion? d.language d.length r replacement).getD r
  let delta : Int := replacement.length - applied.length
  let edited : Span := ⟨applied.start, applied.start + replacement.length⟩
  let text := d.text.take applied.start ++ replacement ++ d.text.drop applied.stop
  let old := d.index.charSpan (d.index.replacement text edited delta).lines
  let (index, replaced) := d.index.update text edited delta
  let (d, scanned) := { d with text, index, revision := d.revision + 1 }.scan replaced
  ({ d with tokens := d.tokens.splice old delta scanned.tokens },
    { applied, edited, delta, invalidated := d.index.charSpan replaced,
      invalidatedLines := replaced.length, failed := scanned.failed })

def insert (d : Document) (i : Nat) (text : List Char) : Document × EditReport :=
  d.edit ⟨i, i⟩ text

def delete (d : Document) (r : Span) : Document × EditReport :=
  d.edit r []

/-- Scans one line again. Its tokens are put into the token list if it does not fail. -/
def retryLine (d : Document) (n : Nat) : Document × FailedLines :=
  let (d, scanned) := d.scan ⟨n, n + 1⟩
  let tokens :=
    if scanned.failed.isEmpty then
      d.tokens.splice (d.index.charSpan ⟨n, n + 1⟩) 0 scanned.tokens
    else d.tokens
  ({ d with tokens }, scanned.failed)

/-- Scans the lines without tokens again, and tells which of them still fail. -/
def retryPending (d : Document) : Document × FailedLines :=
  d.pendingLines.foldl
    (fun (d, failed) n =>
      let (d, again) := d.retryLine n
      (d, failed ++ again))
    (d, [])

end Document

end SqlBuffer
