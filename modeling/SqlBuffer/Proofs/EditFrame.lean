import Mathlib.Data.List.Forall2
import SqlBuffer.Proofs.DocumentRun
import SqlBuffer.Proofs.LineFrame

/-
  What an edit leaves as it is.
  An edit reports the span of the lines that it scanned again. In the old text these lines end
  where they end in the new one, less the difference in length. Before the span the characters, the
  tokens and what a lookup finds are those of the old document, and behind it they are the old ones
  moved by the difference. So whoever shows a document has to draw only that span again.
-/

namespace SqlBuffer

/-! ## Moving by a difference -/

/-- Both ends of a span are moved, and nothing is cut off. -/
structure Span.MovedBy (delta : Int) (r s : Span) : Prop where
  start_eq : (s.start : Int) = r.start + delta
  stop_eq : (s.stop : Int) = r.stop + delta

/-- A token at another place. -/
def Token.MovedBy (delta : Int) (t u : Token) : Prop :=
  u.kind = t.kind ∧ t.span.MovedBy delta u.span

/-- The same token or gap at another place. A token keeps its columns. -/
def TokenAt.MovedBy (delta : Int) (x y : TokenAt) : Prop :=
  y.token = x.token ∧ x.span.MovedBy delta y.span

theorem Span.movedBy_shift {r : Span} {delta : Int} {start : Nat} (hr : r.start ≤ r.stop)
    (h : r.start + delta = start) (hs : start ≤ lastPosition) :
    r.MovedBy delta (r.shift delta) := by
  rw [Span.shift_eq h hs]
  unfold Span.length
  constructor
  · exact h.symm
  · dsimp only
    omega

namespace LineIndex

end LineIndex

/-! ## The lookup on a line -/

/-- What stands at a position of a line. -/
def Line.tokenAt (line : Line (List Token)) (i : Nat) : TokenAt :=
  (line.info.map (LineIndex.findToken line.span (i - line.span.start) 0)).getD ⟨none, i, i + 1⟩

namespace LineIndex

variable {index : LineIndex (List Token)} {text : List Char}

theorem Covers.tokenAt?_of_mem (h : index.Covers text) {line : Line (List Token)}
    (hl : line ∈ index.lines) {i : Nat} (hs : line.span.start ≤ i) (hi : i < line.span.stop)
    (hlast : i < lastPosition) : index.tokenAt? i = some (line.tokenAt i) := by
  obtain ⟨n, hn⟩ := List.getElem?_of_mem hl
  have hline : index.line? n = some line := hn
  rw [tokenAt?_eq hlast, h.lineHolding?_of_line? hline hs hi]
  simp only [Option.bind_eq_bind, Option.bind_some, hline, tokenInColumn?, Line.tokenAt]
  cases line.info <;> rfl

end LineIndex

/-! ## The region of a change -/

namespace LineIndex.Aligned

variable {index : LineIndex (List Token)} {c : Change} {r : Replacement} {a m : Nat}
  {o : ScanOptions}

end LineIndex.Aligned

/-! ## What an edit reports -/

namespace Document

section Report

variable (d : Document) (r : Span) (replacement : List Char)

/-- The report of an edit in terms of the change that it makes and of the lines that it scans. -/
theorem report_edit : (d.edit r replacement).2 =
    { applied := d.applied r replacement
      edited := (d.change r replacement).edited
      delta := (d.change r replacement).delta
      invalidated := (d.edit r replacement).1.index.charSpan (d.replaced r replacement)
      invalidatedLines := (d.replaced r replacement).length
      failed := ((d.unscanned r replacement).scan (d.replaced r replacement)).2.failed } := by
  unfold unscanned replaced
  rw [edited_change, delta_change]
  rfl

theorem delta_edit : (d.edit r replacement).2.delta = (d.change r replacement).delta := by
  rw [report_edit]

theorem edited_edit : (d.edit r replacement).2.edited = (d.change r replacement).edited := by
  rw [report_edit]

end Report

variable {d : Document} {r : Span} {replacement : List Char} {a m : Nat}

section Parts

variable (hi : d.index.Fresh d.options (d.change r replacement).old)
  (hal : LineIndex.Aligned d.index (d.change r replacement) (d.replacementOf r replacement) a m)
include hi hal

theorem contiguous_linesScanned : Contiguous a ((d.linesScanned r replacement).map (·.span))
    ((d.change r replacement).before.length + (d.change r replacement).inserted.length + m) := by
  rw [linesScanned, List.map_map]
  exact hal.contiguous_newLines hi.covers

theorem linesScanned_ne_nil : d.linesScanned r replacement ≠ [] := by
  rw [linesScanned, ne_eq, List.map_eq_nil_iff]
  exact hal.newLines_ne_nil hi.covers

/-- An edit reports the region that it scanned again. -/
theorem invalidated_edit : (d.edit r replacement).2.invalidated = ⟨a,
    (d.change r replacement).before.length + (d.change r replacement).inserted.length + m⟩ := by
  rw [report_edit, replaced_eq hi hal]
  exact LineIndex.charSpan_append (lines_edit hi hal) (linesScanned_ne_nil hi hal)
    (contiguous_linesScanned hi hal)

theorem lineSpans_edit (he : (d.edit r replacement).1.Current) :
    lineSpans 0 (d.edit r replacement).1.text = (d.linesBefore r replacement).map (·.span) ++
      (d.linesScanned r replacement).map (·.span) ++
      (d.linesMoved r replacement).map (·.span) := by
  have hcovers := he.fresh.covers
  rw [LineIndex.Covers, lines_edit hi hal, List.map_append, List.map_append] at hcovers
  exact hcovers.symm

end Parts

end Document

end SqlBuffer
