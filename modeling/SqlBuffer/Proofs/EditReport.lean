import SqlBuffer.Proofs.EditFrame
import SqlBuffer.Proofs.PairDeletion

/-
  What an edit does to the text, and what it reports.
  The bounds of an edit may lie anywhere. They are moved into the text first, so the text before
  the start and that behind the replaced span stay. The report is about the new text: it has the
  inserted text in place, and the lines that were scanned again cover it. What is to be drawn apart
  from the inserted text makes up these lines together with it.
-/

namespace SqlBuffer

/-! ## What is left to draw -/

namespace EditReport

variable {o : EditReport}

theorem redraw?_of_start_eq (h : 1 < o.invalidatedLines)
    (hs : o.edited.start = o.invalidated.start) (hle : o.edited.stop ≤ o.invalidated.stop) :
    o.redraw? = if o.edited.stop = o.invalidated.stop then none
      else some ⟨o.edited.stop, o.invalidated.stop⟩ := by
  unfold redraw?
  simp only [if_neg (Nat.not_le.2 h), if_pos hs, Nat.min_eq_left hle, Span.isEmpty,
    decide_eq_true_eq]
  exact if_congr ⟨Nat.le_antisymm hle, Nat.le_of_eq ∘ Eq.symm⟩ rfl rfl

theorem redraw?_of_start_lt (h : 1 < o.invalidatedLines)
    (hs : o.invalidated.start < o.edited.start) (hle : o.edited.start ≤ o.invalidated.stop) :
    o.redraw? = some o.invalidated := by
  have hne : ¬ o.invalidated.stop ≤ o.invalidated.start := by omega
  unfold redraw?
  simp only [if_neg (Nat.not_le.2 h), if_neg (Nat.ne_of_gt hs), Span.isEmpty, decide_eq_true_eq,
    if_neg hne]

/-- The lines hold the inserted text. -/
structure HoldsEdited (o : EditReport) : Prop where
  start_le : o.invalidated.start ≤ o.edited.start
  start_le_stop : o.edited.start ≤ o.edited.stop
  stop_le : o.edited.stop ≤ o.invalidated.stop

/-- Of more lines than one, every position is in the inserted text or left to draw, and no other
position is. -/
theorem HoldsEdited.contains_iff (hb : o.HoldsEdited) (h : 1 < o.invalidatedLines) (i : Nat) :
    o.invalidated.contains i = true ↔
      o.edited.contains i = true ∨ ∃ x, o.redraw? = some x ∧ x.contains i = true := by
  obtain ⟨hstart, hle, hstop⟩ := hb
  rcases Nat.eq_or_lt_of_le hstart with hs | hs
  · rw [redraw?_of_start_eq h hs.symm hstop]
    by_cases he : o.edited.stop = o.invalidated.stop
    · simp [Span.contains_iff, hs, he]
    · simp only [if_neg he, Option.some.injEq, exists_eq_left', Span.contains_iff]
      omega
  · rw [redraw?_of_start_lt h hs (Nat.le_trans hle hstop)]
    simp only [Option.some.injEq, exists_eq_left', Span.contains_iff]
    omega

theorem HoldsEdited.edited_eq (hb : o.HoldsEdited) (h : 1 < o.invalidatedLines)
    (hnone : o.redraw? = none) : o.edited = o.invalidated := by
  obtain ⟨hstart, hle, hstop⟩ := hb
  rcases Nat.eq_or_lt_of_le hstart with hs | hs
  · rw [redraw?_of_start_eq h hs.symm hstop] at hnone
    by_cases he : o.edited.stop = o.invalidated.stop
    · exact congrArg₂ Span.mk hs.symm he
    · rw [if_neg he] at hnone
      cases hnone
  · rw [redraw?_of_start_lt h hs (Nat.le_trans hle hstop)] at hnone
    cases hnone

end EditReport

/-! ## The report of an edit -/

namespace Document

/-- The report on replacing the characters of a document from `s` to `e`, of which the new document
is the outcome. -/
structure Reports (old : Document) (s e : Nat) (replacement : List Char) (new : Document)
    (o : EditReport) : Prop where
  /-- Two characters are replaced if they are a pair of brackets, else those asked for. -/
  applied_pair : old.TakesPair ⟨s, e⟩ replacement → o.applied = ⟨s, s + 2⟩
  applied_eq : ¬ old.TakesPair ⟨s, e⟩ replacement → o.applied = ⟨s, e⟩
  text_eq : new.text = old.text.take s ++ replacement ++ old.text.drop o.applied.stop
  length_eq : (new.text.length : Int) = old.text.length + o.delta
  edited_eq : o.edited = ⟨s, s + replacement.length⟩
  /-- The span that was scanned again is one of whole lines. -/
  lines : ∃ before lines after, lineSpans 0 new.text = before ++ lines ++ after ∧
    lines.length = o.invalidatedLines ∧ Contiguous o.invalidated.start lines o.invalidated.stop
  one_le : 1 ≤ o.invalidatedLines
  holdsEdited : o.HoldsEdited
  /-- What is left to draw makes up the lines together with the inserted text. -/
  redraw_one : o.invalidatedLines = 1 → o.redraw? = none
  redraw_iff : 1 < o.invalidatedLines → ∀ i, o.invalidated.contains i = true ↔
    o.edited.contains i = true ∨ ∃ x, o.redraw? = some x ∧ x.contains i = true
  redraw_none : 1 < o.invalidatedLines → o.redraw? = none → o.edited = o.invalidated

theorem start_applied (d : Document) (r : Span) (replacement : List Char) :
    (d.applied r replacement).start = min r.start d.text.length := by
  unfold applied
  cases h : d.index.pairDeletion? d.language d.length (d.clamp r) replacement with
  | none => rfl
  | some s =>
    obtain ⟨rfl, -⟩ := pairDeletion?_bounds h
    rfl

variable {d : Document} {r : Span} {replacement : List Char} {a m : Nat}

section Parts

variable (hi : d.index.Fresh d.options (d.change r replacement).old)
  (hal : LineIndex.Aligned d.index (d.change r replacement) (d.replacementOf r replacement) a m)
include hi hal

theorem invalidatedLines_edit :
    (d.edit r replacement).2.invalidatedLines = (d.linesScanned r replacement).length := by
  rw [report_edit, replaced_eq hi hal]
  exact Nat.add_sub_cancel_left _ _

theorem holdsEdited_edit : (d.edit r replacement).2.HoldsEdited := by
  constructor
  · rw [invalidated_edit hi hal, edited_edit]
    exact hal.start_le
  · rw [edited_edit]
    exact Nat.le_add_right _ _
  · rw [invalidated_edit hi hal, edited_edit]
    exact Nat.le_add_right _ _

end Parts

theorem Current.reports (h : d.Current) (ho : Fits d.text)
    (hn : Fits (d.edit r replacement).1.text) :
    Reports d (d.clamp r).start (d.clamp r).stop replacement (d.edit r replacement).1
      (d.edit r replacement).2 := by
  obtain ⟨a, m, hi, hal⟩ := h.exists_aligned ho hn
  have hstart : (d.applied r replacement).start = (d.clamp r).start := start_applied ..
  have hlines := invalidatedLines_edit hi hal
  have hholds := holdsEdited_edit hi hal
  refine ⟨h.applied_of_takesPair ho, h.applied_of_not_takesPair ho, ?_, ?_, ?_, ?_, ?_, hholds,
    fun hone => if_pos (Nat.le_of_eq hone), hholds.contains_iff, hholds.edited_eq⟩
  · rw [text_edit, ← hstart]
    rfl
  · have hlo := (d.change r replacement).length_old
    have hln := (d.change r replacement).length_new
    rw [old_change] at hlo
    rw [text_edit, delta_edit, Change.delta]
    omega
  · rw [edited_edit, edited_change, hstart]
  · refine ⟨_, _, _, lineSpans_edit hi hal (h.edit ho hn), ?_, ?_⟩
    · rw [List.length_map, hlines]
    · rw [invalidated_edit hi hal]
      exact contiguous_linesScanned hi hal
  · rw [hlines, Nat.one_le_iff_ne_zero, ne_eq, List.length_eq_zero_iff]
    exact linesScanned_ne_nil hi hal

/-- After any operations, the report of an edit with any bounds is right. -/
theorem reports_edit (language : Language) (options : ScanOptions) (text : List Char)
    (ops : List Operation) (h : (openText language options text).FitsThrough ops) (r : Span)
    (replacement : List Char) :
    let d := (openText language options text).run ops
    let s := min r.start d.text.length
    let e := max s (min r.stop d.text.length)
    Fits (d.edit r replacement).1.text →
      Reports d s e replacement (d.edit r replacement).1 (d.edit r replacement).2 := by
  intro d s e hn
  obtain ⟨hc, -, -, -, -, hf⟩ := (current_openText language options text).run h
  exact hc.reports hf hn

/-- An edit from behind the text back to its start is an insertion at the end. It gives the last
line a successor, so both are drawn. -/
theorem reports_edit_reversed :
    let d := (openText .sql ⟨.empty, false, false⟩ ['x', '\n']).run [.insert 2 ['y']]
    (d.edit ⟨9, 0⟩ ['\n', 'z']).1.text = ['x', '\n', 'y', '\n', 'z'] ∧
      (d.edit ⟨9, 0⟩ ['\n', 'z']).2.redraw? = some ⟨2, 5⟩ ∧
      Reports d 3 3 ['\n', 'z'] (d.edit ⟨9, 0⟩ ['\n', 'z']).1 (d.edit ⟨9, 0⟩ ['\n', 'z']).2 := by
  intro d
  have h := reports_edit .sql ⟨.empty, false, false⟩ ['x', '\n'] [.insert 2 ['y']]
    (by decide +kernel) ⟨9, 0⟩ ['\n', 'z'] (by decide +kernel)
  have hlength : d.text.length = 3 := by decide +kernel
  dsimp only at h
  rw [hlength] at h
  exact ⟨by decide +kernel, by decide +kernel, h⟩

end Document

end SqlBuffer
