import SqlBuffer.Proofs.LineUpdate

/-
  The region that a change splits again.
  The lines to replace are found in the index of the old text, the region in the new text. Both
  are whole lines, and they are the same lines but for the change: they start at the same place
  and stop at places that differ by the difference in length. Split on its own, the region has an
  empty line too many exactly if the last line of the old text is not among those to replace.
-/

namespace SqlBuffer

/-- A place between whole lines of a text: a line starts there, or the text ends. -/
def LineBoundary (text : List Char) (p : Nat) : Prop :=
  StartsLine text p ∨ p = text.length

theorem exists_endsLine {text : List Char} {p : Nat} (h : StartsLine text p) (hp : 0 < p) :
    ∃ x, text[p - 1]? = some x ∧ endsLine x = true := by
  obtain ⟨n, rfl⟩ : ∃ n, p = n + 1 := ⟨p - 1, by omega⟩
  exact (Option.any_eq_true _ _).1 h.1

namespace LineIndex

variable {α : Type} {index : LineIndex α} {c : Change}

/-- The lines that splitting the region of a replacement on its own gives. -/
def splitRegion (text : List Char) (r : Replacement) : List Span :=
  lineSpans r.region.start (r.region.slice text)

/-- The lines of an index with others in the place of those to replace, and the lines after these
moved by `delta`. -/
def spansAround (index : LineIndex α) (r : Replacement) (delta : Int) (spans : List Span) :
    List Span :=
  (index.lines.take r.lines.start).map (·.span) ++ spans ++
    ((index.lines.drop r.lines.stop).map (·.span)).map (·.shift delta)

/-- A replacement of whole lines that fits both texts of a change. -/
structure Matches (index : LineIndex α) (c : Change) (r : Replacement) : Prop where
  lines : r.lines.start < r.lines.stop ∧ r.lines.stop ≤ index.size
  start_boundary : LineBoundary c.new r.region.start
  stop_boundary : LineBoundary c.new r.region.stop
  edited : r.region.start ≤ c.edited.start ∧ c.edited.stop ≤ r.region.stop
  /-- The character after the change is in the region. -/
  next : c.after ≠ [] → r.region.start ≤ c.edited.stop ∧ c.edited.stop < r.region.stop
  start_eq : r.region.start = (index.charSpan r.lines).start
  stop_eq : (r.region.stop : Int) - c.delta = (index.charSpan r.lines).stop
  /-- With the last line the region reaches the end of the text, and all lines of it count. -/
  last : r.lines.contains index.last = true → r.region.stop = c.new.length ∧
    index.spansAround r c.delta (splitRegion c.new r) = lineSpans 0 c.new
  /-- Without it the region ends with a line break, and the empty line after that is not one. -/
  inner : r.lines.contains index.last = false → r.region.start < r.region.stop ∧
    (∃ x, c.new[r.region.stop - 1]? = some x ∧ endsLine x = true) ∧
    (splitRegion c.new r).getLast? = some ⟨r.region.stop, r.region.stop⟩ ∧
    index.spansAround r c.delta (splitRegion c.new r).dropLast = lineSpans 0 c.new

/-- With the lines that an update puts into the place of the old ones, an index has the lines of
the new text. -/
theorem spansAround_eq (h : index.Covers c.old) (ho : Fits c.old) (hn : Fits c.new)
    {spans : List Span}
    (hs : index.newLines c.new (index.replacement c.new c.edited c.delta) =
      spans.map Line.fresh) :
    index.spansAround (index.replacement c.new c.edited c.delta) c.delta spans =
      lineSpans 0 c.new := by
  have hu := covers_update h ho hn
  rw [Covers, update, hs] at hu
  dsimp only at hu
  rw [← hu, spansAround, List.map_append, List.map_append, List.map_map, List.map_map,
    List.map_map]
  congr 2
  exact (List.map_id _).symm

namespace Aligned

variable {r : Replacement} {a m : Nat}

theorem contains_last (h : Aligned index c r a m) (hc : index.Covers c.old) :
    r.lines.contains index.last = true ↔ r.lines.stop = index.size := by
  have := h.lines_lt hc
  rw [Span.contains_iff, last]
  omega

theorem stop_boundary (h : Aligned index c r a m) : LineBoundary c.new r.region.stop := by
  rw [h.region]
  by_cases hs : r.lines.stop = index.size
  · exact Or.inr (by rw [h.eq_length_after hs, c.length_new])
  · exact Or.inl (h.startsLine_region hs).2

theorem one_le (h : Aligned index c r a m) (ha : c.after ≠ []) : 1 ≤ m := by
  have := List.length_pos_iff.2 ha
  rcases h.lines_stop with ⟨hm, -⟩ | ⟨hm, -⟩ <;> omega

theorem getLast?_splitRegion (h : Aligned index c r a m) (hs : r.lines.stop ≠ index.size) :
    (splitRegion c.new r).getLast? = some ⟨r.region.stop, r.region.stop⟩ := by
  obtain ⟨hlt, hstart⟩ := h.startsLine_region hs
  have hle := h.region_le.2
  rw [h.region] at hle
  rw [splitRegion, h.region,
    lineSpans_eq_fullLines_append a (startsLine_length (startsLine_slice hstart hlt)),
    List.getLast?_concat, length_slice hle]
  dsimp only
  rw [Nat.add_sub_cancel' (Nat.le_of_lt hlt)]

end Aligned

/-- What a change replaces is the same lines in the old text and in the new one. -/
theorem matches_replacement (h : index.Covers c.old) (ho : Fits c.old) (hn : Fits c.new) :
    Matches index c (index.replacement c.new c.edited c.delta) := by
  obtain ⟨a, m, hr⟩ := exists_aligned h ho hn
  have hstart := hr.start_le
  refine ⟨hr.lines_lt h, ?_, hr.stop_boundary, ?_, ?_, ?_, ?_, ?_, ?_⟩
  · rw [hr.region]
    exact Or.inl hr.startsLine_new
  · rw [hr.region, Change.edited]
    dsimp only
    omega
  · intro ha
    have := hr.one_le ha
    rw [hr.region, Change.edited]
    dsimp only
    omega
  · rw [hr.charSpan_lines h, hr.region]
  · rw [hr.charSpan_lines h, hr.region, Change.delta]
    dsimp only
    omega
  · intro hl
    have hs := (hr.contains_last h).1 hl
    refine ⟨?_, spansAround_eq h ho hn (hr.newLines_eq_split h hs)⟩
    rw [hr.region, hr.eq_length_after hs, c.length_new]
  · intro hl
    have hs := mt (hr.contains_last h).2 (Bool.eq_false_iff.1 hl)
    obtain ⟨hlt, hb⟩ := hr.startsLine_region hs
    refine ⟨by rw [hr.region]; exact hlt, ?_, hr.getLast?_splitRegion hs,
      spansAround_eq h ho hn ?_⟩
    · rw [hr.region]
      exact exists_endsLine hb (Nat.zero_lt_of_lt hlt)
    · rw [hr.newLines_of_ne h hs, splitRegion, hr.region]
      rfl

/-- A character put between a return and its line feed makes two line breaks of one. The region
starts before the change, where both texts start a line, and stops before the second line, so the
empty line that splitting it gives does not count. -/
theorem matches_replacement_parted_return :
    let c : Change := ⟨['a', '\r'], [], ['x'], ['\n', 'b', '\n']⟩
    let r := (ofText c.old : LineIndex Nat).replacement c.new c.edited c.delta
    Matches (ofText c.old : LineIndex Nat) c r ∧ r = ⟨⟨0, 1⟩, ⟨0, 4⟩⟩ ∧
      splitRegion c.new r = [⟨0, 2⟩, ⟨2, 4⟩, ⟨4, 4⟩] := by
  intro c r
  have hr : r = ⟨⟨0, 1⟩, ⟨0, 4⟩⟩ := by decide +kernel
  refine ⟨matches_replacement (covers_ofText _) (by decide) (by decide), hr, ?_⟩
  rw [hr]
  decide

end LineIndex

end SqlBuffer
