import SqlBuffer.Proofs.LineUpdate

/-
  What an update of a line index leaves as it is.
  The lines before those that are replaced stay, and those after them move by the difference in
  length; both kinds have the characters that they had. The new lines know nothing. Only lines near
  the change are replaced: each has a character of the removed part or a neighbour of it, or is the
  empty line at the end of the text.
-/

namespace SqlBuffer.LineIndex

variable {α : Type} {index : LineIndex α} {c : Change}

/-- A line of the old text that became a line of the new one by moving. -/
structure MovedBy (c : Change) (line line' : Line α) : Prop where
  start_eq : (line'.span.start : Int) = line.span.start + c.delta
  stop_eq : (line'.span.stop : Int) = line.span.stop + c.delta
  info_eq : line'.info = line.info
  slice_eq : line'.span.slice c.new = line.span.slice c.old

/-- The line has a character of the removed part, the one before it or the one after it. -/
def Touches (c : Change) (line : Line α) : Prop :=
  ∃ i, c.before.length ≤ i + 1 ∧ i ≤ c.before.length + c.removed.length ∧
    line.span.start ≤ i ∧ i < line.span.stop

/-- An index becomes another one by a change that puts the lines `new` in the place of the lines
`old` and keeps the others. -/
structure Replaces (c : Change) (index updated : LineIndex α) (old new : Span) : Prop where
  start_eq : new.start = old.start
  ne_empty : new.start < new.stop
  before : ∀ n < new.start, ∃ line, index.line? n = some line ∧ updated.line? n = some line ∧
    line.span.slice c.new = line.span.slice c.old
  fresh : ∀ n, new.start ≤ n → n < new.stop → ∃ line, updated.line? n = some line ∧
    line.info = none
  after : ∀ j, Option.Rel (MovedBy c) (index.line? (old.stop + j)) (updated.line? (new.stop + j))
  /-- No line is replaced without need. -/
  touches : ∀ n line, old.start ≤ n → n < old.stop → index.line? n = some line →
    Touches c line ∨ (n = index.last ∧ line.span.start = line.span.stop)

theorem info_of_mem_newLines {text : List Char} {r : Replacement} {line : Line α}
    (h : line ∈ index.newLines text r) : line.info = none := by
  have hm : line ∈ (lineSpans r.region.start (r.region.slice text)).map Line.fresh := by
    unfold newLines at h
    dsimp only at h
    split at h
    · exact List.dropLast_subset _ h
    · exact h
  obtain ⟨s, -, rfl⟩ := List.mem_map.1 hm
  rfl

namespace Aligned

variable {r : Replacement} {a m : Nat}

theorem newLines_ne_nil (h : Aligned index c r a m) (hc : index.Covers c.old) :
    index.newLines c.new r ≠ [] := by
  by_cases hs : r.lines.stop = index.size
  · rw [h.newLines_of_eq hc hs]
    simp [lineSpans_ne_nil]
  · obtain ⟨hlt, -⟩ := h.startsLine_region hs
    intro hnil
    -- without a line the region would start where it stops
    have hcont := h.contiguous_newLines hc
    rw [hnil] at hcont
    exact Nat.ne_of_lt hlt hcont

theorem movedBy_of_mem_drop (h : Aligned index c r a m) (hc : index.Covers c.old)
    (hn : Fits c.new) {line : Line α} (hl : line ∈ index.lines.drop r.lines.stop) :
    MovedBy c line { line with span := line.span.shift c.delta } := by
  obtain ⟨start, hshift, hd, -, hslice⟩ := h.exists_shift_eq hc hn hl
  obtain ⟨-, hle, -⟩ := h.start_of_mem_drop hc hl
  refine ⟨?_, ?_, rfl, hslice⟩
  · rw [hshift]
    exact hd.symm
  · rw [hshift]
    unfold Span.length
    dsimp only
    omega

section Lines

-- what the update makes of the lines before the region, in it and behind it
variable {updated : LineIndex α}
  (hu : updated.lines = index.lines.take r.lines.start ++ index.newLines c.new r ++
    (index.lines.drop r.lines.stop).map fun line => { line with span := line.span.shift c.delta })
include hu

theorem line?_before (h : Aligned index c r a m) (hc : index.Covers c.old) {n : Nat}
    (hn : n < r.lines.start) :
    ∃ line, index.line? n = some line ∧ updated.line? n = some line ∧
      line.span.slice c.new = line.span.slice c.old := by
  have hlen := h.length_take hc
  obtain ⟨line, hl⟩ : ∃ line, (index.lines.take r.lines.start)[n]? = some line :=
    ⟨_, List.getElem?_eq_getElem (by omega)⟩
  refine ⟨line, ?_, ?_, h.slice_of_mem_take hc (List.mem_of_getElem? hl)⟩
  · rw [line?, ← List.getElem?_take_of_lt hn, hl]
  · rw [line?, hu, List.append_assoc, List.getElem?_append_left (by omega), hl]

theorem line?_fresh (h : Aligned index c r a m) (hc : index.Covers c.old) {n : Nat}
    (hs : r.lines.start ≤ n) (hn : n < r.lines.start + (index.newLines c.new r).length) :
    ∃ line, updated.line? n = some line ∧ line.info = none := by
  have hlen := h.length_take hc
  obtain ⟨line, hl⟩ : ∃ line, (index.newLines c.new r)[n - r.lines.start]? = some line :=
    ⟨_, List.getElem?_eq_getElem (by omega)⟩
  refine ⟨line, ?_, info_of_mem_newLines (List.mem_of_getElem? hl)⟩
  rw [line?, hu, List.append_assoc, List.getElem?_append_right (by omega), hlen,
    List.getElem?_append_left (by omega), hl]

theorem line?_after (h : Aligned index c r a m) (hc : index.Covers c.old) (hn : Fits c.new)
    (j : Nat) :
    Option.Rel (MovedBy c) (index.line? (r.lines.stop + j))
      (updated.line? (r.lines.start + (index.newLines c.new r).length + j)) := by
  have hold : index.line? (r.lines.stop + j) = (index.lines.drop r.lines.stop)[j]? := by
    rw [line?, List.getElem?_drop]
  have hnew : updated.line? (r.lines.start + (index.newLines c.new r).length + j) =
      (index.lines.drop r.lines.stop)[j]?.map fun line =>
        { line with span := line.span.shift c.delta } := by
    have hlen : (index.lines.take r.lines.start ++ index.newLines c.new r).length =
        r.lines.start + (index.newLines c.new r).length := by
      rw [List.length_append, h.length_take hc]
    rw [line?, hu, List.getElem?_append_right (by omega), hlen, Nat.add_sub_cancel_left,
      List.getElem?_map]
  rw [hold, hnew]
  cases hj : (index.lines.drop r.lines.stop)[j]? with
  | none => exact .none
  | some line => exact .some (h.movedBy_of_mem_drop hc hn (List.mem_of_getElem? hj))

end Lines

end Aligned

/-! ## Which lines are replaced -/

/-- A replaced line reaches the change. After one that does not, both texts start a line at the
same place, and the replaced lines start there or later. -/
theorem le_stop_of_replacement (h : index.Covers c.old) (ho : Fits c.old) (hn : Fits c.new)
    {n : Nat} {line : Line α} (hl : index.line? n = some line)
    (hstart : (index.replacement c.new c.edited c.delta).lines.start ≤ n) :
    c.before.length ≤ line.span.stop := by
  rw [replacement_eq h ho hn rfl rfl rfl] at hstart
  dsimp only at hstart
  obtain ⟨before, after, hlen, hat⟩ := h.lineAt_of_line? hl
  refine Nat.le_of_not_lt fun hlt => ?_
  cases after with
  | nil =>
    have := hat.stop_eq
    have := c.length_old
    omega
  | cons x xs =>
    have hs := hat.startsLine_stop
    have hold := le_lineStart hs (Nat.le_of_lt hlt)
    have hnew := le_lineStart ((c.startsLine_before hlt).1 hs) (Nat.le_of_lt hlt)
    have hnext := lineNumber_mono c.old (Nat.le_min.2 ⟨hold, hnew⟩)
    rw [hat.next.lineNumber_eq, List.length_append, List.length_singleton] at hnext
    omega

/-- A replaced line that is not empty starts at the character after the removed part or before. -/
theorem start_le_of_replacement (h : index.Covers c.old) (ho : Fits c.old) (hn : Fits c.new)
    {n : Nat} {line : Line α} (hl : index.line? n = some line)
    (hstop : n < (index.replacement c.new c.edited c.delta).lines.stop)
    (hne : line.span.start < line.span.stop) :
    line.span.start ≤ c.before.length + c.removed.length := by
  rw [replacement_eq h ho hn rfl rfl (congrArg Span.stop (linesTouched_eq h ho hn))] at hstop
  dsimp only at hstop
  obtain ⟨before, after, hlen, hat⟩ := h.lineAt_of_line? hl
  split at hstop
  · have := hat.stop_le
    have := c.length_old
    omega
  · refine Nat.le_of_not_lt fun hlt => ?_
    have hnumber := lineNumber_lt_lineNumber hat.startsLine hlt
    rw [hat.lineNumber_eq] at hnumber
    omega

theorem touches_of_replacement (h : index.Covers c.old) (ho : Fits c.old) (hn : Fits c.new)
    {n : Nat} {line : Line α} (hl : index.line? n = some line)
    (hstart : (index.replacement c.new c.edited c.delta).lines.start ≤ n)
    (hstop : n < (index.replacement c.new c.edited c.delta).lines.stop) :
    Touches c line ∨ (n = index.last ∧ line.span.start = line.span.stop) := by
  obtain ⟨before, after, hlen, hat⟩ := h.lineAt_of_line? hl
  have hle := hat.contiguous.2.1
  by_cases hne : line.span.start < line.span.stop
  · have hlow := le_stop_of_replacement h ho hn hl hstart
    have hhigh := start_le_of_replacement h ho hn hl hstop hne
    exact Or.inl ⟨max line.span.start (c.before.length - 1), by omega, by omega, by omega, by omega⟩
  · have hnil : after = [] := Classical.not_not.1 fun ha => hne (hat.start_lt_stop ha)
    refine Or.inr ⟨?_, by omega⟩
    rw [last, h.size_eq, hat.spans, hnil, List.length_append, hlen]
    rfl

/-- An update replaces only lines near the change, by at least one line about which nothing is
known. It keeps the lines before these as they are and moves the lines after them, and what it
keeps has the characters that it had. -/
theorem replaces_update (h : index.Covers c.old) (ho : Fits c.old) (hn : Fits c.new) :
    Replaces c index (index.update c.new c.edited c.delta).1
      (index.replacement c.new c.edited c.delta).lines
      (index.update c.new c.edited c.delta).2 := by
  obtain ⟨a, m, hr⟩ := exists_aligned h ho hn
  have hpos := List.length_pos_iff.2 (hr.newLines_ne_nil h)
  refine ⟨rfl, Nat.lt_add_of_pos_right hpos, ?_, ?_, ?_, ?_⟩
  · intro n hlt
    exact hr.line?_before rfl h hlt
  · intro n hstart hstop
    exact hr.line?_fresh rfl h hstart hstop
  · intro j
    exact hr.line?_after rfl h hn j
  · intro n line hstart hstop hl
    exact touches_of_replacement h ho hn hl hstart hstop

/-- A line feed put after a return makes the line of the return a new one, although the return
stands before the change. -/
theorem replaces_update_joined_return :
    let c : Change := ⟨['x', '\n', 'a', '\r'], [], ['\n'], ['b', '\n', 'c']⟩
    let index : LineIndex Nat :=
      ⟨[⟨⟨0, 2⟩, some 0⟩, ⟨⟨2, 4⟩, some 1⟩, ⟨⟨4, 6⟩, some 2⟩, ⟨⟨6, 7⟩, some 3⟩]⟩
    (index.update c.new c.edited c.delta).1.lines =
        [⟨⟨0, 2⟩, some 0⟩, ⟨⟨2, 5⟩, none⟩, ⟨⟨5, 7⟩, none⟩, ⟨⟨7, 8⟩, some 3⟩] ∧
      Replaces c index (index.update c.new c.edited c.delta).1 ⟨1, 3⟩ ⟨1, 3⟩ := by
  intro c index
  have hc : index.lines.map (·.span) = lineSpans 0 c.old := by decide
  have hr := replaces_update hc (by decide) (by decide)
  have hold : (index.replacement c.new c.edited c.delta).lines = ⟨1, 3⟩ := by decide +kernel
  have hnew : (index.update c.new c.edited c.delta).2 = ⟨1, 3⟩ := by decide +kernel
  rw [hold, hnew] at hr
  exact ⟨by decide +kernel, hr⟩

end SqlBuffer.LineIndex
