import SqlBuffer.Line.Edit
import SqlBuffer.Proofs.LineLookup

/-
  A line index stays the index of its text.
  A change replaces a part of a text by another. The update splits only a region around it again.
  `Aligned` says how that region lies in the old and in the new text: it starts where a line
  starts in both, and behind it the texts are the same up to the difference in length. So the
  lines before the region and those after it stay lines, and the update gives the lines of the
  new text.
-/

namespace SqlBuffer

/-- A text whose positions are words with a sign and not negative. Longer ones fit no memory. -/
def Fits (text : List Char) : Prop :=
  text.length < 0x8000000000000000

instance (text : List Char) : Decidable (Fits text) :=
  inferInstanceAs (Decidable (_ < _))

theorem Fits.lt_lastPosition {text : List Char} (h : Fits text) {i : Nat} (hi : i ≤ text.length) :
    i < lastPosition := by
  unfold Fits at h
  unfold lastPosition
  omega

theorem signedPosition_of_lt {i : Nat} (h : i < 0x8000000000000000) : signedPosition i = i := by
  unfold signedPosition
  apply Int.bmod_eq_of_le <;> omega

theorem positionOf_natCast {i : Nat} (h : i < 0x10000000000000000) : positionOf i = i := by
  rw [positionOf, Int.emod_eq_of_lt (by omega) (by omega), Int.toNat_natCast]

theorem Span.extend_of_le {a b n : Nat} (h : n ≤ a) : Span.extend ⟨a, b⟩ n = ⟨n, n⟩ :=
  if_pos h

theorem Span.extend_of_lt {a b n : Nat} (h : a < n) :
    Span.extend ⟨a, b⟩ n = ⟨a, min (b + 1) n⟩ :=
  if_neg (Nat.not_le.2 h)

theorem Span.shift_eq {r : Span} {delta : Int} {start : Nat} (h : r.start + delta = start)
    (hs : start ≤ lastPosition) : r.shift delta = ⟨start, start + r.length⟩ := by
  rw [Span.shift, h, Int.toNat_natCast, Nat.min_eq_left hs]
  rfl

theorem map_shift_spansFrom {s t : Nat} {delta : Int} (h : s + delta = t)
    {lines : List (List Char)} (ht : t + lines.flatten.length ≤ lastPosition) :
    (spansFrom s lines).map (·.shift delta) = spansFrom t lines := by
  induction lines generalizing s t with
  | nil => rfl
  | cons line lines ih =>
    rw [List.flatten_cons, List.length_append] at ht
    have hs : (⟨s, s + line.length⟩ : Span).shift delta = ⟨t, t + line.length⟩ := by
      rw [Span.shift_eq h (by omega), Span.length, Nat.add_sub_cancel_left]
    rw [spansFrom, spansFrom, List.map_cons, hs, ih (t := t + line.length) (by omega) (by omega)]

theorem map_shift_lineSpans {s t : Nat} {delta : Int} (h : s + delta = t) {text : List Char}
    (ht : t + text.length ≤ lastPosition) :
    (lineSpans s text).map (·.shift delta) = lineSpans t text :=
  map_shift_spansFrom h (by rw [flatten_splitLines]; exact ht)

/-- A change of a text: in it, between two parts that stay, one part is removed and another one
inserted. -/
structure Change where
  before : List Char
  removed : List Char
  inserted : List Char
  after : List Char

namespace Change

/-- The text that is changed. -/
def old (c : Change) : List Char :=
  c.before ++ c.removed ++ c.after

/-- The text after the change. -/
def new (c : Change) : List Char :=
  c.before ++ c.inserted ++ c.after

/-- The span of the inserted part in the new text. -/
def edited (c : Change) : Span :=
  ⟨c.before.length, c.before.length + c.inserted.length⟩

/-- The difference in length. -/
def delta (c : Change) : Int :=
  c.inserted.length - c.removed.length

theorem length_old (c : Change) :
    c.old.length = c.before.length + c.removed.length + c.after.length := by
  simp [old]; omega

theorem length_new (c : Change) :
    c.new.length = c.before.length + c.inserted.length + c.after.length := by
  simp [new]; omega

theorem drop_old (c : Change) (m : Nat) :
    c.old.drop (c.before.length + c.removed.length + m) = c.after.drop m := by
  rw [old, ← List.length_append, List.drop_append, List.drop_eq_nil_of_le (by omega),
    List.nil_append, Nat.add_sub_cancel_left]

theorem drop_new (c : Change) (m : Nat) :
    c.new.drop (c.before.length + c.inserted.length + m) = c.after.drop m := by
  rw [new, ← List.length_append, List.drop_append, List.drop_eq_nil_of_le (by omega),
    List.nil_append, Nat.add_sub_cancel_left]

theorem take_old (c : Change) {n : Nat} (h : n ≤ c.before.length) :
    c.old.take n = c.before.take n := by
  rw [old, List.append_assoc, List.take_append_of_le_length h]

theorem take_new (c : Change) {n : Nat} (h : n ≤ c.before.length) :
    c.new.take n = c.before.take n := by
  rw [new, List.append_assoc, List.take_append_of_le_length h]

/-- Before the end of the part in front, lines start in both texts at the same places. -/
theorem startsLine_before (c : Change) {p : Nat} (h : p < c.before.length) :
    StartsLine c.old p ↔ StartsLine c.new p := by
  rw [old, new, List.append_assoc, List.append_assoc]
  exact startsLine_append_left h

/-- Behind the first character of the part at the end, lines start in both texts at the same
places but for the difference in length. -/
theorem startsLine_after (c : Change) {m : Nat} (h : 1 ≤ m) :
    StartsLine c.old (c.before.length + c.removed.length + m) ↔
      StartsLine c.new (c.before.length + c.inserted.length + m) := by
  obtain ⟨m, rfl⟩ : ∃ k, m = k + 1 := ⟨m - 1, by omega⟩
  rw [old, new, ← List.length_append, ← List.length_append]
  exact (startsLine_append_right _ _ m).trans (startsLine_append_right _ _ m).symm

end Change

namespace LineIndex

variable {α : Type} {index : LineIndex α} {c : Change}

/-- The lines that a change touches: from the line where it starts to the line of the character
after it. If there is at most that one character the lines reach to the last. -/
theorem linesTouched_eq (h : index.Covers c.old) (ho : Fits c.old) (hn : Fits c.new) :
    index.linesTouched c.edited c.delta = ⟨lineNumber c.old c.before.length,
      if c.after.length ≤ 1 then index.size
      else lineNumber c.old (c.before.length + c.removed.length) + 1⟩ := by
  have hlo := c.length_old
  have hln := c.length_new
  unfold Fits at ho hn
  have hstart : signedPosition c.edited.start = c.before.length :=
    signedPosition_of_lt (i := c.before.length) (by omega)
  have hstop : signedPosition c.edited.stop - c.delta =
      ((c.before.length + c.removed.length : Nat) : Int) := by
    have := signedPosition_of_lt
      (by omega : c.before.length + c.inserted.length < 0x8000000000000000)
    rw [Change.edited, Change.delta, this]
    omega
  rw [linesTouched, hstart, hstop, if_neg (by omega), positionOf_natCast (by omega),
    h.textLength_eq, Change.edited]
  dsimp only
  by_cases he : c.old.length ≤ c.before.length
  · rw [Span.extend_of_le he, h.linesReached_eq (Nat.le_refl _) (Nat.le_refl _), if_pos rfl,
      if_pos (by omega), show c.old.length = c.before.length by omega]
  · rw [Span.extend_of_lt (Nat.not_le.1 he), h.linesReached_eq (by omega) (by omega)]
    by_cases hs : c.after.length ≤ 1
    · rw [if_pos (by omega), if_pos hs]
    · rw [if_neg (by omega), if_neg hs,
        show max c.before.length (min (c.before.length + c.removed.length + 1) c.old.length - 1) =
          c.before.length + c.removed.length by omega]

theorem lineStop_of_length_le {text : List Char} {i : Nat} (h : text.length ≤ i + 1) :
    lineStop text i = text.length := by
  obtain ⟨before, r, after, hat⟩ := exists_lineAt text i
  rw [hat.lineStop_eq]
  by_cases hi : i < text.length
  · have := hat.lt_stop hi
    have := hat.stop_le
    omega
  · have ha := hat.after_eq_nil (by omega)
    subst ha
    exact hat.stop_eq

/-- The lines of the new text around a change, up to the line of the character after it. -/
theorem lineRegion_eq (c : Change) :
    lineRegion c.new (c.edited.extend c.new.length) = ⟨lineStart c.new c.before.length,
      if c.after = [] then c.new.length
      else lineStop c.new (c.before.length + c.inserted.length)⟩ := by
  have hln := c.length_new
  rw [Change.edited, lineRegion]
  by_cases he : c.new.length ≤ c.before.length
  · have ha : c.after = [] := List.eq_nil_of_length_eq_zero (by omega)
    have hp : c.before.length = c.new.length := by omega
    rw [Span.extend_of_le he, if_pos (by simp [Span.isEmpty]), if_pos ha, hp]
    dsimp only
    rw [lineStop_of_length_le (by omega)]
  · rw [Span.extend_of_lt (Nat.not_le.1 he), if_neg (by simp [Span.isEmpty]; omega)]
    dsimp only
    by_cases ha : c.after = []
    · rw [if_pos ha, lineStop_of_length_le (by rw [ha, List.length_nil] at hln; omega)]
    · have := List.length_pos_iff.2 ha
      rw [if_neg ha, show min (c.before.length + c.inserted.length + 1) c.new.length - 1 =
        c.before.length + c.inserted.length by omega]

/-- How a replacement lies in the two texts of a change: its region starts at `a`, and behind the
change it takes up `m` characters of the part that stays. -/
structure Aligned (index : LineIndex α) (c : Change) (r : Replacement) (a m : Nat) : Prop where
  start_le : a ≤ c.before.length
  le_after : m ≤ c.after.length
  startsLine_old : StartsLine c.old a
  startsLine_new : StartsLine c.new a
  region : r.region = ⟨a, c.before.length + c.inserted.length + m⟩
  lines_start : r.lines.start = lineNumber c.old a
  /-- The region reaches the end of the text with the last line, or stops where a line starts. -/
  lines_stop : (m = c.after.length ∧ r.lines.stop = index.size) ∨
    (1 ≤ m ∧ StartsLine c.old (c.before.length + c.removed.length + m) ∧
      r.lines.stop = lineNumber c.old (c.before.length + c.removed.length + m) ∧
      r.lines.stop < index.size)

/-- The region starts at the earlier of the two line starts; the other bounds are those of the
lines touched in the old text and in the new one. -/
theorem replacement_eq (h : index.Covers c.old) (ho : Fits c.old) (hn : Fits c.new) {a b n : Nat}
    (ha : min (lineStart c.old c.before.length) (lineStart c.new c.before.length) = a)
    (hb : (lineRegion c.new (c.edited.extend c.new.length)).stop = b)
    (hl : (index.linesTouched c.edited c.delta).stop = n) :
    index.replacement c.new c.edited c.delta = ⟨⟨lineNumber c.old a, n⟩, ⟨a, b⟩⟩ := by
  subst ha hb hl
  have hlo := c.length_old
  obtain ⟨before, r, after, hat⟩ := exists_lineAt c.old c.before.length
  have hle := hat.start_le
  rw [← hat.lineStart_eq] at hle
  simp only [replacement, linesTouched_eq h ho hn, lineRegion_eq, h.charSpan_start]
  split
  · next hlt =>
    rw [Nat.min_eq_right (by omega), h.caretLine?_eq (by omega), Option.getD_some]
  · next hge =>
    rw [Nat.min_eq_left (by omega), hat.lineStart_eq, hat.at_start.lineNumber_eq,
      hat.lineNumber_eq]

/-- In both texts a line starts at the earlier of the two line starts. -/
theorem startsLine_min (c : Change) :
    StartsLine c.old (min (lineStart c.old c.before.length) (lineStart c.new c.before.length)) ∧
      StartsLine c.new
        (min (lineStart c.old c.before.length) (lineStart c.new c.before.length)) := by
  obtain ⟨_, r, _, h⟩ := exists_lineAt c.old c.before.length
  obtain ⟨_, r', _, h'⟩ := exists_lineAt c.new c.before.length
  have hs := h.startsLine
  have hs' := h'.startsLine
  have hle := h.start_le
  have hle' := h'.start_le
  rw [h.lineStart_eq, h'.lineStart_eq]
  rcases Nat.lt_trichotomy r.start r'.start with hlt | heq | hgt
  · rw [Nat.min_eq_left (by omega)]
    exact ⟨hs, (c.startsLine_before (by omega)).1 hs⟩
  · rw [heq, Nat.min_self]
    exact ⟨heq ▸ hs, hs'⟩
  · rw [Nat.min_eq_right (by omega)]
    exact ⟨(c.startsLine_before (by omega)).2 hs', hs'⟩

/-- The lines touched and the region stop at the same character of the part that stays. -/
theorem exists_replacement_stop (h : index.Covers c.old) (ho : Fits c.old) (hn : Fits c.new) :
    ∃ m n, m ≤ c.after.length ∧
      (lineRegion c.new (c.edited.extend c.new.length)).stop =
        c.before.length + c.inserted.length + m ∧
      (index.linesTouched c.edited c.delta).stop = n ∧
      ((m = c.after.length ∧ n = index.size) ∨
        (1 ≤ m ∧ StartsLine c.old (c.before.length + c.removed.length + m) ∧
          n = lineNumber c.old (c.before.length + c.removed.length + m) ∧ n < index.size)) := by
  have hlo := c.length_old
  have hln := c.length_new
  rw [linesTouched_eq h ho hn, lineRegion_eq]
  dsimp only
  by_cases hs : c.after.length ≤ 1
  · refine ⟨c.after.length, index.size, Nat.le_refl _, ?_, if_pos hs, Or.inl ⟨rfl, rfl⟩⟩
    split
    · exact hln
    · rw [lineStop_of_length_le (by omega), hln]
  · have hne : c.after ≠ [] := by
      intro he
      rw [he] at hs
      exact hs (Nat.zero_le 1)
    obtain ⟨before, r, after, hat⟩ := exists_lineAt c.old (c.before.length + c.removed.length)
    obtain ⟨_, r', _, hat'⟩ := exists_lineAt c.new (c.before.length + c.inserted.length)
    have hd : c.old.drop (c.before.length + c.removed.length) =
        c.new.drop (c.before.length + c.inserted.length) := (c.drop_old 0).trans (c.drop_new 0).symm
    have hle := hat.stop_sub_le hat' (by omega) hd
    have hge := hat'.stop_sub_le hat (by omega) hd.symm
    have hlt := hat.lt_stop (by omega)
    have hlt' := hat'.lt_stop (by omega)
    have hstop := hat.stop_le
    rw [if_neg hs, if_neg hne, hat'.lineStop_eq, hat.lineNumber_eq]
    refine ⟨r.stop - (c.before.length + c.removed.length), before.length + 1, by omega, by omega,
      rfl, ?_⟩
    rw [Nat.add_sub_cancel' (by omega)]
    have hsize := h.size_eq
    rw [hat.spans, List.length_append, List.length_cons] at hsize
    cases after with
    | nil =>
      have := hat.stop_eq
      rw [List.length_nil] at hsize
      exact Or.inl ⟨by omega, by omega⟩
    | cons x xs =>
      refine Or.inr ⟨by omega, hat.startsLine_stop, ?_, ?_⟩
      · rw [hat.next.lineNumber_eq, List.length_append, List.length_singleton]
      · rw [List.length_cons] at hsize
        omega

/-- The replacement of a change is aligned with both texts. -/
theorem exists_aligned (h : index.Covers c.old) (ho : Fits c.old) (hn : Fits c.new) :
    ∃ a m, Aligned index c (index.replacement c.new c.edited c.delta) a m := by
  obtain ⟨m, n, hm, hregion, hlines, hstop⟩ := exists_replacement_stop h ho hn
  obtain ⟨hs, hs'⟩ := startsLine_min c
  obtain ⟨_, r, _, hat⟩ := exists_lineAt c.old c.before.length
  have hle := hat.start_le
  rw [← hat.lineStart_eq] at hle
  rw [replacement_eq h ho hn rfl hregion hlines]
  exact ⟨_, m, by omega, hm, hs, hs', rfl, rfl, hstop⟩

namespace Aligned

variable {r : Replacement} {a m : Nat}

theorem region_le (h : Aligned index c r a m) :
    r.region.start ≤ r.region.stop ∧ r.region.stop ≤ c.new.length := by
  have := h.start_le
  have := h.le_after
  have := c.length_new
  rw [h.region]
  dsimp only
  omega

theorem lines_lt (h : Aligned index c r a m) (hc : index.Covers c.old) :
    r.lines.start < r.lines.stop ∧ r.lines.stop ≤ index.size := by
  rw [h.lines_start]
  rcases h.lines_stop with ⟨-, hs⟩ | ⟨hm, hs, hn, hlt⟩
  · rw [hs]
    exact ⟨hc.size_eq ▸ lineNumber_lt c.old a, Nat.le_refl _⟩
  · have := h.start_le
    rw [hn] at hlt ⊢
    exact ⟨lineNumber_lt_lineNumber hs (by omega), Nat.le_of_lt hlt⟩

theorem map_take (h : Aligned index c r a m) (hc : index.Covers c.old) :
    (index.lines.take r.lines.start).map (·.span) = fullLines 0 (c.new.take a) := by
  rw [List.map_take, hc, h.lines_start, take_lineSpans h.startsLine_old, c.take_old h.start_le,
    c.take_new h.start_le]

theorem startsLine_region (h : Aligned index c r a m) (hs : r.lines.stop ≠ index.size) :
    a < c.before.length + c.inserted.length + m ∧
      StartsLine c.new (c.before.length + c.inserted.length + m) := by
  rcases h.lines_stop with ⟨-, he⟩ | ⟨hm, ho, -⟩
  · exact absurd he hs
  · have := h.start_le
    exact ⟨by omega, (c.startsLine_after hm).1 ho⟩

theorem lines_isEmpty (h : Aligned index c r a m) (hc : index.Covers c.old) :
    r.lines.isEmpty = false := by
  have := h.lines_lt hc
  simp only [Span.isEmpty, decide_eq_false_iff_not]
  omega

theorem eq_length_after (h : Aligned index c r a m) (hs : r.lines.stop = index.size) :
    m = c.after.length := by
  rcases h.lines_stop with ⟨hm, -⟩ | ⟨-, -, -, hlt⟩
  · exact hm
  · omega

/-- The lines of a region that has the last line are all that splitting it gives. -/
theorem newLines_eq_split (h : Aligned index c r a m) (hc : index.Covers c.old)
    (hs : r.lines.stop = index.size) :
    index.newLines c.new r =
      (lineSpans r.region.start (r.region.slice c.new)).map Line.fresh := by
  rw [newLines, h.lines_isEmpty hc, hs]
  simp

/-- The lines of a region that reaches the end of the text are all those of its text. -/
theorem newLines_of_eq (h : Aligned index c r a m) (hc : index.Covers c.old)
    (hs : r.lines.stop = index.size) :
    index.newLines c.new r = (lineSpans a (c.new.drop a)).map Line.fresh := by
  have hm := h.eq_length_after hs
  have hln := c.length_new
  have hslice : r.region.slice c.new = c.new.drop a := by
    have hle : a ≤ c.new.length := startsLine_le h.startsLine_new
    rw [h.region, hm, ← hln, ← slice_append_drop hle, List.drop_length, List.append_nil]
  rw [h.newLines_eq_split hc hs, hslice, h.region]

/-- Within the text, the lines of the region are those of its text but for the empty one behind
the line break that ends it. -/
theorem newLines_of_ne (h : Aligned index c r a m) (hc : index.Covers c.old)
    (hs : r.lines.stop ≠ index.size) :
    index.newLines c.new r = (fullLines a (r.region.slice c.new)).map Line.fresh := by
  obtain ⟨hlt, hstart⟩ := h.startsLine_region hs
  have hl := lineSpans_eq_fullLines_append a (startsLine_length (startsLine_slice hstart hlt))
  rw [newLines, h.lines_isEmpty hc, h.region, hl, List.map_append]
  simp [hs, Line.fresh, Span.isEmpty]

theorem contiguous_newLines (h : Aligned index c r a m) (hc : index.Covers c.old) :
    Contiguous a ((index.newLines c.new r).map (·.span))
      (c.before.length + c.inserted.length + m) := by
  have hfresh (rs : List Span) : (rs.map (Line.fresh : Span → Line α)).map (·.span) = rs := by
    rw [List.map_map]
    exact List.map_id _
  have hall := contiguous_lineSpans a (c.new.drop a)
  by_cases hs : r.lines.stop = index.size
  · rw [List.length_drop, Nat.add_sub_cancel' (startsLine_le h.startsLine_new)] at hall
    rw [h.newLines_of_eq hc hs, hfresh, h.eq_length_after hs, ← c.length_new]
    exact hall
  · -- the lines of the text from the region on are those of the region and those behind it
    obtain ⟨hlt, hstart⟩ := h.startsLine_region hs
    rw [lineSpans_drop hstart hlt, contiguous_append] at hall
    obtain ⟨b, hb, hrest⟩ := hall
    have hbeq := hrest.start_unique (contiguous_lineSpans _ _) (lineSpans_ne_nil _ _)
    rw [hbeq] at hb
    rw [h.newLines_of_ne hc hs, hfresh, h.region]
    exact hb

theorem map_drop (h : Aligned index c r a m) (hc : index.Covers c.old)
    (hs : r.lines.stop ≠ index.size) :
    (index.lines.drop r.lines.stop).map (·.span) =
      lineSpans (c.before.length + c.removed.length + m) (c.after.drop m) := by
  rcases h.lines_stop with ⟨-, he⟩ | ⟨-, hstart, he, -⟩
  · exact absurd he hs
  · rw [List.map_drop, hc, he, drop_lineSpans hstart, c.drop_old]

/-- Moved by the difference in length, they are lines of the new text. -/
theorem map_shift_drop (h : Aligned index c r a m) (hc : index.Covers c.old) (hn : Fits c.new)
    (hs : r.lines.stop ≠ index.size) :
    ((index.lines.drop r.lines.stop).map (·.span)).map (·.shift c.delta) =
      lineSpans (c.before.length + c.inserted.length + m)
        (c.new.drop (c.before.length + c.inserted.length + m)) := by
  have hln := c.length_new
  have hm := h.le_after
  rw [h.map_drop hc hs, c.drop_new]
  apply map_shift_lineSpans
  · unfold Change.delta
    omega
  · unfold Fits at hn
    unfold lastPosition
    rw [List.length_drop]
    omega

theorem split_lines (h : Aligned index c r a m) (hc : index.Covers c.old) :
    index.lines = index.lines.take r.lines.start ++ r.lines.slice index.lines ++
      index.lines.drop r.lines.stop := by
  rw [List.append_assoc, slice_append_drop (Nat.le_of_lt (h.lines_lt hc).1),
    List.take_append_drop]

theorem length_take (h : Aligned index c r a m) (hc : index.Covers c.old) :
    (index.lines.take r.lines.start).length = r.lines.start := by
  have hlt := h.lines_lt hc
  unfold size at hlt
  rw [List.length_take]
  omega

theorem contiguous_take (h : Aligned index c r a m) (hc : index.Covers c.old) :
    Contiguous 0 ((index.lines.take r.lines.start).map (·.span)) a := by
  rw [List.map_take, hc, h.lines_start]
  exact contiguous_take_lineSpans h.startsLine_old

theorem contiguous_drop (h : Aligned index c r a m) (hc : index.Covers c.old) :
    Contiguous (c.before.length + c.removed.length + m)
      ((index.lines.drop r.lines.stop).map (·.span)) c.old.length := by
  have hlo := c.length_old
  have hm := h.le_after
  by_cases hs : r.lines.stop = index.size
  · rw [hs, size, List.drop_length, h.eq_length_after hs]
    exact hlo.symm
  · have hcont := contiguous_lineSpans (c.before.length + c.removed.length + m) (c.after.drop m)
    have hend : c.before.length + c.removed.length + m + (c.after.length - m) = c.old.length := by
      omega
    rw [← h.map_drop hc hs, List.length_drop, hend] at hcont
    exact hcont

theorem contiguous_lines (h : Aligned index c r a m) (hc : index.Covers c.old) :
    Contiguous a ((r.lines.slice index.lines).map (·.span))
      (c.before.length + c.removed.length + m) := by
  have hall := hc.contiguous
  rw [h.split_lines hc, List.map_append, List.map_append, contiguous_append] at hall
  obtain ⟨y, hall, hz⟩ := hall
  obtain ⟨x, hx, hy⟩ := contiguous_append.1 hall
  have hxa : x = a := hx.stop_unique (h.contiguous_take hc)
  have hyb : y = c.before.length + c.removed.length + m := by
    have hdrop := h.contiguous_drop hc
    cases hd : (index.lines.drop r.lines.stop).map (·.span) with
    | nil =>
      rw [hd] at hz hdrop
      exact Eq.trans hz (Eq.symm hdrop)
    | cons s ss =>
      rw [hd] at hz hdrop
      exact hz.start_unique hdrop (List.cons_ne_nil _ _)
  rw [← hxa, ← hyb]
  exact hy

/-- The characters of the lines to replace are the old text of the region. -/
theorem charSpan_lines (h : Aligned index c r a m) (hc : index.Covers c.old) :
    index.charSpan r.lines = ⟨a, c.before.length + c.removed.length + m⟩ := by
  obtain ⟨hlt, hsize⟩ := h.lines_lt hc
  have hlen : (r.lines.slice index.lines).length = r.lines.stop - r.lines.start :=
    length_slice hsize
  have hspan := charSpan_append (h.split_lines hc) (by rw [← List.length_pos_iff, hlen]; omega)
    (h.contiguous_lines hc)
  rw [h.length_take hc, hlen, Nat.add_sub_cancel' (Nat.le_of_lt hlt)] at hspan
  exact hspan

theorem start_of_mem_drop (h : Aligned index c r a m) (hc : index.Covers c.old) {line : Line α}
    (hl : line ∈ index.lines.drop r.lines.stop) :
    c.before.length + c.removed.length + m ≤ line.span.start ∧
      line.span.start ≤ line.span.stop ∧ line.span.stop ≤ c.old.length :=
  (h.contiguous_drop hc).bounds (List.mem_map_of_mem hl)

theorem stop_of_mem_take (h : Aligned index c r a m) (hc : index.Covers c.old) {line : Line α}
    (hl : line ∈ index.lines.take r.lines.start) : line.span.stop ≤ a :=
  ((h.contiguous_take hc).bounds (List.mem_map_of_mem hl)).2.2

theorem slice_of_mem_take (h : Aligned index c r a m) (hc : index.Covers c.old) {line : Line α}
    (hl : line ∈ index.lines.take r.lines.start) :
    line.span.slice c.new = line.span.slice c.old := by
  have hstop := h.stop_of_mem_take hc hl
  rw [← slice_take hstop, c.take_new h.start_le, ← c.take_old h.start_le, slice_take hstop]

/-- A line behind the region is moved by the difference in length to where the same text stands,
and stays within the positions. -/
theorem exists_shift_eq (h : Aligned index c r a m) (hc : index.Covers c.old) (hn : Fits c.new)
    {line : Line α} (hl : line ∈ index.lines.drop r.lines.stop) :
    ∃ start, line.span.shift c.delta = ⟨start, start + line.span.length⟩ ∧
      (line.span.start : Int) + c.delta = start ∧ start + line.span.length ≤ c.new.length ∧
      (line.span.shift c.delta).slice c.new = line.span.slice c.old := by
  obtain ⟨hstart, hstop, hle⟩ := h.start_of_mem_drop hc hl
  have hlo := c.length_old
  have hln := c.length_new
  obtain ⟨j, hj⟩ : ∃ j, line.span.start = c.before.length + c.removed.length + j :=
    ⟨line.span.start - (c.before.length + c.removed.length), by omega⟩
  have hd : (line.span.start : Int) + c.delta =
      ((c.before.length + c.inserted.length + j : Nat) : Int) := by
    unfold Change.delta
    omega
  have hend : c.before.length + c.inserted.length + j + line.span.length ≤ c.new.length := by
    unfold Span.length
    omega
  have hshift := Span.shift_eq hd (by unfold Fits at hn; unfold lastPosition; omega)
  refine ⟨_, hshift, hd, hend, ?_⟩
  have hlen : Span.length ⟨c.before.length + c.inserted.length + j,
      c.before.length + c.inserted.length + j + line.span.length⟩ = line.span.length :=
    Nat.add_sub_cancel_left _ _
  rw [hshift, Span.slice, Span.slice, hlen, c.drop_new, hj, c.drop_old]

end Aligned

/-- The update of an index of the old text is an index of the new one. -/
theorem covers_update (h : index.Covers c.old) (ho : Fits c.old) (hn : Fits c.new) :
    (index.update c.new c.edited c.delta).1.Covers c.new := by
  obtain ⟨a, m, hr⟩ := exists_aligned h ho hn
  rw [Covers, update]
  generalize index.replacement c.new c.edited c.delta = r at hr
  have hfresh (rs : List Span) : (rs.map (Line.fresh : Span → Line α)).map (·.span) = rs := by
    rw [List.map_map]
    exact List.map_id _
  have hshift (lines : List (Line α)) :
      (lines.map fun line => { line with span := line.span.shift c.delta }).map (·.span) =
        (lines.map (·.span)).map (·.shift c.delta) := by
    rw [List.map_map, List.map_map]
    rfl
  rw [List.map_append, List.map_append, hr.map_take h, hshift,
    ← List.take_append_drop (lineNumber c.new a) (lineSpans 0 c.new),
    take_lineSpans hr.startsLine_new, drop_lineSpans hr.startsLine_new, List.append_assoc]
  by_cases hs : r.lines.stop = index.size
  · rw [hr.newLines_of_eq h hs, hfresh, hs, size, List.drop_length, List.map_nil, List.map_nil,
      List.append_nil]
  · obtain ⟨hlt, hstart⟩ := hr.startsLine_region hs
    rw [hr.newLines_of_ne h hs, hfresh, hr.map_shift_drop h hn hs, lineSpans_drop hstart hlt,
      hr.region]

/-! ## Indexes that changes lead to -/

/-- The indexes of a text that opening it, changing it and noting what is known about its lines
lead to. -/
inductive Reaches : LineIndex α → List Char → Prop
  | ofText {text : List Char} (h : Fits text) : Reaches (.ofText text) text
  | update {index : LineIndex α} {c : Change} (h : Reaches index c.old) (hn : Fits c.new) :
      Reaches (index.update c.new c.edited c.delta).1 c.new
  | setInfo {index : LineIndex α} {text : List Char} (h : Reaches index text) (n : Nat)
      (info : Option α) : Reaches (index.setInfo n info) text

theorem Reaches.fits {text : List Char} (h : Reaches index text) : Fits text := by
  induction h with
  | ofText h => exact h
  | update _ hn _ => exact hn
  | setInfo _ _ _ ih => exact ih

theorem Reaches.covers {text : List Char} (h : Reaches index text) : index.Covers text := by
  induction h with
  | ofText _ => exact covers_ofText _
  | update h hn ih => exact covers_update ih h.fits hn
  | setInfo _ n info ih => exact covers_setInfo ih n info

theorem Covers.exists_start_iff {text : List Char} (h : index.Covers text) (p : Nat) :
    (∃ line ∈ index.lines, line.span.start = p) ↔ StartsLine text p := by
  constructor
  · rintro ⟨line, hl, rfl⟩
    have hm : line.span ∈ lineSpans 0 text := by
      rw [← h]
      exact List.mem_map_of_mem hl
    obtain ⟨xs, ys, hs⟩ := List.append_of_mem hm
    exact startsLine_of_lineSpans hs
  · intro hp
    obtain ⟨r, after, hat, hr, -⟩ := exists_lineAt_of_startsLine hp
    have hm : r ∈ index.lines.map (·.span) := by
      rw [h, hat.spans]
      exact List.mem_append_right _ List.mem_cons_self
    obtain ⟨line, hl, rfl⟩ := List.mem_map.1 hm
    exact ⟨line, hl, hr⟩

/-- An update looks at no place outside the texts and the index, and moves no line out of the
positions. -/
structure InBounds (index : LineIndex α) (c : Change) : Prop where
  edited : (c.edited.extend c.new.length).start ≤ (c.edited.extend c.new.length).stop ∧
    (c.edited.extend c.new.length).stop ≤ c.new.length
  lines : (index.replacement c.new c.edited c.delta).lines.start <
      (index.replacement c.new c.edited c.delta).lines.stop ∧
    (index.replacement c.new c.edited c.delta).lines.stop ≤ index.size
  region : (index.replacement c.new c.edited c.delta).region.start ≤
      (index.replacement c.new c.edited c.delta).region.stop ∧
    (index.replacement c.new c.edited c.delta).region.stop ≤ c.new.length
  replaced : (index.update c.new c.edited c.delta).2.stop ≤
    (index.update c.new c.edited c.delta).1.size
  shift : ∀ line ∈ index.lines.drop (index.replacement c.new c.edited c.delta).lines.stop,
    ((line.span.shift c.delta).start : Int) = line.span.start + c.delta

theorem Covers.inBounds (h : index.Covers c.old) (ho : Fits c.old) (hn : Fits c.new) :
    InBounds index c := by
  have hln := c.length_new
  obtain ⟨a, m, hr⟩ := exists_aligned h ho hn
  have hlines := hr.lines_lt h
  refine ⟨?_, hlines, hr.region_le, ?_, ?_⟩
  · rw [Change.edited]
    by_cases he : c.new.length ≤ c.before.length
    · rw [Span.extend_of_le he]
      exact ⟨Nat.le_refl _, Nat.le_refl _⟩
    · rw [Span.extend_of_lt (Nat.not_le.1 he)]
      dsimp only
      omega
  · rw [update]
    generalize index.replacement c.new c.edited c.delta = r at *
    dsimp only [size]
    rw [List.length_append, List.length_append, List.length_take]
    unfold size at hlines
    omega
  · intro line hl
    obtain ⟨start, hshift, hd, -, -⟩ := hr.exists_shift_eq h hn hl
    rw [hshift, hd]

/-- Whatever changes led to an index of a text, its lines are those of the text: they follow each
other without a gap, no two at the same place, and start exactly where a line of the text starts.
Every further change can be made within bounds. -/
theorem lines_of_reaches {text : List Char} (h : Reaches index text) :
    index.lines.map (·.span) = (ofText text : LineIndex α).lines.map (·.span) ∧
      Contiguous 0 (index.lines.map (·.span)) text.length ∧
      (index.lines.map (·.span)).Pairwise (·.start < ·.start) ∧
      (∀ p, (∃ line ∈ index.lines, line.span.start = p) ↔ StartsLine text p) ∧
      ∀ c : Change, c.old = text → Fits c.new → InBounds index c := by
  refine ⟨h.covers.trans (covers_ofText text).symm, h.covers.contiguous, ?_,
    h.covers.exists_start_iff, ?_⟩
  · rw [h.covers]
    exact pairwise_lineSpans 0 text
  · rintro c rfl hn
    exact h.covers.inBounds h.fits hn

/-- A line feed put after a return joins its line, and the line after it starts one later. -/
theorem lines_of_reaches_joined_return :
    let c : Change := ⟨['a', '\r'], [], ['\n'], ['b']⟩
    Reaches ((ofText c.old : LineIndex Nat).update c.new c.edited c.delta).1 c.new ∧
      ((ofText c.old : LineIndex Nat).update c.new c.edited c.delta).1.lines.map (·.span) =
        [⟨0, 3⟩, ⟨3, 4⟩] := by
  intro c
  have h : Reaches ((ofText c.old : LineIndex Nat).update c.new c.edited c.delta).1 c.new :=
    .update (.ofText (by decide)) (by decide)
  exact ⟨h, (lines_of_reaches h).1.trans (by decide)⟩

end LineIndex

end SqlBuffer
