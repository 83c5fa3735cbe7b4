import SqlBuffer.Proofs.LineUpdate

/-
  What a line index answers about places.
  The lines of a text share its characters out among them, so the number of the line of a position
  is compared with a line by looking at the ends of that line: `le_lineNumber_iff` and
  `lineNumber_le_iff`. This gives the one line that holds a character, the place of each caret and
  the lines that a span needs, whatever changes led to the index. The end of the text is the one
  caret that no character stands at; it is on the last line, which may be empty.
-/

namespace SqlBuffer

/-- Two spans have a position in common. -/
def Span.Meets (r s : Span) : Prop :=
  ∃ i, r.contains i = true ∧ s.contains i = true

namespace LineIndex

variable {α : Type} {index : LineIndex α} {text : List Char}

/-! ## Lines and their numbers -/

section Numbers

variable {k : Nat} {line : Line α}

theorem Covers.lineNumber_start (h : index.Covers text) (hl : index.line? k = some line) :
    lineNumber text line.span.start = k := by
  obtain ⟨before, after, rfl, hat⟩ := h.lineAt_of_line? hl
  exact hat.lineNumber_eq

theorem Covers.le_lineNumber_iff (h : index.Covers text) (hl : index.line? k = some line)
    (i : Nat) : k ≤ lineNumber text i ↔ line.span.start ≤ i := by
  have hk := h.lineNumber_start hl
  constructor
  · intro hle
    refine Nat.le_of_not_lt fun hlt => ?_
    have hs : StartsLine text line.span.start :=
      (h.exists_start_iff _).1 ⟨line, List.mem_of_getElem? hl, rfl⟩
    have := lineNumber_lt_lineNumber hs hlt
    omega
  · intro hle
    rw [← hk]
    exact lineNumber_mono text hle

theorem Covers.lineNumber_le_iff (h : index.Covers text) (hl : index.line? k = some line) {i : Nat}
    (hi : i < text.length) : lineNumber text i ≤ k ↔ i < line.span.stop := by
  obtain ⟨before, after, rfl, hat⟩ := h.lineAt_of_line? hl
  constructor
  · intro hle
    refine Nat.lt_of_not_le fun hstop => ?_
    cases after with
    | nil =>
      have := hat.stop_eq
      omega
    | cons x xs =>
      -- the next line starts at the character or before it
      have hnext := hat.next.lineNumber_eq
      have hmono := lineNumber_mono text hstop
      rw [hnext, List.length_append, List.length_singleton] at hmono
      omega
  · intro hlt
    by_cases hs : line.span.start ≤ i
    · exact Nat.le_of_eq (hat.of_lt_stop hs hlt).lineNumber_eq
    · rw [← hat.lineNumber_eq]
      exact lineNumber_mono text (by omega)

theorem Covers.start_le_stop (h : index.Covers text) (hl : index.line? k = some line) :
    line.span.start ≤ line.span.stop ∧ line.span.stop ≤ text.length :=
  (h.contiguous.bounds (List.mem_map_of_mem (List.mem_of_getElem? hl))).2

theorem Covers.lineNumber_of_contains (h : index.Covers text) (hl : index.line? k = some line)
    {i : Nat} (hi : line.span.contains i = true) : lineNumber text i = k := by
  obtain ⟨hs, hlt⟩ := Span.contains_iff.1 hi
  obtain ⟨-, hlen⟩ := h.start_le_stop hl
  have hle := (h.lineNumber_le_iff hl (by omega)).2 hlt
  have hge := (h.le_lineNumber_iff hl i).2 hs
  omega

theorem Covers.exists_contains (h : index.Covers text) {i : Nat} (hi : i < text.length) :
    ∃ line, index.line? (lineNumber text i) = some line ∧ line.span.contains i = true := by
  obtain ⟨line, hl, hspan⟩ := h.line?_lineNumber i
  refine ⟨line, hl, ?_⟩
  rw [hspan, Span.contains_iff]
  exact ⟨lineStart_le text i, lt_lineStop hi⟩

theorem Covers.stop_of_last (h : index.Covers text) (hl : index.line? index.last = some line) :
    line.span.stop = text.length := by
  rw [h.last_eq] at hl
  rw [h.span_of_lineNumber hl]
  exact lineStop_of_length_le (Nat.le_succ _)

theorem Covers.eq_last_of_empty (h : index.Covers text) (hl : index.line? k = some line)
    (he : line.span.stop ≤ line.span.start) : k = index.last ∧ line.span.start = text.length := by
  obtain ⟨before, after, rfl, hat⟩ := h.lineAt_of_line? hl
  cases after with
  | cons x xs =>
    have := hat.start_lt_stop (List.cons_ne_nil x xs)
    omega
  | nil =>
    have hs := hat.stop_eq
    have hle := hat.contiguous.2.1
    have hend : line.span.start = text.length := by omega
    refine ⟨?_, hend⟩
    rw [h.last_eq, ← hend, hat.lineNumber_eq]

theorem Covers.lineNumber_of_column (h : index.Covers text) (hl : index.line? k = some line)
    {c : Nat} (hc : c ≤ line.span.length) (hlast : c = line.span.length → k = index.last) :
    lineNumber text (line.span.start + c) = k := by
  obtain ⟨hle, -⟩ := h.start_le_stop hl
  unfold Span.length at hc hlast
  by_cases hlt : c < line.span.stop - line.span.start
  · exact h.lineNumber_of_contains hl (Span.contains_iff.2 (by omega))
  · obtain rfl : k = index.last := hlast (by omega)
    have := h.stop_of_last hl
    rw [h.last_eq]
    congr 1
    omega

theorem Covers.empty_of_lt (h : index.Covers text) (hl : index.line? k = some line)
    (hk : lineNumber text (text.length - 1) < k) : line.span.stop ≤ line.span.start := by
  obtain ⟨-, hstop⟩ := h.start_le_stop hl
  have hstart := mt (h.le_lineNumber_iff hl (text.length - 1)).2 (Nat.not_le.2 hk)
  omega

end Numbers

/-! ## Places of carets -/

theorem Covers.lineHolding?_iff (h : index.Covers text) (i k : Nat) :
    index.lineHolding? i = some k ↔
      ∃ line, index.line? k = some line ∧ line.span.contains i = true := by
  constructor
  · intro hk
    rw [h.lineHolding?_eq] at hk
    split at hk
    · next hi =>
      cases hk
      exact h.exists_contains hi
    · cases hk
  · rintro ⟨line, hl, hi⟩
    obtain ⟨hs, hlt⟩ := Span.contains_iff.1 hi
    exact h.lineHolding?_of_line? hl hs hlt

theorem Covers.caretLine?_of_length_lt (h : index.Covers text) {i : Nat} (hi : text.length < i) :
    index.caretLine? i = none := by
  obtain ⟨before, line, hl, hat⟩ := h.exists_last
  have hs := hat.stop_eq
  rw [caretLine?, hl, List.getLast?_concat]
  dsimp only
  rw [if_neg (by omega), h.lineHolding?_eq, if_neg (by omega)]

theorem Covers.caretPlace?_eq (h : index.Covers text) {i : Nat} (hi : i ≤ text.length) :
    index.caretPlace? i = some (lineNumber text i, i - lineStart text i) := by
  obtain ⟨line, hl, hspan⟩ := h.line?_lineNumber i
  rw [caretPlace?, h.caretLine?_eq hi]
  simp only [Option.bind_eq_bind, Option.bind_some, hl, hspan]
  rfl

theorem Covers.caretPlace?_of_length_lt (h : index.Covers text) {i : Nat} (hi : text.length < i) :
    index.caretPlace? i = none := by
  rw [caretPlace?, h.caretLine?_of_length_lt hi]
  rfl

/-- A place is a line and a column on it. The column behind the last character of a line is a place
on the last line only; elsewhere it is the start of the next line. -/
theorem Covers.caretPlace?_iff (h : index.Covers text) (i k c : Nat) :
    index.caretPlace? i = some (k, c) ↔
      ∃ line, index.line? k = some line ∧ line.span.start + c = i ∧ c ≤ line.span.length ∧
        (c = line.span.length → k = index.last) := by
  constructor
  · intro hplace
    by_cases hi : i ≤ text.length
    · rw [h.caretPlace?_eq hi] at hplace
      cases hplace
      obtain ⟨line, hl, hspan⟩ := h.line?_lineNumber i
      have hs := lineStart_le text i
      have hle := le_lineStop hi
      refine ⟨line, hl, ?_, ?_, fun hc => ?_⟩
      · rw [hspan]
        dsimp only
        omega
      · rw [hspan, Span.length]
        dsimp only
        omega
      · rw [hspan, Span.length] at hc
        dsimp only at hc
        -- a character stands before the end of its line
        have hend : i = text.length := by
          refine Nat.le_antisymm hi (Nat.le_of_not_lt fun hlt => ?_)
          have := lt_lineStop hlt
          omega
        rw [h.last_eq, ← hend]
    · rw [h.caretPlace?_of_length_lt (Nat.lt_of_not_le hi)] at hplace
      cases hplace
  · rintro ⟨line, hl, rfl, hc, hlast⟩
    have hk := h.lineNumber_of_column hl hc hlast
    have hstart : line.span.start = lineStart text (line.span.start + c) :=
      congrArg Span.start (h.span_of_lineNumber (hk.symm ▸ hl))
    obtain ⟨hle, hlen⟩ := h.start_le_stop hl
    unfold Span.length at hc
    rw [h.caretPlace?_eq (by omega), hk, ← hstart, Nat.add_sub_cancel_left]

theorem Covers.caretPlace?_lt (h : index.Covers text) {i j : Nat} (hij : i < j)
    (hj : j ≤ text.length) :
    ∃ p q, index.caretPlace? i = some p ∧ index.caretPlace? j = some q ∧
      Prod.Lex (· < ·) (· < ·) p q := by
  refine ⟨_, _, h.caretPlace?_eq (by omega), h.caretPlace?_eq hj, ?_⟩
  rcases Nat.lt_or_eq_of_le (lineNumber_mono text (Nat.le_of_lt hij)) with hlt | heq
  · exact .left _ _ hlt
  · -- on one line the columns count from the same start
    obtain ⟨line, hl, hspan⟩ := h.line?_lineNumber i
    have hspan' := h.span_of_lineNumber (heq ▸ hl)
    have hstart : lineStart text i = lineStart text j :=
      congrArg Span.start (hspan.symm.trans hspan')
    have hle := lineStart_le text i
    rw [heq, hstart]
    refine .right _ ?_
    rw [hstart] at hle
    omega

/-- Lines, characters and carets correspond in an index of `n` characters. -/
structure CaretPlaces (index : LineIndex α) (n : Nat) : Prop where
  /-- A character is held by the one line whose span contains it. -/
  lineHolding?_iff : ∀ i k, index.lineHolding? i = some k ↔
    ∃ line, index.line? k = some line ∧ line.span.contains i = true
  lineHolding?_isSome : ∀ i, (index.lineHolding? i).isSome = true ↔ i < n
  caretLine?_isSome : ∀ i, (index.caretLine? i).isSome = true ↔ i ≤ n
  caretPlace?_isSome : ∀ i, (index.caretPlace? i).isSome = true ↔ i ≤ n
  caretLine?_eq : ∀ i, index.caretLine? i = (index.caretPlace? i).map Prod.fst
  /-- The end of the text is on the last line, and it takes no character from another line. -/
  caretLine?_end : index.caretLine? n = some index.last
  caretLine?_of_lt : ∀ i, i < n → index.caretLine? i = index.lineHolding? i
  /-- A place is a column of a line, up to the one behind its last character on the last line. -/
  caretPlace?_iff : ∀ i k c, index.caretPlace? i = some (k, c) ↔
    ∃ line, index.line? k = some line ∧ line.span.start + c = i ∧ c ≤ line.span.length ∧
      (c = line.span.length → k = index.last)
  caretPlace?_lt : ∀ i j, i < j → j ≤ n → ∃ p q, index.caretPlace? i = some p ∧
    index.caretPlace? j = some q ∧ Prod.Lex (· < ·) (· < ·) p q

/-- Whatever changes led to an index of a text, each character is on one line, and the positions
from the start to the end of the text correspond one to one to the columns of the lines, in the
same order. -/
theorem caretPlaces_of_reaches (h : Reaches index text) : CaretPlaces index text.length := by
  have hc := h.covers
  refine ⟨hc.lineHolding?_iff, fun i => ?_, fun i => ?_, fun i => ?_, fun i => ?_, ?_,
    fun i hi => ?_, hc.caretPlace?_iff, fun i j => hc.caretPlace?_lt⟩
  · rw [hc.lineHolding?_eq]
    split <;> simp_all
  · by_cases hi : i ≤ text.length
    · simp [hc.caretLine?_eq hi, hi]
    · simp [hc.caretLine?_of_length_lt (Nat.lt_of_not_le hi), hi]
  · by_cases hi : i ≤ text.length
    · simp [hc.caretPlace?_eq hi, hi]
    · simp [hc.caretPlace?_of_length_lt (Nat.lt_of_not_le hi), hi]
  · by_cases hi : i ≤ text.length
    · rw [hc.caretLine?_eq hi, hc.caretPlace?_eq hi]
      rfl
    · rw [hc.caretLine?_of_length_lt (Nat.lt_of_not_le hi),
        hc.caretPlace?_of_length_lt (Nat.lt_of_not_le hi)]
      rfl
  · rw [hc.caretLine?_eq (Nat.le_refl _), hc.last_eq]
  · rw [hc.caretLine?_eq (Nat.le_of_lt hi), hc.lineHolding?_eq, if_pos hi]

/-- A line feed put after a return moves the start of the last line, and the carets with it. -/
theorem caretPlaces_of_reaches_joined_return :
    let c : Change := ⟨['a', '\r'], [], ['\n'], ['b']⟩
    let index := ((ofText c.old : LineIndex Nat).update c.new c.edited c.delta).1
    CaretPlaces index c.new.length ∧
      [2, 3, 4, 5].map index.caretPlace? = [some (0, 2), some (1, 0), some (1, 1), none] := by
  intro c index
  have h : Reaches index c.new := .update (.ofText (by decide)) (by decide)
  exact ⟨caretPlaces_of_reaches h, by decide +kernel⟩

/-! ## Lines of a span -/

/-- Line `k` has a character of the span. -/
def LineMeets (index : LineIndex α) (k : Nat) (r : Span) : Prop :=
  ∃ line, index.line? k = some line ∧ line.span.Meets r

/-- Line `k` is the empty one at the end of the text. -/
def EmptyEnd (index : LineIndex α) (k : Nat) : Prop :=
  k = index.last ∧ ∃ line, index.line? k = some line ∧ line.span.isEmpty = true

/-- A position is on one of some lines. -/
def OnLines (index : LineIndex α) (ks : Nat → Prop) (i : Nat) : Prop :=
  ∃ k line, ks k ∧ index.line? k = some line ∧ line.span.contains i = true

/-- The span `s` is the smallest union of whole lines that has all of `r`. -/
structure LeastLines (index : LineIndex α) (r s : Span) : Prop where
  whole : ∃ ks : Nat → Prop, ∀ i, s.contains i = true ↔ index.OnLines ks i
  holds : ∀ i, r.contains i = true → s.contains i = true
  least : ∀ ks : Nat → Prop, (∀ i, r.contains i = true → index.OnLines ks i) →
    ∀ i, s.contains i = true → index.OnLines ks i

theorem Covers.exists_line? (h : index.Covers text) {k i : Nat} (hk : k ≤ lineNumber text i) :
    ∃ line, index.line? k = some line := by
  have hlt := lineNumber_lt text i
  rw [← h.size_eq] at hlt
  exact ⟨_, List.getElem?_eq_getElem (Nat.lt_of_le_of_lt hk hlt)⟩

section Ranges

variable {a b : Nat}

/-- The lines with a character of a span are those from the line of its first character to that of
its last. -/
theorem Covers.lineMeets_iff (h : index.Covers text) (hab : a < b) (hb : b ≤ text.length)
    (k : Nat) : index.LineMeets k ⟨a, b⟩ ↔ lineNumber text a ≤ k ∧ k ≤ lineNumber text (b - 1) := by
  constructor
  · rintro ⟨line, hl, i, hi, hr⟩
    rw [Span.contains_iff] at hi hr
    dsimp only at hr
    rw [h.lineNumber_le_iff hl (by omega), h.le_lineNumber_iff hl]
    omega
  · rintro ⟨ha, hk⟩
    obtain ⟨line, hl⟩ := h.exists_line? hk
    rw [h.lineNumber_le_iff hl (by omega)] at ha
    rw [h.le_lineNumber_iff hl] at hk
    have hne : line.span.start < line.span.stop := by
      refine Nat.lt_of_not_le fun hle => ?_
      have := (h.eq_last_of_empty hl hle).2
      omega
    refine ⟨line, hl, max line.span.start a, Span.contains_iff.2 ?_, Span.contains_iff.2 ?_⟩
    · omega
    · dsimp only
      omega

theorem Covers.linesHolding_iff (h : index.Covers text) (hab : a < b) (hb : b ≤ text.length)
    (k : Nat) : (index.linesHolding ⟨a, b⟩).contains k = true ↔ index.LineMeets k ⟨a, b⟩ := by
  rw [h.lineMeets_iff hab hb, h.linesHolding_eq (Nat.le_of_lt hab) hb, Span.contains_iff,
    Nat.max_eq_right (by omega), Nat.lt_succ_iff]

/-- A span that ends with the text reaches the empty line there as well. -/
theorem Covers.linesReached_iff (h : index.Covers text) (hab : a < b) (hb : b ≤ text.length)
    (k : Nat) : (index.linesReached ⟨a, b⟩).contains k = true ↔
      index.LineMeets k ⟨a, b⟩ ∨ (b = text.length ∧ index.EmptyEnd k) := by
  rw [h.lineMeets_iff hab hb, h.linesReached_eq (Nat.le_of_lt hab) hb, Span.contains_iff,
    Nat.max_eq_right (by omega)]
  dsimp only
  by_cases he : b = text.length
  · rw [if_pos he]
    constructor
    · rintro ⟨ha, hk⟩
      by_cases hle : k ≤ lineNumber text (b - 1)
      · exact Or.inl ⟨ha, hle⟩
      · obtain ⟨line, hl⟩ : ∃ line, index.line? k = some line :=
          ⟨_, List.getElem?_eq_getElem hk⟩
        have hempty := h.empty_of_lt hl (by rw [← he]; omega)
        exact Or.inr ⟨he, (h.eq_last_of_empty hl hempty).1, line, hl, decide_eq_true hempty⟩
    · have hsize := lineNumber_lt text text.length
      rw [← h.size_eq] at hsize
      rintro (⟨ha, hk⟩ | ⟨-, rfl, -⟩)
      · have := lineNumber_mono text (by omega : b - 1 ≤ text.length)
        exact ⟨ha, by omega⟩
      · rw [h.last_eq]
        exact ⟨lineNumber_mono text (by omega), hsize⟩
  · rw [if_neg he, Nat.lt_succ_iff]
    simp [he]

theorem Covers.lines_bounds (h : index.Covers text) (hab : a < b) (hb : b ≤ text.length) :
    ((index.linesHolding ⟨a, b⟩).start < (index.linesHolding ⟨a, b⟩).stop ∧
        (index.linesHolding ⟨a, b⟩).stop ≤ index.size) ∧
      (index.linesReached ⟨a, b⟩).start < (index.linesReached ⟨a, b⟩).stop ∧
        (index.linesReached ⟨a, b⟩).stop ≤ index.size := by
  have hmono := lineNumber_mono text (Nat.le_max_left a (b - 1))
  have hlt := lineNumber_lt text (max a (b - 1))
  rw [← h.size_eq] at hlt
  rw [h.linesHolding_eq (Nat.le_of_lt hab) hb, h.linesReached_eq (Nat.le_of_lt hab) hb]
  dsimp only
  split <;> omega

theorem Covers.lines_of_caret (h : index.Covers text) {i : Nat} (hi : i ≤ text.length) :
    index.linesHolding ⟨i, i⟩ = ⟨lineNumber text i, lineNumber text i + 1⟩ ∧
      index.linesReached ⟨i, i⟩ = ⟨lineNumber text i, lineNumber text i + 1⟩ := by
  rw [h.linesHolding_eq (Nat.le_refl _) hi, h.linesReached_eq (Nat.le_refl _) hi,
    Nat.max_eq_left (Nat.sub_le i 1)]
  refine ⟨rfl, ?_⟩
  split
  · next he =>
    have hlast := h.last_eq
    have hlt := lineNumber_lt text i
    rw [← h.size_eq] at hlt
    rw [← he] at hlast
    unfold last at hlast
    congr 1
    omega
  · rfl

/-- The lines that hold a span go from the start of the line of its first character to the end of
the line of its last. -/
theorem Covers.charSpan_linesHolding (h : index.Covers text) (hab : a ≤ b) (hb : b ≤ text.length) :
    index.charSpan (index.linesHolding ⟨a, b⟩) =
      ⟨lineStart text a, lineStop text (max a (b - 1))⟩ := by
  obtain ⟨first, hf, hfs⟩ := h.line?_lineNumber a
  obtain ⟨final, hl, hls⟩ := h.line?_lineNumber (max a (b - 1))
  have hmono := lineNumber_mono text (Nat.le_max_left a (b - 1))
  have hlt := lineNumber_lt text (max a (b - 1))
  have hstart := lineStart_le text a
  have hstop := le_lineStop (by omega : max a (b - 1) ≤ text.length)
  rw [← h.size_eq] at hlt
  rw [h.linesHolding_eq hab hb, charSpan_of_lt (by omega) hlt hf hl, hfs, hls]
  dsimp only
  rw [Nat.max_eq_left (by omega)]

theorem Covers.contains_charSpan_iff (h : index.Covers text) {lines : Span}
    (hne : lines.start < lines.stop) (hs : lines.stop ≤ index.size) (i : Nat) :
    (index.charSpan lines).contains i = true ↔
      index.OnLines (fun k => lines.contains k = true) i := by
  obtain ⟨first, hf⟩ : ∃ line, index.line? lines.start = some line :=
    ⟨_, List.getElem?_eq_getElem (by unfold size at hs; omega)⟩
  obtain ⟨final, hl⟩ : ∃ line, index.line? (lines.stop - 1) = some line :=
    ⟨_, List.getElem?_eq_getElem (by unfold size at hs; omega)⟩
  have hspan : index.charSpan lines =
      ⟨first.span.start, max final.span.stop first.span.start⟩ :=
    charSpan_of_lt hne hs hf hl
  have hlen := (h.start_le_stop hl).2
  rw [hspan, Span.contains_iff]
  dsimp only
  constructor
  · rintro ⟨hstart, hstop⟩
    have hi : i < final.span.stop := by omega
    obtain ⟨line, hline, hc⟩ := h.exists_contains (by omega : i < text.length)
    have hge := (h.le_lineNumber_iff hf i).2 hstart
    have hle := (h.lineNumber_le_iff hl (by omega)).2 hi
    exact ⟨lineNumber text i, line, Span.contains_iff.2 (by omega), hline, hc⟩
  · rintro ⟨k, line, hk, hline, hc⟩
    rw [Span.contains_iff] at hk
    have hnum := h.lineNumber_of_contains hline hc
    have hlt := (Span.contains_iff.1 hc).2
    have hend := (h.start_le_stop hline).2
    have hge := (h.le_lineNumber_iff hf i).1 (by omega)
    have hle := (h.lineNumber_le_iff hl (by omega)).1 (by omega : lineNumber text i ≤ _)
    omega

/-- Consecutive lines that are those with a character of a span, but for an empty one, make up the
smallest union of lines around it. -/
theorem Covers.leastLines (h : index.Covers text) {lines r : Span} (hr : r.stop ≤ text.length)
    (hne : lines.start < lines.stop) (hs : lines.stop ≤ index.size)
    (hmeets : ∀ k, index.LineMeets k r → lines.contains k = true)
    (hlines : ∀ k, lines.contains k = true → index.LineMeets k r ∨ index.EmptyEnd k) :
    LeastLines index r (index.charSpan lines) := by
  have hspan := h.contains_charSpan_iff hne hs
  refine ⟨⟨_, hspan⟩, fun i hi => ?_, fun ks hks i hi => ?_⟩
  · have hlt := (Span.contains_iff.1 hi).2
    obtain ⟨line, hl, hc⟩ := h.exists_contains (by omega : i < text.length)
    exact (hspan i).2 ⟨_, line, hmeets _ ⟨line, hl, i, hc, hi⟩, hl, hc⟩
  · obtain ⟨k, line, hk, hl, hc⟩ := (hspan i).1 hi
    rcases hlines k hk with ⟨line', hl', j, hj, hjr⟩ | ⟨-, line', hl', hempty⟩
    · -- the line has a character of the span, so it is one of the lines that have all of it
      obtain ⟨k', other, hk', hother, hjo⟩ := hks j hjr
      have heq : k' = k :=
        (h.lineNumber_of_contains hother hjo).symm.trans (h.lineNumber_of_contains hl' hj)
      exact ⟨k, line, heq ▸ hk', hl, hc⟩
    · rw [hl] at hl'
      cases hl'
      rw [Span.contains_iff] at hc
      have := of_decide_eq_true hempty
      omega

end Ranges

/-- How spans of characters and spans of lines correspond in an index of `n` characters. -/
structure LineRanges (index : LineIndex α) (n : Nat) : Prop where
  linesHolding_iff : ∀ a b k, a < b → b ≤ n →
    ((index.linesHolding ⟨a, b⟩).contains k = true ↔ index.LineMeets k ⟨a, b⟩)
  linesReached_iff : ∀ a b k, a < b → b ≤ n →
    ((index.linesReached ⟨a, b⟩).contains k = true ↔
      index.LineMeets k ⟨a, b⟩ ∨ (b = n ∧ index.EmptyEnd k))
  lines_of_caret : ∀ i, i ≤ n → ∃ k, index.caretLine? i = some k ∧
    index.linesHolding ⟨i, i⟩ = ⟨k, k + 1⟩ ∧ index.linesReached ⟨i, i⟩ = ⟨k, k + 1⟩
  charSpan_linesHolding : ∀ a b, a < b → b ≤ n →
    index.LeastLines ⟨a, b⟩ (index.charSpan (index.linesHolding ⟨a, b⟩))
  charSpan_linesReached : ∀ a b, a < b → b ≤ n →
    index.LeastLines ⟨a, b⟩ (index.charSpan (index.linesReached ⟨a, b⟩))

/-- Whatever changes led to an index of a text, the lines of a span of characters are those with a
character of it, and together they are the smallest union of lines around it. The empty line at the
end of the text is reached by the spans that end there. A caret has its line alone. -/
theorem lineRanges_of_reaches (h : Reaches index text) : LineRanges index text.length := by
  have hc := h.covers
  refine ⟨fun a b k hab hb => hc.linesHolding_iff hab hb k,
    fun a b k hab hb => hc.linesReached_iff hab hb k,
    fun i hi => ⟨_, hc.caretLine?_eq hi, hc.lines_of_caret hi⟩, fun a b hab hb => ?_,
    fun a b hab hb => ?_⟩
  · have hiff := hc.linesHolding_iff hab hb
    obtain ⟨⟨hne, hs⟩, -⟩ := hc.lines_bounds hab hb
    exact hc.leastLines hb hne hs (fun k => (hiff k).2) fun k hk => Or.inl ((hiff k).1 hk)
  · have hiff := hc.linesReached_iff hab hb
    obtain ⟨-, hne, hs⟩ := hc.lines_bounds hab hb
    exact hc.leastLines hb hne hs (fun k hk => (hiff k).2 (Or.inl hk))
      fun k hk => ((hiff k).1 hk).imp_right And.right

/-- The line break that ends the text is on the first line; a span up to it also reaches the empty
line behind it, with no further character. -/
theorem lineRanges_of_reaches_last_break :
    let c : Change := ⟨['a'], ['b'], ['\n'], []⟩
    let index := ((ofText c.old : LineIndex Nat).update c.new c.edited c.delta).1
    LineRanges index c.new.length ∧ index.linesHolding ⟨0, 2⟩ = ⟨0, 1⟩ ∧
      index.linesReached ⟨0, 2⟩ = ⟨0, 2⟩ ∧ index.charSpan (index.linesReached ⟨1, 2⟩) = ⟨0, 2⟩ ∧
      index.linesHolding ⟨2, 2⟩ = ⟨1, 2⟩ := by
  intro c index
  have h : Reaches index c.new := .update (.ofText (by decide)) (by decide)
  refine ⟨lineRanges_of_reaches h, ?_, ?_, ?_, ?_⟩ <;> decide +kernel

end LineIndex

end SqlBuffer
