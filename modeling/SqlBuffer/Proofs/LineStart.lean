import SqlBuffer.Text.Line

/-
  Where the lines of a text start.
  `StartsLine` says by the two characters around a position whether a line starts there. The
  spans that `lineSpans` gives start exactly at these positions and follow each other without a
  gap. A text that is cut where a line starts has the lines of the front, but for the empty one
  at its end, and then those of the rest: `lineSpans_append`.
-/

namespace SqlBuffer

/-- A line starts at the start of the text and after each line break. The place between a return
and the line feed after it is inside a line break. -/
def StartsLine (text : List Char) : Nat → Prop
  | 0 => True
  | p + 1 => text[p]?.any endsLine = true ∧ ¬ (text[p]? = some '\r' ∧ text[p + 1]? = some '\n')

instance (text : List Char) : DecidablePred (StartsLine text)
  | 0 => isTrue trivial
  | _ + 1 => inferInstanceAs (Decidable (_ ∧ _))

theorem startsLine_zero (text : List Char) : StartsLine text 0 := trivial

theorem startsLine_cons {c : Char} {text : List Char} {p : Nat} :
    StartsLine (c :: text) (p + 2) ↔ StartsLine text (p + 1) := by
  simp [StartsLine]

theorem startsLine_one {c : Char} {text : List Char} :
    StartsLine (c :: text) 1 ↔ endsLine c = true ∧ ¬ (c = '\r' ∧ text.head? = some '\n') := by
  simp [StartsLine, List.head?_eq_getElem?]

/-- Whether a line starts is decided by the characters on both sides of the position. -/
theorem startsLine_congr {text text' : List Char} {p p' : Nat}
    (hb : text[p]? = text'[p']?) (ha : text[p + 1]? = text'[p' + 1]?) :
    StartsLine text (p + 1) ↔ StartsLine text' (p' + 1) := by
  simp only [StartsLine, hb, ha]

theorem startsLine_le {text : List Char} {p : Nat} (h : StartsLine text p) : p ≤ text.length := by
  cases p with
  | zero => exact Nat.zero_le _
  | succ p =>
    refine Nat.lt_of_not_le fun hle => ?_
    have hb := h.1
    rw [List.getElem?_eq_none hle] at hb
    cases hb

/-- The text after the next character does not matter. -/
theorem startsLine_append_left {a b c : List Char} {p : Nat} (h : p < a.length) :
    StartsLine (a ++ b) p ↔ StartsLine (a ++ c) p := by
  cases p with
  | zero => exact Iff.rfl
  | succ p =>
    apply startsLine_congr
    · rw [List.getElem?_append_left (by omega), List.getElem?_append_left (by omega)]
    · rw [List.getElem?_append_left h, List.getElem?_append_left h]

/-- The text before the character in front of the position does not matter. -/
theorem startsLine_append_right (a b : List Char) (p : Nat) :
    StartsLine (a ++ b) (a.length + p + 1) ↔ StartsLine b (p + 1) := by
  apply startsLine_congr
  · rw [List.getElem?_append_right (by omega), Nat.add_sub_cancel_left]
  · rw [List.getElem?_append_right (by omega), Nat.add_assoc, Nat.add_sub_cancel_left]

/-- A place where a line starts, made the end of the text. -/
theorem startsLine_length {a b : List Char} (h : StartsLine (a ++ b) a.length) :
    StartsLine a a.length := by
  cases hl : a.length with
  | zero => trivial
  | succ p =>
    rw [hl] at h
    refine ⟨by simpa [List.getElem?_append_left (by omega : p < a.length)] using h.1, fun hc => ?_⟩
    have hn : a[p + 1]? = none := List.getElem?_eq_none (by omega)
    rw [hn] at hc
    cases hc.2

/-! ## Splitting a text character by character -/

theorem splitLines_cons_of_start {c : Char} {cs : List Char} (h : StartsLine (c :: cs) 1) :
    splitLines (c :: cs) = [c] :: splitLines cs := by
  obtain ⟨he, hn⟩ := startsLine_one.1 h
  rw [splitLines, if_pos he]
  rintro ds rfl rfl
  exact hn ⟨rfl, rfl⟩

theorem splitLines_cons_of_not_start {c : Char} {cs line : List Char} {lines : List (List Char)}
    (h : ¬ StartsLine (c :: cs) 1) (hl : splitLines cs = line :: lines) :
    splitLines (c :: cs) = (c :: line) :: lines := by
  rw [startsLine_one] at h
  by_cases hc : c = '\r' ∧ cs.head? = some '\n'
  · obtain ⟨rfl, hh⟩ := hc
    obtain ⟨d, ds, rfl⟩ := List.exists_cons_of_ne_nil (l := cs) (by rintro rfl; cases hh)
    obtain rfl : d = '\n' := by simpa using hh
    rw [splitLines_cons_of_start (startsLine_one.2 ⟨rfl, by simp⟩)] at hl
    cases hl
    rw [splitLines]
  · have he : ¬ endsLine c = true := fun he => h ⟨he, hc⟩
    rw [splitLines, if_neg he, hl]
    rintro ds rfl rfl
    exact hc ⟨rfl, rfl⟩

/-- Only the empty text starts with an empty line. -/
theorem eq_nil_of_splitLines_eq {text : List Char} {lines : List (List Char)}
    (h : splitLines text = [] :: lines) : text = [] ∧ lines = [] := by
  cases text with
  | nil => cases h; exact ⟨rfl, rfl⟩
  | cons c cs =>
    obtain ⟨line, rest, hl⟩ := List.exists_cons_of_ne_nil (splitLines_ne_nil cs)
    by_cases hs : StartsLine (c :: cs) 1
    · rw [splitLines_cons_of_start hs] at h
      cases h
    · rw [splitLines_cons_of_not_start hs hl] at h
      cases h

/-- Cut where a line starts, a text has the lines of the front but for the last, which is empty,
and those of the rest. -/
theorem splitLines_append {a b : List Char} (h : StartsLine (a ++ b) a.length) :
    splitLines (a ++ b) = (splitLines a).dropLast ++ splitLines b := by
  induction a generalizing b with
  | nil => rfl
  | cons c a ih =>
    cases a with
    | nil =>
      have hc : StartsLine [c] 1 := startsLine_length h
      rw [List.singleton_append] at h ⊢
      rw [splitLines_cons_of_start h, splitLines_cons_of_start hc]
      rfl
    | cons d a =>
      have ht : StartsLine (d :: a ++ b) (d :: a).length := startsLine_cons.1 h
      have hc : StartsLine (c :: (d :: a ++ b)) 1 ↔ StartsLine (c :: d :: a) 1 := by
        simp only [startsLine_one, List.cons_append, List.head?_cons]
      by_cases hs : StartsLine (c :: d :: a) 1
      · rw [List.cons_append, splitLines_cons_of_start (hc.2 hs), splitLines_cons_of_start hs,
          ih ht, List.dropLast_cons_of_ne_nil (splitLines_ne_nil _), List.cons_append]
      · -- the rest of the front has a line besides the empty one, which takes the character
        have he := ih (b := []) (by rw [List.append_nil]; exact startsLine_length ht)
        obtain ⟨line, lines, hl⟩ :=
          List.exists_cons_of_ne_nil (l := (splitLines (d :: a)).dropLast) (by
            intro hn
            rw [List.append_nil, hn, List.nil_append] at he
            cases (eq_nil_of_splitLines_eq he).1)
        rw [List.append_nil, hl, List.cons_append] at he
        have hb := ih ht
        rw [hl, List.cons_append] at hb
        rw [List.cons_append, splitLines_cons_of_not_start (mt hc.1 hs) hb,
          splitLines_cons_of_not_start hs he]
        simp [splitLines, List.dropLast_cons_of_ne_nil]

/-- The last line of a text that ends with a line break is empty. -/
theorem splitLines_eq_dropLast_append {a : List Char} (h : StartsLine a a.length) :
    splitLines a = (splitLines a).dropLast ++ [[]] := by
  conv => lhs; rw [← List.append_nil a]
  exact splitLines_append (by rw [List.append_nil]; exact h)

theorem flatten_dropLast_splitLines {a : List Char} (h : StartsLine a a.length) :
    (splitLines a).dropLast.flatten = a := by
  conv => rhs; rw [← flatten_splitLines a, splitLines_eq_dropLast_append h]
  simp

/-- A line starts where the lines before it end. -/
theorem startsLine_of_splitLines {text : List Char} {xs ys : List (List Char)}
    (h : splitLines text = xs ++ ys) (hy : ys ≠ []) : StartsLine text xs.flatten.length := by
  induction text generalizing xs with
  | nil =>
    cases xs with
    | nil => exact startsLine_zero _
    | cons x xs =>
      have : xs ++ ys = [] := (List.cons.inj h).2.symm
      exact absurd (List.append_eq_nil_iff.1 this).2 hy
  | cons c cs ih =>
    cases xs with
    | nil => exact startsLine_zero _
    | cons x xs =>
      obtain ⟨line, lines, hl⟩ := List.exists_cons_of_ne_nil (splitLines_ne_nil cs)
      by_cases hs : StartsLine (c :: cs) 1
      · rw [splitLines_cons_of_start hs] at h
        obtain ⟨rfl, ht⟩ := List.cons.inj h
        have := ih ht
        cases hn : xs.flatten.length with
        | zero => simpa [hn] using hs
        | succ n =>
          rw [hn] at this
          have e : ([c] :: xs).flatten.length = n + 2 := by
            rw [List.flatten_cons, List.length_append, hn, List.length_singleton]
            omega
          rw [e]
          exact startsLine_cons.2 this
      · rw [splitLines_cons_of_not_start hs hl] at h
        obtain ⟨rfl, rfl⟩ := List.cons.inj h
        have : StartsLine cs (line :: xs).flatten.length := ih hl
        cases hn : (line :: xs).flatten.length with
        | zero =>
          obtain rfl : line = [] := by
            rw [List.flatten_cons, List.length_append] at hn
            exact List.eq_nil_of_length_eq_zero (by omega)
          have := (eq_nil_of_splitLines_eq hl).2
          exact absurd (List.append_eq_nil_iff.1 this).2 hy
        | succ n =>
          rw [hn] at this
          have e : ((c :: line) :: xs).flatten.length = n + 2 := by
            rw [List.flatten_cons, List.length_append] at hn ⊢
            rw [List.length_cons]
            omega
          rw [e]
          exact startsLine_cons.2 this

/-- All lines but the last have characters. -/
theorem ne_nil_of_mem_dropLast {text line : List Char} (h : line ∈ (splitLines text).dropLast) :
    line ≠ [] := by
  induction text with
  | nil => cases h
  | cons c cs ih =>
    obtain ⟨l, lines, hl⟩ := List.exists_cons_of_ne_nil (splitLines_ne_nil cs)
    by_cases hs : StartsLine (c :: cs) 1
    · rw [splitLines_cons_of_start hs, List.dropLast_cons_of_ne_nil (splitLines_ne_nil cs)] at h
      rcases List.mem_cons.1 h with rfl | h
      · exact List.cons_ne_nil c []
      · exact ih h
    · rw [splitLines_cons_of_not_start hs hl] at h
      rw [hl] at ih
      cases lines with
      | nil => cases h
      | cons d lines =>
        rcases List.mem_cons.1 h with rfl | h
        · exact List.cons_ne_nil c l
        · exact ih (List.mem_cons_of_mem l h)

/-! ## Spans of lines -/

/-- The spans follow each other without a gap from `a` to `b`. -/
def Contiguous (a : Nat) : List Span → Nat → Prop
  | [], b => a = b
  | r :: rs, b => r.start = a ∧ r.start ≤ r.stop ∧ Contiguous r.stop rs b

theorem contiguous_spansFrom (s : Nat) (lines : List (List Char)) :
    Contiguous s (spansFrom s lines) (s + lines.flatten.length) := by
  induction lines generalizing s with
  | nil => rfl
  | cons line lines ih =>
    refine ⟨rfl, Nat.le_add_right _ _, ?_⟩
    rw [List.flatten_cons, List.length_append, ← Nat.add_assoc]
    exact ih (s + line.length)

theorem contiguous_lineSpans (s : Nat) (text : List Char) :
    Contiguous s (lineSpans s text) (s + text.length) := by
  have := contiguous_spansFrom s (splitLines text)
  rwa [flatten_splitLines] at this

theorem Contiguous.le {a b : Nat} {rs : List Span} (h : Contiguous a rs b) : a ≤ b := by
  induction rs generalizing a with
  | nil => exact Nat.le_of_eq h
  | cons r rs ih =>
    obtain ⟨rfl, hr, ht⟩ := h
    exact Nat.le_trans hr (ih ht)

theorem Contiguous.bounds {a b : Nat} {rs : List Span} (h : Contiguous a rs b) {r : Span}
    (hr : r ∈ rs) : a ≤ r.start ∧ r.start ≤ r.stop ∧ r.stop ≤ b := by
  induction rs generalizing a with
  | nil => cases hr
  | cons x xs ih =>
    obtain ⟨rfl, hx, ht⟩ := h
    rcases List.mem_cons.1 hr with rfl | hr
    · exact ⟨Nat.le_refl _, hx, ht.le⟩
    · have := ih ht hr
      omega

theorem Contiguous.stop_unique {a b b' : Nat} {rs : List Span} (h : Contiguous a rs b)
    (h' : Contiguous a rs b') : b = b' := by
  induction rs generalizing a with
  | nil => exact Eq.trans (Eq.symm h) h'
  | cons r rs ih => exact ih h.2.2 h'.2.2

theorem Contiguous.start_unique {a a' b b' : Nat} {rs : List Span} (h : Contiguous a rs b)
    (h' : Contiguous a' rs b') (hr : rs ≠ []) : a = a' := by
  cases rs with
  | nil => exact absurd rfl hr
  | cons r rs => exact h.1.symm.trans h'.1

theorem contiguous_append {a b : Nat} {xs ys : List Span} :
    Contiguous a (xs ++ ys) b ↔ ∃ m, Contiguous a xs m ∧ Contiguous m ys b := by
  induction xs generalizing a with
  | nil => exact ⟨fun h => ⟨a, rfl, h⟩, fun ⟨m, hm, h⟩ => hm ▸ h⟩
  | cons x xs ih =>
    simp only [List.cons_append, Contiguous, ih]
    exact ⟨fun ⟨ha, hx, m, hm, h⟩ => ⟨m, ⟨ha, hx, hm⟩, h⟩,
      fun ⟨m, ⟨ha, hx, hm⟩, h⟩ => ⟨ha, hx, m, hm, h⟩⟩

theorem spansFrom_append (s : Nat) (xs ys : List (List Char)) :
    spansFrom s (xs ++ ys) = spansFrom s xs ++ spansFrom (s + xs.flatten.length) ys := by
  induction xs generalizing s with
  | nil => rfl
  | cons x xs ih =>
    rw [List.cons_append, spansFrom, spansFrom, ih, List.flatten_cons, List.length_append,
      Nat.add_assoc, List.cons_append]

@[simp] theorem length_spansFrom (s : Nat) (lines : List (List Char)) :
    (spansFrom s lines).length = lines.length := by
  induction lines generalizing s with
  | nil => rfl
  | cons line lines ih => rw [spansFrom, List.length_cons, List.length_cons, ih]

theorem dropLast_spansFrom (s : Nat) (lines : List (List Char)) :
    (spansFrom s lines).dropLast = spansFrom s lines.dropLast := by
  rcases List.eq_nil_or_concat lines with rfl | ⟨xs, x, rfl⟩
  · rfl
  · rw [List.concat_eq_append, spansFrom_append, List.dropLast_concat]
    exact List.dropLast_concat

theorem lineSpans_ne_nil (s : Nat) (text : List Char) : lineSpans s text ≠ [] := by
  intro h
  have := congrArg List.length h
  rw [lineSpans, length_spansFrom] at this
  exact splitLines_ne_nil text (List.eq_nil_of_length_eq_zero this)

/-- The spans of all lines of a text but the last. -/
def fullLines (s : Nat) (text : List Char) : List Span :=
  (lineSpans s text).dropLast

/-- Cut where a line starts, a text has the lines that the front has before that place, and those
of the rest. -/
theorem lineSpans_append (s : Nat) {a b : List Char} (h : StartsLine (a ++ b) a.length) :
    lineSpans s (a ++ b) = fullLines s a ++ lineSpans (s + a.length) b := by
  rw [lineSpans, splitLines_append h, spansFrom_append,
    flatten_dropLast_splitLines (startsLine_length h), fullLines, lineSpans, dropLast_spansFrom,
    lineSpans]

/-- A text that ends with a line break has an empty line at its end. -/
theorem lineSpans_eq_fullLines_append (s : Nat) {a : List Char} (h : StartsLine a a.length) :
    lineSpans s a = fullLines s a ++ [⟨s + a.length, s + a.length⟩] := by
  conv => lhs; rw [← List.append_nil a]
  exact lineSpans_append s (by rw [List.append_nil]; exact h)

theorem start_lt_stop_of_mem_spansFrom {s : Nat} {lines : List (List Char)}
    (hl : ∀ l ∈ lines, l ≠ []) {r : Span} (hr : r ∈ spansFrom s lines) : r.start < r.stop := by
  induction lines generalizing s with
  | nil => cases hr
  | cons l lines ih =>
    rcases List.mem_cons.1 hr with rfl | hr
    · have := List.length_pos_iff.2 (hl l List.mem_cons_self)
      show s < s + l.length
      omega
    · exact ih (fun l hm => hl l (List.mem_cons_of_mem _ hm)) hr

theorem start_lt_stop_of_mem_fullLines {s : Nat} {text : List Char} {r : Span}
    (h : r ∈ fullLines s text) : r.start < r.stop := by
  rw [fullLines, lineSpans, dropLast_spansFrom] at h
  exact start_lt_stop_of_mem_spansFrom (fun l hl => ne_nil_of_mem_dropLast hl) h

theorem exists_of_spansFrom_eq_append {s : Nat} {lines : List (List Char)} {xs ys : List Span}
    (h : spansFrom s lines = xs ++ ys) :
    ∃ ls ms, lines = ls ++ ms ∧ spansFrom s ls = xs ∧
      spansFrom (s + ls.flatten.length) ms = ys := by
  induction xs generalizing s lines with
  | nil => exact ⟨[], lines, rfl, rfl, h⟩
  | cons x xs ih =>
    cases lines with
    | nil => cases h
    | cons l lines =>
      obtain ⟨hx, ht⟩ := List.cons.inj h
      obtain ⟨ls, ms, rfl, rfl, rfl⟩ := ih ht
      refine ⟨l :: ls, ms, rfl, by rw [spansFrom, hx], ?_⟩
      rw [List.flatten_cons, List.length_append, Nat.add_assoc]

/-- The start of a line is a place where a line starts. -/
theorem startsLine_of_lineSpans {text : List Char} {xs ys : List Span} {r : Span}
    (h : lineSpans 0 text = xs ++ r :: ys) : StartsLine text r.start := by
  obtain ⟨ls, ms, hs, -, hm⟩ := exists_of_spansFrom_eq_append h
  cases ms with
  | nil => cases hm
  | cons m ms =>
    obtain ⟨rfl, -⟩ := List.cons.inj hm
    rw [Nat.zero_add]
    exact startsLine_of_splitLines hs (List.cons_ne_nil m ms)

end SqlBuffer
