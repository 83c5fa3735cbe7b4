import SqlBuffer.Line.Basic
import SqlBuffer.Proofs.LineStart
import SqlBuffer.Proofs.Search

/-
  Looking up lines by position.
  `LineAt` splits the lines of a text at the line of a position: the lines before it, the line
  and the lines after it. Each lookup, by binary search in an index or by going through the text,
  is computed from this split, so all of them speak of the same line, `lineNumber`.
-/

namespace SqlBuffer

theorem Span.contains_iff {r : Span} {i : Nat} :
    r.contains i = true ↔ r.start ≤ i ∧ i < r.stop := by
  simp only [Span.contains, Bool.and_eq_true, decide_eq_true_eq]

theorem Contiguous.pairwise {a b : Nat} {rs : List Span} (h : Contiguous a rs b)
    (hd : ∀ r ∈ rs.dropLast, r.start < r.stop) : rs.Pairwise fun r r' => r.start < r'.start := by
  induction rs generalizing a with
  | nil => exact .nil
  | cons r rs ih =>
    obtain ⟨-, -, ht⟩ := h
    cases rs with
    | nil => exact List.pairwise_singleton _ _
    | cons x xs =>
      refine List.pairwise_cons.2 ⟨fun r' hr' => ?_, ih ht fun r hr => ?_⟩
      · have := hd r List.mem_cons_self
        have := (ht.bounds hr').1
        omega
      · exact hd r (List.mem_cons_of_mem _ hr)

/-- Lines start one after the other. -/
theorem pairwise_lineSpans (s : Nat) (text : List Char) :
    (lineSpans s text).Pairwise fun r r' => r.start < r'.start :=
  (contiguous_lineSpans s text).pairwise fun _ hr => start_lt_stop_of_mem_fullLines hr

/-- The line `r` is the last one that starts at or before position `i`. -/
structure LineAt (text : List Char) (i : Nat) (before : List Span) (r : Span)
    (after : List Span) : Prop where
  spans : lineSpans 0 text = before ++ r :: after
  start_le : r.start ≤ i
  lt_start : ∀ x ∈ after, i < x.start

theorem exists_last_start_le {rs : List Span} {i : Nat} (h : ∃ r ∈ rs, r.start ≤ i) :
    ∃ before r after, rs = before ++ r :: after ∧ r.start ≤ i ∧ ∀ x ∈ after, i < x.start := by
  induction rs with
  | nil =>
    obtain ⟨r, hr, -⟩ := h
    cases hr
  | cons x xs ih =>
    by_cases hx : ∃ r ∈ xs, r.start ≤ i
    · obtain ⟨before, r, after, rfl, hr, ha⟩ := ih hx
      exact ⟨x :: before, r, after, rfl, hr, ha⟩
    · refine ⟨[], x, xs, rfl, ?_, fun y hy => Nat.lt_of_not_le fun hle => hx ⟨y, hy, hle⟩⟩
      obtain ⟨r, hr, hle⟩ := h
      rcases List.mem_cons.1 hr with rfl | hr
      · exact hle
      · exact absurd ⟨r, hr, hle⟩ hx

/-- Every position is on a line; those past the end are on the last one. -/
theorem exists_lineAt (text : List Char) (i : Nat) :
    ∃ before r after, LineAt text i before r after := by
  obtain ⟨x, xs, hx⟩ := List.exists_cons_of_ne_nil (lineSpans_ne_nil 0 text)
  have hc := contiguous_lineSpans 0 text
  rw [hx] at hc
  have hfirst : ∃ r ∈ lineSpans 0 text, r.start ≤ i :=
    ⟨x, by rw [hx]; exact List.mem_cons_self, by rw [hc.1]; exact Nat.zero_le i⟩
  obtain ⟨before, r, after, hs, hr, ha⟩ := exists_last_start_le hfirst
  exact ⟨before, r, after, hs, hr, ha⟩

/-- A line of a text is the line at its start. -/
theorem lineAt_start {text : List Char} {before after : List Span} {r : Span}
    (h : lineSpans 0 text = before ++ r :: after) : LineAt text r.start before r after := by
  have hp := pairwise_lineSpans 0 text
  rw [h, List.pairwise_append, List.pairwise_cons] at hp
  exact ⟨h, Nat.le_refl _, hp.2.1.1⟩

/-- Where a line starts, the lines before it are those of the text before it, and the others those
of the rest. -/
theorem exists_lineAt_of_startsLine {text : List Char} {p : Nat} (h : StartsLine text p) :
    ∃ r after, LineAt text p (fullLines 0 (text.take p)) r after ∧ r.start = p ∧
      lineSpans p (text.drop p) = r :: after := by
  have hl : (text.take p).length = p := by
    rw [List.length_take, Nat.min_eq_left (startsLine_le h)]
  have hs := lineSpans_append 0 (a := text.take p) (b := text.drop p)
    (by rw [List.take_append_drop, hl]; exact h)
  rw [List.take_append_drop, hl, Nat.zero_add] at hs
  obtain ⟨r, after, hr⟩ := List.exists_cons_of_ne_nil (lineSpans_ne_nil p (text.drop p))
  have hc := contiguous_lineSpans p (text.drop p)
  rw [hr] at hs hc
  have hat := lineAt_start hs
  rw [hc.1] at hat
  exact ⟨r, after, hat, hc.1, hr⟩

namespace LineAt

variable {text : List Char} {i : Nat} {before after : List Span} {r : Span}

theorem contiguous (h : LineAt text i before r after) :
    Contiguous 0 before r.start ∧ r.start ≤ r.stop ∧ Contiguous r.stop after text.length := by
  have hc := contiguous_lineSpans 0 text
  rw [h.spans, contiguous_append, Nat.zero_add] at hc
  obtain ⟨m, hb, rfl, hr, ha⟩ := hc
  exact ⟨hb, hr, ha⟩

theorem start_lt (h : LineAt text i before r after) {x : Span} (hx : x ∈ before) :
    x.start < r.start := by
  have hp := pairwise_lineSpans 0 text
  rw [h.spans, List.pairwise_append] at hp
  exact hp.2.2 x hx r List.mem_cons_self

theorem stop_le (h : LineAt text i before r after) : r.stop ≤ text.length :=
  h.contiguous.2.2.le

/-- The next line starts where the line stops. -/
theorem start_eq_stop {x : Span} {xs : List Span} (h : LineAt text i before r (x :: xs)) :
    x.start = r.stop :=
  h.contiguous.2.2.1

theorem stop_eq (h : LineAt text i before r []) : r.stop = text.length :=
  h.contiguous.2.2

theorem after_eq_nil (h : LineAt text i before r after) (hi : text.length ≤ i) : after = [] := by
  cases after with
  | nil => rfl
  | cons x xs =>
    have := h.lt_start x List.mem_cons_self
    have := h.contiguous.2.2.bounds List.mem_cons_self
    omega

theorem lt_stop_of_cons {x : Span} {xs : List Span} (h : LineAt text i before r (x :: xs)) :
    i < r.stop := by
  rw [← h.start_eq_stop]
  exact h.lt_start x List.mem_cons_self

theorem lt_stop (h : LineAt text i before r after) (hi : i < text.length) : i < r.stop := by
  cases after with
  | nil => rw [h.stop_eq]; exact hi
  | cons x xs => exact h.lt_stop_of_cons

theorem startsLine (h : LineAt text i before r after) : StartsLine text r.start :=
  startsLine_of_lineSpans h.spans

theorem countP (h : LineAt text i before r after) :
    (lineSpans 0 text).countP (·.start ≤ i) = before.length + 1 := by
  have hb : before.countP (·.start ≤ i) = before.length :=
    List.countP_eq_length.2 fun x hx => by
      have := h.start_lt hx
      have := h.start_le
      simp; omega
  have ha : after.countP (·.start ≤ i) = 0 :=
    List.countP_eq_zero.2 fun x hx => by
      have := h.lt_start x hx
      simp; omega
  rw [h.spans, List.countP_append, List.countP_cons_of_pos (by simpa using h.start_le), hb, ha]

/-- The line is also the one at its start. -/
theorem at_start (h : LineAt text i before r after) : LineAt text r.start before r after :=
  lineAt_start h.spans

/-- The line is also the one of its other positions. -/
theorem of_lt_stop (h : LineAt text i before r after) {j : Nat} (hs : r.start ≤ j)
    (hj : j < r.stop) : LineAt text j before r after := by
  refine ⟨h.spans, hs, fun x hx => ?_⟩
  have := (h.contiguous.2.2.bounds hx).1
  omega

theorem next {x : Span} {xs : List Span} (h : LineAt text i before r (x :: xs)) :
    LineAt text r.stop (before ++ [r]) x xs := by
  rw [← h.start_eq_stop]
  refine lineAt_start ?_
  rw [h.spans, List.append_assoc, List.singleton_append]

theorem startsLine_stop {x : Span} {xs : List Span} (h : LineAt text i before r (x :: xs)) :
    StartsLine text r.stop := by
  rw [← h.start_eq_stop]
  exact h.next.startsLine

/-- No line starts inside a line, up to the position or the next line. -/
theorem not_startsLine (h : LineAt text i before r after) {p : Nat} (hr : r.start < p)
    (hp : p ≤ i ∨ p < r.stop) : ¬ StartsLine text p := by
  intro hs
  obtain ⟨r', after', h', rfl, -⟩ := exists_lineAt_of_startsLine hs
  have hm : r' ∈ before ++ r :: after := by
    rw [← h.spans, h'.spans]
    exact List.mem_append_right _ List.mem_cons_self
  rcases List.mem_append.1 hm with hb | hm
  · have := h.start_lt hb
    omega
  rcases List.mem_cons.1 hm with rfl | ha
  · exact Nat.lt_irrefl _ hr
  · have := h.lt_start r' ha
    have := (h.contiguous.2.2.bounds ha).1
    omega

/-- A line starts behind a position if and only if the line of the position stops there and has a
line after it. -/
theorem startsLine_next_iff (h : LineAt text i before r after) :
    StartsLine text (i + 1) ↔ after ≠ [] ∧ r.stop = i + 1 := by
  have hstart := h.start_le
  cases after with
  | nil =>
    have hnext : LineAt text (i + 1) before r [] :=
      ⟨h.spans, by omega, fun x hx => absurd hx List.not_mem_nil⟩
    have hnot := hnext.not_startsLine (p := i + 1) (by omega) (Or.inl (Nat.le_refl _))
    exact ⟨fun hs => absurd hs hnot, fun hn => absurd rfl hn.1⟩
  | cons x xs =>
    constructor
    · intro hs
      refine ⟨List.cons_ne_nil x xs, Nat.le_antisymm (Nat.le_of_not_lt fun hr => ?_) ?_⟩
      · exact h.not_startsLine (by omega) (Or.inr hr) hs
      · exact h.lt_stop_of_cons
    · rintro ⟨-, he⟩
      rw [← he]
      exact h.startsLine_stop

/-- The rest of a text from a position on decides where the line of that position stops. -/
theorem stop_sub_le {text' : List Char} {i' : Nat} {before' after' : List Span} {r' : Span}
    (h : LineAt text i before r after) (h' : LineAt text' i' before' r' after')
    (hi : i < text.length) (hd : text.drop i = text'.drop i') : r'.stop - i' ≤ r.stop - i := by
  have hlt := h.lt_stop hi
  have hlen : text.length - i = text'.length - i' := by
    rw [← List.length_drop, hd, List.length_drop]
  cases after with
  | nil =>
    have := h.stop_eq
    have := h'.stop_le
    omega
  | cons x xs =>
    refine Nat.le_of_not_lt fun hgt => ?_
    -- the line that starts in the one text would start within a line of the other
    have hs : StartsLine text' (i' + (r.stop - i - 1) + 1) := by
      have := h.startsLine_stop
      rw [show r.stop = i + (r.stop - i - 1) + 1 by omega] at this
      have hk (k : Nat) : text[i + k]? = text'[i' + k]? := by
        rw [← List.getElem?_drop, hd, List.getElem?_drop]
      exact (startsLine_congr (hk _) (hk (_ + 1))).1 this
    refine h'.not_startsLine ?_ (Or.inr ?_) hs
    · have := h'.start_le
      omega
    · omega

theorem lineStart_eq (h : LineAt text i before r after) : lineStart text i = r.start := by
  have hb : before.filter (·.start ≤ i) = before :=
    List.filter_eq_self.2 fun x hx => by
      have := h.start_lt hx
      have := h.start_le
      simp; omega
  have ha : after.filter (·.start ≤ i) = [] :=
    List.filter_eq_nil_iff.2 fun x hx => by
      have := h.lt_start x hx
      simp; omega
  rw [lineStart, h.spans, List.filter_append, List.filter_cons_of_pos (by simpa using h.start_le),
    hb, ha, List.getLast?_append]
  rfl

/-- Only the last line can be empty. -/
theorem start_lt_stop (h : LineAt text i before r after) (ha : after ≠ []) : r.start < r.stop := by
  obtain ⟨x, xs, rfl⟩ := List.exists_cons_of_ne_nil ha
  exact h.at_start.lt_stop_of_cons

theorem lineStop_eq (h : LineAt text i before r after) : lineStop text i = r.stop := by
  have hb : ∀ x ∈ before ++ [r], ¬ decide (i < x.start) = true := by
    intro x hx
    have := h.start_le
    rcases List.mem_append.1 hx with hx | hx
    · have := h.start_lt hx
      simp; omega
    · rw [List.mem_singleton.1 hx]
      simp; omega
  rw [lineStop, h.spans, ← List.singleton_append, ← List.append_assoc, List.find?_append,
    List.find?_eq_none.2 hb, Option.none_or]
  cases after with
  | nil => exact h.stop_eq.symm
  | cons x xs =>
    rw [List.find?_cons_of_pos (by simpa using h.lt_start x List.mem_cons_self)]
    exact h.start_eq_stop

end LineAt

theorem lineStart_le (text : List Char) (i : Nat) : lineStart text i ≤ i := by
  obtain ⟨before, r, after, h⟩ := exists_lineAt text i
  rw [h.lineStart_eq]
  exact h.start_le

theorem lt_lineStop {text : List Char} {i : Nat} (hi : i < text.length) : i < lineStop text i := by
  obtain ⟨before, r, after, h⟩ := exists_lineAt text i
  rw [h.lineStop_eq]
  exact h.lt_stop hi

theorem le_lineStop {text : List Char} {i : Nat} (hi : i ≤ text.length) : i ≤ lineStop text i := by
  obtain ⟨before, r, after, h⟩ := exists_lineAt text i
  rw [h.lineStop_eq]
  by_cases hlt : i < text.length
  · exact Nat.le_of_lt (h.lt_stop hlt)
  · have ha := h.after_eq_nil (by omega)
    subst ha
    rw [h.stop_eq]
    exact hi

/-- The line of the last character of a span stops at the end of the span or behind it. -/
theorem stop_le_lineStop {text : List Char} {a b : Nat} (hab : a ≤ b) (hb : b ≤ text.length) :
    b ≤ lineStop text (max a (b - 1)) := by
  by_cases hi : max a (b - 1) < text.length
  · have := lt_lineStop hi
    omega
  · have := le_lineStop (by omega : max a (b - 1) ≤ text.length)
    omega

/-- Lines that start at or before a position start at or before its line. -/
theorem le_lineStart {text : List Char} {i p : Nat} (hs : StartsLine text p) (hp : p ≤ i) :
    p ≤ lineStart text i := by
  obtain ⟨before, r, after, h⟩ := exists_lineAt text i
  rw [h.lineStart_eq]
  exact Nat.le_of_not_lt fun hlt => h.not_startsLine hlt (Or.inl hp) hs

/-- The number of the line at position `i`. -/
def lineNumber (text : List Char) (i : Nat) : Nat :=
  (lineSpans 0 text).countP (·.start ≤ i) - 1

theorem LineAt.lineNumber_eq {text : List Char} {i : Nat} {before after : List Span} {r : Span}
    (h : LineAt text i before r after) : lineNumber text i = before.length := by
  rw [lineNumber, h.countP]
  rfl

theorem lineNumber_lt (text : List Char) (i : Nat) :
    lineNumber text i < (lineSpans 0 text).length := by
  obtain ⟨before, r, after, h⟩ := exists_lineAt text i
  rw [h.lineNumber_eq, h.spans, List.length_append, List.length_cons]
  omega

theorem lineNumber_mono (text : List Char) {i j : Nat} (h : i ≤ j) :
    lineNumber text i ≤ lineNumber text j := by
  have : (lineSpans 0 text).countP (·.start ≤ i) ≤ (lineSpans 0 text).countP (·.start ≤ j) := by
    apply List.countP_mono_left
    intro r _ hr
    simp only [decide_eq_true_eq] at hr ⊢
    omega
  unfold lineNumber
  omega

/-- A line has a greater number than the lines before it. -/
theorem lineNumber_lt_lineNumber {text : List Char} {a b : Nat} (h : StartsLine text b)
    (hab : a < b) : lineNumber text a < lineNumber text b := by
  refine Nat.lt_of_le_of_ne (lineNumber_mono text (by omega)) fun he => ?_
  obtain ⟨before, r, after, hat⟩ := exists_lineAt text a
  obtain ⟨r', after', hat', hr, -⟩ := exists_lineAt_of_startsLine h
  have hs := hat.spans
  rw [hat'.spans] at hs
  rw [hat.lineNumber_eq, hat'.lineNumber_eq] at he
  obtain ⟨-, ht⟩ := List.append_inj hs he.symm
  cases ht
  have := hat.start_le
  omega

/-- The number of the line goes up by one where a line starts. -/
theorem lineNumber_succ (text : List Char) (i : Nat) :
    lineNumber text (i + 1) = lineNumber text i + if StartsLine text (i + 1) then 1 else 0 := by
  obtain ⟨before, r, after, hat⟩ := exists_lineAt text i
  have hiff := hat.startsLine_next_iff
  have hstart := hat.start_le
  rw [hat.lineNumber_eq]
  split
  · next hs =>
    obtain ⟨hne, he⟩ := hiff.1 hs
    obtain ⟨x, xs, rfl⟩ := List.exists_cons_of_ne_nil hne
    rw [← he, hat.next.lineNumber_eq, List.length_append, List.length_singleton]
  · next hs =>
    have hnext : LineAt text (i + 1) before r after := by
      cases after with
      | nil => exact ⟨hat.spans, by omega, fun x hx => absurd hx List.not_mem_nil⟩
      | cons x xs =>
        have hlt := hat.lt_stop_of_cons
        have hne : r.stop ≠ i + 1 := fun he => hs (hiff.2 ⟨List.cons_ne_nil x xs, he⟩)
        exact hat.of_lt_stop (by omega) (by omega)
    rw [hnext.lineNumber_eq]
    rfl

theorem lineNumber_zero (text : List Char) : lineNumber text 0 = 0 := by
  obtain ⟨before, r, after, hat⟩ := exists_lineAt text 0
  rw [hat.lineNumber_eq]
  cases before with
  | nil => rfl
  | cons x xs =>
    have := hat.start_lt (x := x) List.mem_cons_self
    have := hat.start_le
    omega

theorem lineNumber_le (text : List Char) (i : Nat) : lineNumber text i ≤ i := by
  induction i with
  | zero => exact Nat.le_of_eq (lineNumber_zero text)
  | succ i ih =>
    rw [lineNumber_succ]
    split <;> omega

theorem take_lineSpans {text : List Char} {a : Nat} (h : StartsLine text a) :
    (lineSpans 0 text).take (lineNumber text a) = fullLines 0 (text.take a) := by
  obtain ⟨r, after, hat, -, -⟩ := exists_lineAt_of_startsLine h
  rw [hat.lineNumber_eq, hat.spans, List.take_left]

theorem contiguous_take_lineSpans {text : List Char} {a : Nat} (h : StartsLine text a) :
    Contiguous 0 ((lineSpans 0 text).take (lineNumber text a)) a := by
  obtain ⟨r, after, hat, hr, -⟩ := exists_lineAt_of_startsLine h
  have := hat.contiguous.1
  rw [hr] at this
  rw [take_lineSpans h]
  exact this

theorem drop_lineSpans {text : List Char} {a : Nat} (h : StartsLine text a) :
    (lineSpans 0 text).drop (lineNumber text a) = lineSpans a (text.drop a) := by
  obtain ⟨r, after, hat, -, hs⟩ := exists_lineAt_of_startsLine h
  rw [hat.lineNumber_eq, hat.spans, List.drop_left, hs]

/-- The rest of a text from a position on starts lines where the text does. -/
theorem startsLine_drop {text : List Char} {a b : Nat} (h : StartsLine text b) (hab : a < b) :
    StartsLine (text.drop a) (b - a) := by
  have hle := startsLine_le h
  have hs := startsLine_append_right (text.take a) (text.drop a) (b - a - 1)
  rw [List.take_append_drop, List.length_take, Nat.min_eq_left (by omega),
    show a + (b - a - 1) + 1 = b by omega, show b - a - 1 + 1 = b - a by omega] at hs
  exact hs.1 h

theorem length_slice {α : Type} {xs : List α} {a b : Nat} (hb : b ≤ xs.length) :
    (Span.slice ⟨a, b⟩ xs).length = b - a := by
  rw [Span.slice, Span.length, List.length_take, List.length_drop]
  dsimp only
  omega

theorem slice_append_drop {α : Type} {xs : List α} {a b : Nat} (hab : a ≤ b) :
    Span.slice ⟨a, b⟩ xs ++ xs.drop b = xs.drop a := by
  rw [Span.slice, Span.length]
  dsimp only
  rw [show xs.drop b = (xs.drop a).drop (b - a) by rw [List.drop_drop, Nat.add_sub_cancel' hab],
    List.take_append_drop]

theorem slice_succ {α : Type} (xs : List α) (n : Nat) :
    Span.slice ⟨n, n + 1⟩ xs = xs[n]?.toList := by
  rw [Span.slice, Span.length, Nat.add_sub_cancel_left, List.take_one, List.head?_drop]

/-- A span covers the middle of three parts of a list. -/
theorem slice_append_append {α : Type} (xs ys zs : List α) :
    Span.slice ⟨xs.length, xs.length + ys.length⟩ (xs ++ ys ++ zs) = ys := by
  rw [Span.slice, Span.length, Nat.add_sub_cancel_left, List.append_assoc, List.drop_left,
    List.take_left]

/-- A span within the front of a list covers the same in the front as in the list. -/
theorem slice_take {α : Type} {xs : List α} {r : Span} {n : Nat} (h : r.stop ≤ n) :
    r.slice (xs.take n) = r.slice xs := by
  unfold Span.slice Span.length
  rw [List.drop_take, List.take_take, Nat.min_eq_left (by omega)]

/-- The text from a position to a place where a line starts ends with a line break. -/
theorem startsLine_slice {text : List Char} {a b : Nat} (h : StartsLine text b) (hab : a < b) :
    StartsLine (Span.slice ⟨a, b⟩ text ++ text.drop b) (Span.slice ⟨a, b⟩ text).length := by
  rw [slice_append_drop (Nat.le_of_lt hab), length_slice (startsLine_le h)]
  exact startsLine_drop h hab

/-- Up to a place where a line starts there are the lines of the text before that place. -/
theorem lineSpans_drop {text : List Char} {a b : Nat} (h : StartsLine text b) (hab : a < b) :
    lineSpans a (text.drop a) =
      fullLines a (Span.slice ⟨a, b⟩ text) ++ lineSpans b (text.drop b) := by
  have := lineSpans_append a (startsLine_slice h hab)
  rw [slice_append_drop (Nat.le_of_lt hab), length_slice (startsLine_le h),
    Nat.add_sub_cancel' (Nat.le_of_lt hab)] at this
  exact this

/-- The end of the text is on the last line. -/
theorem lineNumber_length (text : List Char) :
    lineNumber text text.length = (lineSpans 0 text).length - 1 := by
  obtain ⟨before, r, after, h⟩ := exists_lineAt text text.length
  rw [h.lineNumber_eq, h.spans, h.after_eq_nil (Nat.le_refl _), List.length_append]
  rfl

namespace LineIndex

variable {α : Type} {index : LineIndex α} {text : List Char}

/-- The index has the lines of the text, whatever is known about them. -/
def Covers (index : LineIndex α) (text : List Char) : Prop :=
  index.lines.map (·.span) = lineSpans 0 text

theorem covers_ofText (text : List Char) : (ofText text : LineIndex α).Covers text := by
  rw [Covers, ofText, List.map_map]
  exact List.map_id _

theorem covers_setInfo (h : index.Covers text) (n : Nat) (info : Option α) :
    (index.setInfo n info).Covers text := by
  rw [Covers, ← h, setInfo]
  generalize index.lines = lines
  induction lines generalizing n with
  | nil => rw [List.modify_nil]
  | cons line lines ih =>
    cases n with
    | zero => rw [List.modify_zero_cons]; rfl
    | succ n => rw [List.modify_succ_cons, List.map_cons, List.map_cons, ih]

theorem Covers.contiguous (h : index.Covers text) :
    Contiguous 0 (index.lines.map (·.span)) text.length := by
  rw [h, ← Nat.zero_add text.length]
  exact contiguous_lineSpans 0 text

theorem Covers.size_eq (h : index.Covers text) : index.size = (lineSpans 0 text).length := by
  rw [← h, List.length_map]
  rfl

theorem line?_length {before after : List (Line α)} {line : Line α}
    (h : index.lines = before ++ line :: after) : index.line? before.length = some line := by
  rw [line?, h, List.getElem?_append_right (Nat.le_refl _), Nat.sub_self]
  rfl

/-- The line of an index at a position. -/
theorem Covers.exists_lineAt (h : index.Covers text) (i : Nat) :
    ∃ before line after, index.lines = before ++ line :: after ∧
      LineAt text i (before.map (·.span)) line.span (after.map (·.span)) := by
  obtain ⟨bs, r, as, hl⟩ := SqlBuffer.exists_lineAt text i
  have hs := hl.spans
  rw [← h] at hs
  obtain ⟨before, rest, hlines, rfl, hr⟩ := List.map_eq_append_iff.1 hs
  obtain ⟨line, after, rfl, rfl, rfl⟩ := List.map_eq_cons_iff.1 hr
  exact ⟨before, line, after, hlines, hl⟩

/-- The last line of an index ends the text. -/
theorem Covers.exists_last (h : index.Covers text) :
    ∃ before line, index.lines = before ++ [line] ∧
      LineAt text text.length (before.map (·.span)) line.span [] := by
  obtain ⟨before, line, after, hl, hat⟩ := h.exists_lineAt text.length
  have ha : after = [] := List.map_eq_nil_iff.1 (hat.after_eq_nil (Nat.le_refl _))
  subst ha
  exact ⟨before, line, hl, hat⟩

/-- A line of an index is the line at its start. -/
theorem Covers.lineAt_of_line? (h : index.Covers text) {n : Nat} {line : Line α}
    (hl : index.line? n = some line) :
    ∃ before after, before.length = n ∧ LineAt text line.span.start before line.span after := by
  obtain ⟨hn, heq⟩ := List.getElem?_eq_some_iff.1 hl
  have hspans : lineSpans 0 text = (index.lines.take n).map (·.span) ++
      line.span :: (index.lines.drop (n + 1)).map (·.span) := by
    rw [← List.map_cons, ← List.map_append, ← heq, ← List.drop_eq_getElem_cons hn,
      List.take_append_drop, h]
  refine ⟨_, _, ?_, lineAt_start hspans⟩
  rw [List.length_map, List.length_take, Nat.min_eq_left (Nat.le_of_lt hn)]

theorem Covers.textLength_eq (h : index.Covers text) : index.textLength = text.length := by
  obtain ⟨before, line, hl, hat⟩ := h.exists_last
  rw [textLength, hl, List.getLast?_concat]
  exact hat.stop_eq

theorem Covers.last_eq (h : index.Covers text) : index.last = lineNumber text text.length := by
  rw [last, h.size_eq, lineNumber_length]

/-- The binary search ends after the line of the position. -/
theorem Covers.boundary_eq (h : index.Covers text) (i : Nat) :
    boundary (·.span.start ≤ i) index.lines = lineNumber text i + 1 := by
  obtain ⟨before, line, after, hl, hat⟩ := h.exists_lineAt i
  rw [hat.lineNumber_eq, hl, ← List.singleton_append, ← List.append_assoc, boundary_append]
  · simp
  · intro x hx
    have := hat.start_le
    rcases List.mem_append.1 hx with hx | hx
    · have := hat.start_lt (List.mem_map_of_mem hx)
      simp; omega
    · rw [List.mem_singleton.1 hx]
      simpa using this
  · intro x hx
    have := hat.lt_start x.span (List.mem_map_of_mem hx)
    simpa using this

theorem Covers.lineHolding?_eq (h : index.Covers text) (i : Nat) :
    index.lineHolding? i = if i < text.length then some (lineNumber text i) else none := by
  obtain ⟨before, line, after, hl, hat⟩ := h.exists_lineAt i
  have hline : index.line? (lineNumber text i) = some line := by
    rw [hat.lineNumber_eq, List.length_map]
    exact line?_length hl
  rw [lineHolding?, h.boundary_eq]
  simp only [hline, Option.any_some, Span.contains, Bool.and_eq_true, decide_eq_true_eq]
  have hs := hat.start_le
  by_cases hi : i < text.length
  · rw [if_pos ⟨hs, hat.lt_stop hi⟩, if_pos hi]
  · have := hat.stop_le
    rw [if_neg (by omega), if_neg hi]

/-- A position within a line is held by that line. -/
theorem Covers.lineHolding?_of_line? (h : index.Covers text) {n i : Nat} {line : Line α}
    (hl : index.line? n = some line) (hs : line.span.start ≤ i) (hi : i < line.span.stop) :
    index.lineHolding? i = some n := by
  obtain ⟨before, after, rfl, hat⟩ := h.lineAt_of_line? hl
  have hlen := hat.stop_le
  rw [h.lineHolding?_eq, if_pos (by omega), (hat.of_lt_stop hs hi).lineNumber_eq]

theorem Covers.caretLine?_eq (h : index.Covers text) {i : Nat} (hi : i ≤ text.length) :
    index.caretLine? i = some (lineNumber text i) := by
  obtain ⟨before, line, hl, hat⟩ := h.exists_last
  rw [caretLine?, hl, List.getLast?_concat]
  simp only [hat.stop_eq]
  by_cases he : text.length = i
  · rw [if_pos he, h.last_eq, he]
  · rw [if_neg he, h.lineHolding?_eq, if_pos (by omega)]

/-- The lines of a span are those from the line of its start to that of its last character. -/
theorem Covers.linesHolding_eq (h : index.Covers text) {a b : Nat} (hab : a ≤ b)
    (hb : b ≤ text.length) :
    index.linesHolding ⟨a, b⟩ = ⟨lineNumber text a, lineNumber text (max a (b - 1)) + 1⟩ := by
  obtain ⟨before, line, hl, hat⟩ := h.exists_last
  have hlast : lineNumber text text.length = before.length := by
    rw [hat.lineNumber_eq, List.length_map]
  rw [linesHolding, hl, List.getLast?_concat]
  simp only [h.caretLine?_eq (by omega : a ≤ text.length)]
  split
  · next heq =>
    -- every position from the start of the last line on is on it
    have hn (i : Nat) (ha : a ≤ i) : lineNumber text i = before.length := by
      have : LineAt text i (before.map (·.span)) line.span [] :=
        ⟨hat.spans, by rw [← heq]; exact ha, fun _ hx => nomatch hx⟩
      rw [this.lineNumber_eq, List.length_map]
    rw [h.last_eq, hlast, hn a (Nat.le_refl _), hn _ (Nat.le_max_left _ _)]
  · have hf : (if (⟨a, b⟩ : Span).isEmpty then a else b - 1) = max a (b - 1) := by
      simp only [Span.isEmpty, decide_eq_true_eq]
      split <;> omega
    have hd : (index.lineHolding? (max a (b - 1))).getD index.last =
        lineNumber text (max a (b - 1)) := by
      rw [h.lineHolding?_eq]
      split
      · rfl
      · rw [show max a (b - 1) = text.length by omega, Option.getD_none, h.last_eq]
    rw [hf, hd, Nat.max_eq_left (lineNumber_mono text (Nat.le_max_left _ _))]

theorem Covers.linesReached_eq (h : index.Covers text) {a b : Nat} (hab : a ≤ b)
    (hb : b ≤ text.length) :
    index.linesReached ⟨a, b⟩ = ⟨lineNumber text a,
      if b = text.length then index.size else lineNumber text (max a (b - 1)) + 1⟩ := by
  obtain ⟨before, line, hl, hat⟩ := h.exists_last
  have hs := hat.stop_eq
  rw [linesReached, hl, List.getLast?_concat]
  simp only [h.linesHolding_eq hab hb, Span.isEmpty, decide_eq_true_eq]
  have hr := hat.contiguous.2.1
  split
  · next hc => rw [if_pos (by omega)]
  · next hc =>
    split
    · next he =>
      -- the last line has a character, and the last one of the span is on it
      have hlt : line.span.start < text.length := by omega
      have hm : LineAt text (max a (b - 1)) (before.map (·.span)) line.span [] :=
        ⟨hat.spans, by omega, fun _ hx => nomatch hx⟩
      rw [hm.lineNumber_eq, size, hl]
      simp
    · rfl

theorem Covers.line?_lineNumber (h : index.Covers text) (i : Nat) :
    ∃ line, index.line? (lineNumber text i) = some line ∧
      line.span = ⟨lineStart text i, lineStop text i⟩ := by
  obtain ⟨before, line, after, hl, hat⟩ := h.exists_lineAt i
  refine ⟨line, ?_, ?_⟩
  · rw [hat.lineNumber_eq, List.length_map]
    exact line?_length hl
  · rw [hat.lineStart_eq, hat.lineStop_eq]

theorem Covers.span_of_lineNumber (h : index.Covers text) {i : Nat} {line : Line α}
    (hl : index.line? (lineNumber text i) = some line) :
    line.span = ⟨lineStart text i, lineStop text i⟩ := by
  obtain ⟨line', hl', hspan⟩ := h.line?_lineNumber i
  rw [hl] at hl'
  rw [Option.some.inj hl', hspan]

theorem charSpan_eq {k n : Nat} {first final : Line α}
    (hf : index.line? (min k index.last) = some first)
    (hl : index.line? (min (n - 1) index.last) = some final) :
    index.charSpan ⟨k, n⟩ = if n ≤ k then ⟨first.span.start, first.span.start⟩
      else ⟨first.span.start, max final.span.stop first.span.start⟩ := by
  simp only [charSpan, hf, hl, Span.isEmpty, decide_eq_true_eq]

theorem charSpan_of_lt {k n : Nat} {first final : Line α} (hkn : k < n) (hn : n ≤ index.size)
    (hf : index.line? k = some first) (hl : index.line? (n - 1) = some final) :
    index.charSpan ⟨k, n⟩ = ⟨first.span.start, max final.span.stop first.span.start⟩ := by
  have hk : min k index.last = k := Nat.min_eq_left (by unfold last; omega)
  have hm : min (n - 1) index.last = n - 1 := Nat.min_eq_left (by unfold last; omega)
  rw [charSpan_eq (by rw [hk]; exact hf) (by rw [hm]; exact hl), if_neg (Nat.not_le.2 hkn)]

/-- The text of some lines starts where the first of them does. -/
theorem Covers.charSpan_start (h : index.Covers text) (i n : Nat) :
    (index.charSpan ⟨lineNumber text i, n⟩).start = lineStart text i := by
  have hlt := lineNumber_lt text i
  rw [← h.size_eq] at hlt
  obtain ⟨first, hf, hs⟩ := h.line?_lineNumber i
  obtain ⟨final, hl⟩ : ∃ line, index.line? (min (n - 1) index.last) = some line :=
    ⟨_, List.getElem?_eq_getElem (by unfold last size at *; omega)⟩
  rw [charSpan_eq (by rw [Nat.min_eq_left (by unfold last; omega)]; exact hf) hl]
  split <;> exact congrArg Span.start hs

/-- The text of consecutive lines. -/
theorem charSpan_append {xs ys zs : List (Line α)} {a b : Nat} (hl : index.lines = xs ++ ys ++ zs)
    (hy : ys ≠ []) (hc : Contiguous a (ys.map (·.span)) b) :
    index.charSpan ⟨xs.length, xs.length + ys.length⟩ = ⟨a, b⟩ := by
  have hpos := List.length_pos_iff.2 hy
  have hsize : index.size = xs.length + ys.length + zs.length := by
    rw [size, hl, List.length_append, List.length_append]
  obtain ⟨first, hf⟩ : ∃ line, ys.head? = some line := ⟨_, List.head?_eq_some_head hy⟩
  obtain ⟨final, hn⟩ : ∃ line, ys.getLast? = some line := ⟨_, List.getLast?_eq_some_getLast hy⟩
  have hline (n : Nat) (h : n < ys.length) : index.line? (xs.length + n) = ys[n]? := by
    rw [line?, hl, List.append_assoc, List.getElem?_append_right (by omega),
      List.getElem?_append_left (by omega), Nat.add_sub_cancel_left]
  have h0 := hline 0 hpos
  have h1 := hline (ys.length - 1) (by omega)
  rw [Nat.add_zero, ← List.head?_eq_getElem?, hf] at h0
  rw [← Nat.add_sub_assoc hpos, ← List.getLast?_eq_getElem?, hn] at h1
  rw [charSpan_of_lt (by omega) (by omega) h0 h1]
  -- contiguous lines begin at the start of the first and end at the stop of the last
  have hfirst : first.span.start = a := by
    obtain ⟨ys', rfl⟩ := List.head?_eq_some_iff.1 hf
    exact hc.1
  have hfinal : final.span.stop = b := by
    obtain ⟨ys', rfl⟩ := List.getLast?_eq_some_iff.1 hn
    rw [List.map_append, contiguous_append] at hc
    obtain ⟨m, -, -, -, hb⟩ := hc
    exact hb
  have := hc.le
  rw [hfirst, hfinal, Nat.max_eq_left this]

end LineIndex

end SqlBuffer
