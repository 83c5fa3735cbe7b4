import SqlBuffer.Proofs.DocumentRun

/-
  Enumerating the tokens of a span.
  The search for the first token looks at where tokens start, and the enumeration stops by where
  they end. In a list of tokens in order the two fit: behind a token that reaches the end of the
  span no token starts in it. So nothing is left out, and at most the last token goes past the end.
-/

namespace SqlBuffer

namespace TokenList

/-! ## Taking tokens up to one that stops -/

theorem takeThrough_cases (stop : Token → Bool) (ts : List Token) :
    (takeThrough stop ts = ts ∧ ∀ t ∈ ts, stop t = false) ∨
      ∃ xs y ys, ts = xs ++ y :: ys ∧ takeThrough stop ts = xs ++ [y] ∧ stop y = true ∧
        ∀ t ∈ xs, stop t = false := by
  induction ts with
  | nil => exact Or.inl ⟨rfl, by simp⟩
  | cons t ts ih =>
    unfold takeThrough
    by_cases ht : stop t = true
    · exact Or.inr ⟨[], t, ts, rfl, by simp [ht], ht, by simp⟩
    · rw [if_neg ht]
      have hf : stop t = false := by simpa using ht
      rcases ih with ⟨heq, hall⟩ | ⟨xs, y, ys, rfl, heq, hy, hxs⟩
      · exact Or.inl ⟨by rw [heq], by simpa [hf] using hall⟩
      · exact Or.inr ⟨t :: xs, y, ys, rfl, by rw [heq]; rfl, hy, by simpa [hf] using hxs⟩

theorem takeThrough_ne_nil (stop : Token → Bool) {ts : List Token} (h : ts ≠ []) :
    takeThrough stop ts ≠ [] := by
  cases ts with
  | nil => exact absurd rfl h
  | cons t ts =>
    unfold takeThrough
    split <;> exact List.cons_ne_nil _ _

theorem visit_eq_foldl {σ : Type} (f : σ → Token → σ) (stop : Token → Bool) (s : σ)
    (ts : List Token) :
    visit (fun s t => (f s t, !stop t)) s ts = (takeThrough stop ts).foldl f s := by
  induction ts generalizing s with
  | nil => rfl
  | cons t ts ih =>
    unfold visit takeThrough
    cases ht : stop t with
    | true => rfl
    | false => exact ih (f s t)

theorem visitIn_eq_foldl {σ : Type} (c : TokenList) (r : Span) (f : σ → Token → σ) (s : σ) :
    c.visitIn r f s = (c.tokensIn r).foldl f s := by
  have hstop (t : Token) :
      decide (t.span.stop < r.stop) = !decide (r.stop ≤ t.span.stop) := by
    rw [← decide_not, decide_eq_decide]
    omega
  unfold visitIn visitFrom tokensIn
  simp only [hstop]
  exact visit_eq_foldl f _ s _

/-! ## Tokens before and from a position on -/

section Split

variable {us vs : List Token} {i : Nat} (hu : ∀ t ∈ us, t.span.start < i)
  (hv : ∀ t ∈ vs, i ≤ t.span.start)
include hu hv

theorem firstIndex?_append :
    firstIndex? ⟨us ++ vs⟩ i = if vs = [] then none else some us.length := by
  unfold firstIndex?
  rw [countBefore_append hu hv, size, List.length_append]
  cases vs with
  | nil => simp
  | cons v vs => simp

/-- The search gives the number of the first token at or behind the position. -/
theorem firstIndex?_append_eq_some_iff (n : Nat) :
    firstIndex? ⟨us ++ vs⟩ i = some n ↔
      (∃ t, (us ++ vs)[n]? = some t ∧ i ≤ t.span.start) ∧
        ∀ m t, m < n → (us ++ vs)[m]? = some t → t.span.start < i := by
  have hleft {m : Nat} {t : Token} (hm : m < us.length) (ht : (us ++ vs)[m]? = some t) :
      t.span.start < i := by
    rw [List.getElem?_append_left hm] at ht
    exact hu t (List.mem_of_getElem? ht)
  rw [firstIndex?_append hu hv]
  constructor
  · intro hn
    cases vs with
    | nil => cases hn
    | cons v vs =>
      obtain rfl : us.length = n := Option.some.inj hn
      refine ⟨⟨v, by simp, hv v List.mem_cons_self⟩, ?_⟩
      intro m t hm ht
      exact hleft hm ht
  · rintro ⟨⟨t, ht, hi⟩, hbefore⟩
    have hge : us.length ≤ n := by
      refine Nat.le_of_not_lt fun hlt => ?_
      have := hleft hlt ht
      omega
    cases vs with
    | nil => simp [hge] at ht
    | cons v vs =>
      have hle : n ≤ us.length := by
        refine Nat.le_of_not_lt fun hlt => ?_
        have := hbefore us.length v hlt (by simp)
        have := hv v List.mem_cons_self
        omega
      rw [if_neg (List.cons_ne_nil _ _), Nat.le_antisymm hge hle]

theorem firstIndex?_append_eq_none_iff :
    firstIndex? ⟨us ++ vs⟩ i = none ↔ ∀ t ∈ us ++ vs, t.span.start < i := by
  rw [firstIndex?_append hu hv]
  cases vs with
  | nil => simpa using hu
  | cons v vs =>
    have := hv v List.mem_cons_self
    simp only [reduceCtorEq, if_false, false_iff, not_forall]
    exact ⟨v, List.mem_append_right _ List.mem_cons_self, by omega⟩

theorem tokensFrom_append : tokensFrom ⟨us ++ vs⟩ i = vs := by
  unfold tokensFrom
  rw [firstIndex?_append hu hv]
  cases vs with
  | nil => rfl
  | cons v vs => exact List.drop_left

end Split

/-- Behind the tokens that are taken none starts before the end of the span, and of those that are
taken only the last may go past it. -/
theorem takeThrough_inOrder {a b : Nat} {ts : List Token} (h : InOrder a ts b) (stop : Nat) :
    (∃ after, ts = takeThrough (stop ≤ ·.span.stop) ts ++ after ∧
      ∀ t ∈ after, stop ≤ t.span.start) ∧
    ∀ us t vs, takeThrough (stop ≤ ·.span.stop) ts = us ++ t :: vs → stop < t.span.stop →
      vs = [] := by
  rcases takeThrough_cases (stop ≤ ·.span.stop) ts with
    ⟨heq, hall⟩ | ⟨xs, y, ys, rfl, heq, hy, hxs⟩
  · rw [heq]
    refine ⟨⟨[], by simp, by simp⟩, ?_⟩
    rintro us t vs rfl hlt
    have := hall t (by simp)
    simp only [decide_eq_false_iff_not] at this
    omega
  · rw [heq]
    have hy : stop ≤ y.span.stop := by simpa using hy
    obtain ⟨m, -, -, -, hys⟩ := h.exists_of_append
    refine ⟨⟨ys, by simp, ?_⟩, ?_⟩
    · intro t ht
      exact Nat.le_trans hy (hys.bounds ht).1
    · intro us t vs hparts hlt
      -- a token that goes past the end is none of those before the last
      rcases List.eq_nil_or_concat vs with rfl | ⟨ws, w, rfl⟩
      · rfl
      · rw [List.concat_eq_append, ← List.cons_append, ← List.append_assoc] at hparts
        have hxs := hxs t (by rw [(List.append_inj' hparts rfl).1]; simp)
        simp only [decide_eq_false_iff_not] at hxs
        omega

/-- What an enumeration of the tokens of a span visits. -/
structure Enumerates (c : TokenList) (r : Span) : Prop where
  visitIn_eq : ∀ (σ : Type) (f : σ → Token → σ) (s : σ),
    c.visitIn r f s = (c.tokensIn r).foldl f s
  firstIndex?_iff : ∀ n, c.firstIndex? r.start = some n ↔
    (∃ t, c.get? n = some t ∧ r.start ≤ t.span.start) ∧
      ∀ m t, m < n → c.get? m = some t → t.span.start < r.start
  firstIndex?_eq_none_iff : c.firstIndex? r.start = none ↔ ∀ t ∈ c.toList, t.span.start < r.start
  /-- The tokens are a run of the list from the first index on. -/
  run : ∀ n, c.firstIndex? r.start = some n → c.tokensIn r ≠ [] ∧
    ∃ before after, before.length = n ∧ c.toList = before ++ c.tokensIn r ++ after
  eq_nil : c.firstIndex? r.start = none → c.tokensIn r = []
  nodup : (c.tokensIn r).Nodup
  complete : ∀ t ∈ c.toList, r.start ≤ t.span.start → t.span.start < r.stop → t ∈ c.tokensIn r
  /-- Only the last token may end past the span. -/
  last : ∀ us t vs, c.tokensIn r = us ++ t :: vs → r.stop < t.span.stop → vs = []

end TokenList

/-- A list of tokens in order is enumerated without loss. -/
theorem InOrder.enumerates {a b : Nat} {c : TokenList} (h : InOrder a c.toList b) (r : Span) :
    c.Enumerates r := by
  obtain ⟨us, vs, hsplit, hu, hv⟩ : ∃ us vs, c.toList = us ++ vs ∧
      (∀ t ∈ us, t.span.start < r.start) ∧ ∀ t ∈ vs, r.start ≤ t.span.start :=
    ⟨_, _, (h.startOrder.filter_append r.start).symm, by simp, by simp⟩
  rw [hsplit] at h
  obtain ⟨m, -, hvs⟩ := h.exists_of_append
  obtain rfl : c = ⟨us ++ vs⟩ := congrArg TokenList.mk hsplit
  have hfirst := TokenList.firstIndex?_append hu hv
  have hin : TokenList.tokensIn ⟨us ++ vs⟩ r =
      TokenList.takeThrough (fun t => r.stop ≤ t.span.stop) vs := by
    rw [TokenList.tokensIn, TokenList.tokensFrom_append hu hv]
  obtain ⟨⟨after, hafter, hbehind⟩, hlast⟩ := TokenList.takeThrough_inOrder hvs r.stop
  rw [← hin] at hafter hlast
  refine ⟨fun σ f s => TokenList.visitIn_eq_foldl _ r f s,
    TokenList.firstIndex?_append_eq_some_iff hu hv, TokenList.firstIndex?_append_eq_none_iff hu hv,
    ?_, ?_, ?_, ?_, hlast⟩
  · intro n hn
    rw [hfirst] at hn
    have hne : vs ≠ [] := by
      rintro rfl
      cases hn
    rw [if_neg hne] at hn
    refine ⟨?_, us, after, Option.some.inj hn, ?_⟩
    · rw [hin]
      exact TokenList.takeThrough_ne_nil _ hne
    · rw [List.append_assoc, ← hafter]
  · intro hn
    rw [hfirst] at hn
    obtain rfl : vs = [] := by simpa using hn
    rw [hin]
    rfl
  · have hnodup := hvs.nodup
    rw [hafter] at hnodup
    exact (List.nodup_append.1 hnodup).1
  · intro t ht hs hlt
    -- a token that starts in the span is one of those from its start on
    have hmem : t ∈ TokenList.tokensIn ⟨us ++ vs⟩ r ++ after := by
      rw [← hafter]
      rcases List.mem_append.1 ht with ht | ht
      · have := hu t ht
        omega
      · exact ht
    rcases List.mem_append.1 hmem with hm | hm
    · exact hm
    · have := hbehind t hm
      omega

namespace Document

/-- Whatever was done to a document, an enumeration of a span visits the tokens from the first one
that starts at or behind the start of the span on, without a gap, and each that starts in the span.
At most the last one ends behind the span. -/
theorem enumerates_run (language : Language) (options : ScanOptions) (text : List Char)
    (ops : List Operation) (h : (openText language options text).FitsThrough ops) (r : Span) :
    ((openText language options text).run ops).tokens.Enumerates r := by
  obtain ⟨hc, -⟩ := (current_openText language options text).run h
  exact hc.inOrder.enumerates r

/-- The span starts in a token, which is left out, and ends in another, which is the last. The
second line cannot be scanned and the insertion moves the tokens behind it. -/
theorem enumerates_run_failed_line :
    let d := (openText .sql ⟨.empty, false, false⟩
      ['a', 'b', ',', '\n', '§', '\n', 'c', ' ', 'd', 'e', ';']).run [.insert 0 ['x']]
    d.tokens.Enumerates ⟨1, 10⟩ ∧ d.tokens.firstIndex? 1 = some 1 ∧
      (d.tokens.tokensIn ⟨1, 10⟩).map (·.span) = [⟨3, 4⟩, ⟨7, 8⟩, ⟨9, 11⟩] := by
  refine ⟨enumerates_run .sql _ _ _ ?_ _, ?_, ?_⟩ <;> decide +kernel

end Document

end SqlBuffer
