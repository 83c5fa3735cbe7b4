import Mathlib.Data.List.Induction
import SqlBuffer.Bracket

/-
  Matching brackets with a stack.
  Read from the left, an opening bracket goes on the stack, and a closing one takes the top of the
  stack as its partner, or has none if the stack is empty. A search with a counter of open
  brackets finds the same partners. Backwards, the search at depth `n` is looking for place `n` of
  the stack; forwards, the depth says how many brackets lie on the stack above the one it set out
  from.
-/

namespace SqlBuffer

@[simp] theorem TokenKind.sameAs_punctuation (kind : TokenKind) (p : Punctuation) :
    kind.sameAs (.punctuation p) = decide (kind = .punctuation p) := by
  cases kind <;> rfl

/-! ## One step of the search -/

section Search

variable {origin partner : TokenKind} {n : Nat} {t : Token} {ts : List Token}

theorem findPartner_cons_origin (h : t.kind.sameAs origin = true) :
    findPartner origin partner n (t :: ts) = findPartner origin partner (n + 1) ts := by
  cases n <;> simp [findPartner, h]

theorem findPartner_cons_partner_zero (ho : ¬ t.kind.sameAs origin = true)
    (hp : t.kind.sameAs partner = true) :
    findPartner origin partner 0 (t :: ts) = some t.span := by
  simp [findPartner, ho, hp]

theorem findPartner_cons_partner_succ (ho : ¬ t.kind.sameAs origin = true)
    (hp : t.kind.sameAs partner = true) :
    findPartner origin partner (n + 1) (t :: ts) = findPartner origin partner n ts := by
  simp [findPartner, ho, hp]

theorem findPartner_cons_other (ho : ¬ t.kind.sameAs origin = true)
    (hp : ¬ t.kind.sameAs partner = true) :
    findPartner origin partner n (t :: ts) = findPartner origin partner n ts := by
  cases n <;> simp [findPartner, ho, hp]

/-- The level of nesting that a search counts: one for the bracket that it sets out from, one more
for each of its kind and one less for each partner. -/
def nestingLevel (origin partner : TokenKind) (walked : List Token) : Int :=
  walked.foldl
    (fun level t =>
      if t.kind.sameAs origin then level + 1
      else if t.kind.sameAs partner then level - 1
      else level)
    1

/-- As long as the search has found nothing the level stays above zero, so that the next partner
can be counted down. -/
theorem nestingLevel_pos {walked : List Token} (h : findPartner origin partner 0 walked = none) :
    0 < nestingLevel origin partner walked := by
  -- the counter of the search is one less than the level
  have key (ts : List Token) (n : Nat) (h : findPartner origin partner n ts = none) :
      0 < ts.foldl
        (fun level t =>
          if t.kind.sameAs origin then level + 1
          else if t.kind.sameAs partner then level - 1
          else level)
        ((n : Int) + 1) := by
    induction ts generalizing n with
    | nil => exact Int.natCast_succ_pos n
    | cons t ts ih =>
      rw [List.foldl_cons]
      by_cases ho : t.kind.sameAs origin = true
      · rw [findPartner_cons_origin ho] at h
        rw [if_pos ho]
        exact ih (n + 1) h
      · rw [if_neg ho]
        by_cases hp : t.kind.sameAs partner = true
        · rw [if_pos hp]
          cases n with
          | zero =>
            rw [findPartner_cons_partner_zero ho hp] at h
            cases h
          | succ n =>
            rw [findPartner_cons_partner_succ ho hp] at h
            have := ih n h
            rwa [Int.natCast_succ, Int.add_sub_cancel]
        · rw [findPartner_cons_other ho hp] at h
          rw [if_neg hp]
          exact ih n h
  exact key walked 0 h

end Search

/-! ## The stack -/

variable (o c : Punctuation)

/-- The stack of open brackets after a token. -/
def pushBracket (stack : List Token) (t : Token) : List Token :=
  if t.kind = .punctuation o then t :: stack
  else if t.kind = .punctuation c then stack.tail
  else stack

/-- The brackets that a stack pairs, each closing one with the opening one that it takes from the
stack. -/
def stackPairs : List Token → List Token → List (Token × Token)
  | _, [] => []
  | stack, t :: ts =>
    if t.kind = .punctuation o then stackPairs (t :: stack) ts
    else if t.kind = .punctuation c then
      match stack with
      | [] => stackPairs [] ts
      | u :: below => (u, t) :: stackPairs below ts
    else stackPairs stack ts

variable {o c}

section Steps

variable {stack ts : List Token} {t u : Token}

theorem pushBracket_opening (h : t.kind = .punctuation o) : pushBracket o c stack t = t :: stack :=
  if_pos h

theorem pushBracket_closing (ho : t.kind ≠ .punctuation o) (hc : t.kind = .punctuation c) :
    pushBracket o c stack t = stack.tail := by
  rw [pushBracket, if_neg ho, if_pos hc]

theorem pushBracket_other (ho : t.kind ≠ .punctuation o) (hc : t.kind ≠ .punctuation c) :
    pushBracket o c stack t = stack := by
  rw [pushBracket, if_neg ho, if_neg hc]

theorem stackPairs_opening (h : t.kind = .punctuation o) :
    stackPairs o c stack (t :: ts) = stackPairs o c (t :: stack) ts := by
  cases stack <;> simp [stackPairs, h]

theorem stackPairs_closing_nil (ho : t.kind ≠ .punctuation o) :
    stackPairs o c [] (t :: ts) = stackPairs o c [] ts := by
  simp [stackPairs, ho]

theorem stackPairs_closing_cons (ho : t.kind ≠ .punctuation o) (hc : t.kind = .punctuation c) :
    stackPairs o c (u :: stack) (t :: ts) = (u, t) :: stackPairs o c stack ts := by
  simp only [stackPairs, if_neg ho, if_pos hc]

theorem stackPairs_other (ho : t.kind ≠ .punctuation o) (hc : t.kind ≠ .punctuation c) :
    stackPairs o c stack (t :: ts) = stackPairs o c stack ts := by
  cases stack <;> simp [stackPairs, ho, hc]

end Steps

theorem stackPairs_append (stack xs ys : List Token) :
    stackPairs o c stack (xs ++ ys) =
      stackPairs o c stack xs ++ stackPairs o c (xs.foldl (pushBracket o c) stack) ys := by
  induction xs generalizing stack with
  | nil => rfl
  | cons t xs ih =>
    rw [List.cons_append, List.foldl_cons]
    by_cases ho : t.kind = .punctuation o
    · rw [stackPairs_opening ho, stackPairs_opening ho, pushBracket_opening ho, ih]
    by_cases hc : t.kind = .punctuation c
    · rw [pushBracket_closing ho hc]
      cases stack with
      | nil => rw [stackPairs_closing_nil ho, stackPairs_closing_nil ho, ih, List.tail_nil]
      | cons u below =>
        rw [stackPairs_closing_cons ho hc, stackPairs_closing_cons ho hc, ih, List.tail_cons,
          List.cons_append]
    · rw [stackPairs_other ho hc, stackPairs_other ho hc, pushBracket_other ho hc, ih]

theorem mem_of_mem_stackPairs {stack ts : List Token} {t u : Token}
    (h : (t, u) ∈ stackPairs o c stack ts) :
    (t ∈ stack ∨ t ∈ ts ∧ t.kind = .punctuation o) ∧ u ∈ ts ∧ u.kind = .punctuation c := by
  induction ts generalizing stack with
  | nil => cases h
  | cons v ts ih =>
    by_cases ho : v.kind = .punctuation o
    · rw [stackPairs_opening ho] at h
      obtain ⟨ht, hu, hc⟩ := ih h
      refine ⟨?_, List.mem_cons_of_mem _ hu, hc⟩
      rcases ht with ht | ⟨ht, hk⟩
      · rcases List.mem_cons.1 ht with rfl | ht
        · exact Or.inr ⟨List.mem_cons_self, ho⟩
        · exact Or.inl ht
      · exact Or.inr ⟨List.mem_cons_of_mem _ ht, hk⟩
    have hlater {below : List Token} (hb : ∀ w ∈ below, w ∈ stack)
        (h : (t, u) ∈ stackPairs o c below ts) :
        (t ∈ stack ∨ t ∈ v :: ts ∧ t.kind = .punctuation o) ∧ u ∈ v :: ts ∧
          u.kind = .punctuation c := by
      obtain ⟨ht, hu, hc⟩ := ih h
      exact ⟨ht.imp (hb t) fun ht => ⟨List.mem_cons_of_mem _ ht.1, ht.2⟩,
        List.mem_cons_of_mem _ hu, hc⟩
    by_cases hc : v.kind = .punctuation c
    · cases stack with
      | nil =>
        rw [stackPairs_closing_nil ho] at h
        exact hlater (fun _ hw => hw) h
      | cons w below =>
        rw [stackPairs_closing_cons ho hc] at h
        rcases List.mem_cons.1 h with h | h
        · cases h
          exact ⟨Or.inl List.mem_cons_self, List.mem_cons_self, hc⟩
        · exact hlater (fun _ hw => List.mem_cons_of_mem _ hw) h
    · rw [stackPairs_other ho hc] at h
      exact hlater (fun _ hw => hw) h

/-! ## The search backwards -/

/-- Searching backwards at depth `n` finds place `n` of the stack. -/
theorem findPartner_reverse (hne : o ≠ c) (ts : List Token) (n : Nat) :
    findPartner (.punctuation c) (.punctuation o) n ts.reverse =
      ((ts.foldl (pushBracket o c) [])[n]?).map (·.span) := by
  -- the search takes the tokens from the right end, as the stack got them last
  induction ts using List.reverseRecOn generalizing n with
  | nil => rfl
  | append_singleton ts t ih =>
    rw [List.reverse_append, List.reverse_singleton, List.singleton_append, List.foldl_append,
      List.foldl_cons, List.foldl_nil]
    by_cases ho : t.kind = .punctuation o
    · have hc : t.kind ≠ .punctuation c := by
        rw [ho]
        simpa using hne
      rw [pushBracket_opening ho]
      cases n with
      | zero =>
        rw [findPartner_cons_partner_zero (by simpa using hc) (by simpa using ho)]
        rfl
      | succ n =>
        rw [findPartner_cons_partner_succ (by simpa using hc) (by simpa using ho), ih,
          List.getElem?_cons_succ]
    by_cases hc : t.kind = .punctuation c
    · rw [pushBracket_closing ho hc, findPartner_cons_origin (by simpa using hc), ih,
        List.getElem?_tail]
    · rw [pushBracket_other ho hc, findPartner_cons_other (by simpa using hc) (by simpa using ho),
        ih]

/-- A closing bracket is paired with the top of the stack before it. -/
theorem mem_stackPairs_iff_head? (hne : o ≠ c) {pre post : List Token} {t u : Token}
    (ht : t.kind = .punctuation c) (hpre : t ∉ pre) (hpost : t ∉ post) :
    (u, t) ∈ stackPairs o c [] (pre ++ t :: post) ↔
      (pre.foldl (pushBracket o c) []).head? = some u := by
  have ho : t.kind ≠ .punctuation o := by
    rw [ht]
    simpa using hne.symm
  have hl : (u, t) ∉ stackPairs o c [] pre := fun h => hpre (mem_of_mem_stackPairs h).2.1
  have hr (stack : List Token) : (u, t) ∉ stackPairs o c stack post :=
    fun h => hpost (mem_of_mem_stackPairs h).2.1
  rw [stackPairs_append, List.mem_append]
  cases pre.foldl (pushBracket o c) [] with
  | nil =>
    rw [stackPairs_closing_nil ho]
    simp [hl, hr]
  | cons v below =>
    rw [stackPairs_closing_cons ho ht]
    simp [hl, hr, eq_comm]

/-- The search from a closing bracket finds what the stack pairs it with. -/
theorem findPartner_reverse_iff (hne : o ≠ c) {pre post : List Token} {t : Token}
    (ht : t.kind = .punctuation c) (hpre : t ∉ pre) (hpost : t ∉ post) (r : Span) :
    findPartner (.punctuation c) (.punctuation o) 0 pre.reverse = some r ↔
      ∃ u, (u, t) ∈ stackPairs o c [] (pre ++ t :: post) ∧ u.span = r := by
  simp only [mem_stackPairs_iff_head? hne ht hpre hpost]
  rw [findPartner_reverse hne, ← List.head?_eq_getElem?, Option.map_eq_some_iff]

/-! ## The search forwards -/

/-- Searching forwards finds the closing bracket that takes `t` from the stack, where the depth is
the number of brackets above `t`. -/
theorem findPartner_iff_of_stack {above below ts : List Token} {t : Token} (ha : t ∉ above)
    (hb : t ∉ below) (ht : t ∉ ts) (r : Span) :
    findPartner (.punctuation o) (.punctuation c) above.length ts = some r ↔
      ∃ u, (t, u) ∈ stackPairs o c (above ++ t :: below) ts ∧ u.span = r := by
  induction ts generalizing above with
  | nil => simp [findPartner, stackPairs]
  | cons v ts ih =>
    obtain ⟨hv, hts⟩ : t ≠ v ∧ t ∉ ts := by simpa using ht
    by_cases ho : v.kind = .punctuation o
    · have hva : t ∉ v :: above := by simp [hv, ha]
      rw [findPartner_cons_origin (by simpa using ho)]
      simp only [stackPairs_opening ho]
      exact ih hva hts
    by_cases hc : v.kind = .punctuation c
    · cases above with
      | nil =>
        -- `t` is on top: it leaves the stack here and is paired no more
        have hgone (u : Token) : (t, u) ∉ stackPairs o c below ts := by
          intro h
          rcases (mem_of_mem_stackPairs h).1 with h | h
          · exact hb h
          · exact hts h.1
        rw [List.length_nil, findPartner_cons_partner_zero (by simpa using ho) (by simpa using hc)]
        simp only [List.nil_append, stackPairs_closing_cons ho hc]
        simp [hgone]
      | cons a above =>
        obtain ⟨hta, ha⟩ : t ≠ a ∧ t ∉ above := by simpa using ha
        rw [List.length_cons,
          findPartner_cons_partner_succ (by simpa using ho) (by simpa using hc)]
        simp only [List.cons_append, stackPairs_closing_cons ho hc, List.mem_cons, Prod.mk.injEq,
          hta, false_and, false_or]
        exact ih ha hts
    · rw [findPartner_cons_other (by simpa using ho) (by simpa using hc)]
      simp only [stackPairs_other ho hc]
      exact ih ha hts

theorem mem_foldl_pushBracket {stack ts : List Token} {t : Token}
    (h : t ∈ ts.foldl (pushBracket o c) stack) : t ∈ stack ∨ t ∈ ts := by
  induction ts generalizing stack with
  | nil => exact Or.inl h
  | cons v ts ih =>
    rcases ih h with h | h
    · unfold pushBracket at h
      split at h
      · rcases List.mem_cons.1 h with rfl | h
        · exact Or.inr List.mem_cons_self
        · exact Or.inl h
      · split at h
        · exact Or.inl (List.mem_of_mem_tail h)
        · exact Or.inl h
    · exact Or.inr (List.mem_cons_of_mem _ h)

/-- The search from an opening bracket finds what the stack pairs it with. -/
theorem findPartner_iff {pre post : List Token} {t : Token} (ht : t.kind = .punctuation o)
    (hpre : t ∉ pre) (hpost : t ∉ post) (r : Span) :
    findPartner (.punctuation o) (.punctuation c) 0 post = some r ↔
      ∃ u, (t, u) ∈ stackPairs o c [] (pre ++ t :: post) ∧ u.span = r := by
  have hstack : t ∉ pre.foldl (pushBracket o c) [] := by
    intro h
    rcases mem_foldl_pushBracket h with h | h
    · cases h
    · exact hpre h
  have hl (u : Token) : (t, u) ∉ stackPairs o c [] pre := by
    intro h
    rcases (mem_of_mem_stackPairs h).1 with h | h
    · cases h
    · exact hpre h.1
  rw [stackPairs_append, stackPairs_opening ht]
  simp only [List.mem_append, hl, false_or]
  have hnil : t ∉ ([] : List Token) := List.not_mem_nil
  exact findPartner_iff_of_stack hnil hstack hpost r

end SqlBuffer
