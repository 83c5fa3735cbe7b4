import SqlBuffer.Text.Cut

/-
  How far a part of a text goes.
  A run goes on while its characters pass a test (`MaximalRun`). A part that a pattern closes ends
  with the first occurrence of the pattern (`FirstOccurrence`). Both are said without the functions
  that find them; `takeWhile` finds the one and `cutAt?` the other.
-/

namespace SqlBuffer

/-- All of the run passes the test, and the character that follows it does not. -/
structure MaximalRun (p : Char → Bool) (run rest : List Char) : Prop where
  all : ∀ c ∈ run, p c = true
  stops : ∀ c, rest.head? = some c → p c = false

theorem maximalRun_takeWhile (p : Char → Bool) (cs : List Char) :
    MaximalRun p (cs.takeWhile p) (cs.dropWhile p) := by
  constructor
  · exact List.all_eq_true.1 List.all_takeWhile
  · intro c hc
    have := List.head?_dropWhile_not p cs
    rw [hc] at this
    exact this

section Run

variable {p : Char → Bool} {run rest : List Char}

theorem MaximalRun.takeWhile_rest (h : MaximalRun p run rest) : rest.takeWhile p = [] := by
  cases rest with
  | nil => rfl
  | cons c rest => simp [h.stops c rfl]

theorem MaximalRun.takeWhile_eq (h : MaximalRun p run rest) : (run ++ rest).takeWhile p = run := by
  rw [List.takeWhile_append_of_pos h.all, h.takeWhile_rest, List.append_nil]

theorem MaximalRun.dropWhile_eq (h : MaximalRun p run rest) : (run ++ rest).dropWhile p = rest := by
  have hsplit := List.takeWhile_append_dropWhile (p := p) (l := run ++ rest)
  rw [h.takeWhile_eq] at hsplit
  exact List.append_cancel_left hsplit

end Run

/-! ## First occurrences -/

/-- The pattern at the end of `before ++ pattern` is the first one there: it occurs at no place
within `before`, not even one from which it reaches out of it. -/
def FirstOccurrence (pattern before : List Char) : Prop :=
  ∀ i, i < before.length → ¬ pattern <+: (before ++ pattern).drop i

instance (pattern before : List Char) : Decidable (FirstOccurrence pattern before) :=
  inferInstanceAs (Decidable (∀ i, i < before.length → _))

section Cut

variable {pattern cs before after : List Char}

theorem firstOccurrence_nil (pattern : List Char) : FirstOccurrence pattern [] := by
  intro i hi
  simp at hi

theorem firstOccurrence_cons {c : Char} :
    FirstOccurrence pattern (c :: before) ↔
      ¬ pattern <+: c :: (before ++ pattern) ∧ FirstOccurrence pattern before := by
  constructor
  · intro h
    refine ⟨h 0 (by simp), fun i hi => ?_⟩
    exact h (i + 1) (by simpa using hi)
  · rintro ⟨hfirst, hrest⟩ i hi
    cases i with
    | zero => exact hfirst
    | succ i => exact hrest i (by simpa using hi)

theorem cutAt?_of_isPrefixOf (h : pattern.isPrefixOf cs = true) :
    cutAt? pattern cs = some ([], cs.drop pattern.length) := by
  cases cs with
  | nil =>
    have hp : pattern = [] := by simpa using h
    simp [cutAt?, hp]
  | cons c cs => rw [cutAt?, if_pos h]

theorem cutAt?_cons_of_not {c : Char} (h : ¬ pattern <+: c :: cs) :
    cutAt? pattern (c :: cs) = (cutAt? pattern cs).map fun (b, a) => (c :: b, a) := by
  rw [cutAt?, if_neg]
  rwa [List.isPrefixOf_iff_prefix]

/-- A pattern that would go out of `before ++ pattern` is not looked for: what follows does not
matter to its first occurrence. -/
theorem prefix_cons_append_iff {c : Char} (after : List Char) :
    pattern <+: c :: (before ++ pattern ++ after) ↔ pattern <+: c :: (before ++ pattern) := by
  have hle : pattern.length ≤ (c :: (before ++ pattern)).length := by
    simp only [List.length_cons, List.length_append]
    omega
  have hpre : c :: (before ++ pattern) <+: c :: (before ++ pattern ++ after) :=
    List.prefix_append (c :: (before ++ pattern)) after
  exact ⟨fun h => List.prefix_of_prefix_length_le h hpre hle, fun h => h.trans hpre⟩

/-- A text is cut at the first occurrence of the pattern. -/
theorem cutAt?_eq_some_iff :
    cutAt? pattern cs = some (before, after) ↔
      cs = before ++ pattern ++ after ∧ FirstOccurrence pattern before := by
  constructor
  · intro h
    refine ⟨(cutAt?_eq_some_append h).symm, ?_⟩
    induction cs generalizing before with
    | nil =>
      unfold cutAt? at h
      split at h
      · cases h
        exact firstOccurrence_nil _
      · cases h
    | cons c cs ih =>
      by_cases hp : pattern <+: c :: cs
      · rw [cutAt?_of_isPrefixOf (List.isPrefixOf_iff_prefix.2 hp)] at h
        cases h
        exact firstOccurrence_nil _
      · rw [cutAt?_cons_of_not hp] at h
        obtain ⟨⟨b, a⟩, hcut, heq⟩ := Option.map_eq_some_iff.1 h
        cases heq
        rw [← cutAt?_eq_some_append hcut, prefix_cons_append_iff] at hp
        exact firstOccurrence_cons.2 ⟨hp, ih hcut⟩
  · rintro ⟨rfl, h⟩
    induction before with
    | nil =>
      rw [List.nil_append, cutAt?_of_isPrefixOf, List.drop_left]
      exact List.isPrefixOf_iff_prefix.2 (List.prefix_append _ _)
    | cons c before ih =>
      obtain ⟨hfirst, hrest⟩ := firstOccurrence_cons.1 h
      rw [← prefix_cons_append_iff after] at hfirst
      rw [List.cons_append, List.cons_append, cutAt?_cons_of_not hfirst, ih hrest]
      rfl

/-- A text is not cut if and only if the pattern occurs nowhere in it. -/
theorem cutAt?_eq_none_iff : cutAt? pattern cs = none ↔ ¬ pattern <:+: cs := by
  induction cs with
  | nil => simp [cutAt?]
  | cons c cs ih =>
    rw [List.infix_cons_iff, not_or]
    by_cases hp : pattern <+: c :: cs
    · rw [cutAt?_of_isPrefixOf (List.isPrefixOf_iff_prefix.2 hp)]
      simp [hp]
    · rw [cutAt?_cons_of_not hp, Option.map_eq_none_iff, ih]
      simp [hp]

end Cut

end SqlBuffer
