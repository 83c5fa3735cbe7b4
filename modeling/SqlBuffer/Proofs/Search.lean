import SqlBuffer.Line.Search

/-
  Binary search finds the boundary.
  `boundary` probes a list at few places. On a list that falls into a front whose elements all
  satisfy the predicate and a rest whose elements all fail it, the answer is the length of the
  front. The halving keeps one fact: the boundary lies between the ends of the window.
-/

namespace SqlBuffer

/-- The boundary `m` stays within the window of every call. -/
theorem boundaryIn_eq {p : Nat → Bool} {n m : Nat} (hp : ∀ i, i < n → (p i = true ↔ i < m))
    (base size : Nat) (hb : base ≤ m) (hm : m ≤ base + size) (hn : base + size ≤ n) :
    boundaryIn p base size = m := by
  fun_induction boundaryIn p base size with
  | case1 base size hs ih =>
    have hmid := hp (base + size / 2) (by omega)
    by_cases h : p (base + size / 2) = true
    · have := hmid.1 h
      simp only [dif_pos h] at ih
      rw [if_pos h]
      exact ih (by omega) (by omega) (by omega)
    · have : ¬ base + size / 2 < m := fun hlt => h (hmid.2 hlt)
      simp only [dif_neg h] at ih
      rw [if_neg h]
      exact ih hb (by omega) (by omega)
  | case2 base size _ h =>
    have := (hp base (by omega)).1 h.2
    omega
  | case3 base size hs h =>
    have : size = 1 → ¬ base < m := fun h1 hlt => h ⟨h1, (hp base (by omega)).2 hlt⟩
    omega

/-- Where the predicate holds on the front and fails on the rest, the search gives the length of
the front. -/
theorem boundary_append {α : Type} {p : α → Bool} {xs ys : List α} (hx : ∀ x ∈ xs, p x = true)
    (hy : ∀ y ∈ ys, p y = false) : boundary p (xs ++ ys) = xs.length := by
  refine boundaryIn_eq (n := (xs ++ ys).length) ?_ 0 _ (by omega) (by simp) (by omega)
  intro i hi
  rw [List.getElem?_eq_getElem hi, Option.any_some]
  by_cases h : i < xs.length
  · rw [List.getElem_append_left h]
    exact ⟨fun _ => h, fun _ => hx _ (List.getElem_mem h)⟩
  · rw [List.getElem_append_right (by omega)]
    have := hy _ (List.getElem_mem (l := ys) (by simp at hi; omega : i - xs.length < ys.length))
    simp [this, h]

end SqlBuffer
