/-
  Binary search. In a list whose leading elements satisfy a predicate and whose other elements
  do not, `boundary` is the number of the leading ones.
-/

namespace SqlBuffer

/-- The boundary in the window of `size` elements from `base` on. The window is halved until one
element is left. -/
def boundaryIn (p : Nat → Bool) (base size : Nat) : Nat :=
  if _h : 1 < size then
    boundaryIn p (if p (base + size / 2) then base + size / 2 else base) (size - size / 2)
  else if size = 1 ∧ p base then base + 1
  else base
termination_by size
decreasing_by omega

/-- How many leading elements of the list satisfy the predicate. -/
def boundary {α : Type} (p : α → Bool) (xs : List α) : Nat :=
  boundaryIn (fun i => xs[i]?.any p) 0 xs.length

end SqlBuffer
