import SqlBuffer.Text.Utf8

/-
  The first occurrence of a pattern in a text: where it is, and the parts of the text around it.
-/

namespace SqlBuffer

/-- How many bytes of the text stand before the first occurrence of `pattern`. -/
def findBytes? (pattern : List Char) : List Char → Option Nat
  | [] => if pattern = [] then some 0 else none
  | c :: cs =>
    if pattern.isPrefixOf (c :: cs) then some 0
    else (findBytes? pattern cs).map (c.utf8Size + ·)

/-- The text before the first occurrence of `pattern` and the text after it. -/
def cutAt? (pattern : List Char) : List Char → Option (List Char × List Char)
  | [] => if pattern = [] then some ([], []) else none
  | c :: cs =>
    if pattern.isPrefixOf (c :: cs) then some ([], (c :: cs).drop pattern.length)
    else (cutAt? pattern cs).map fun (before, after) => (c :: before, after)

theorem cutAt?_eq_some_append {pattern cs before after : List Char}
    (h : cutAt? pattern cs = some (before, after)) : before ++ pattern ++ after = cs := by
  induction cs generalizing before with
  | nil =>
    by_cases hp : pattern = []
    · simp only [cutAt?, if_pos hp, Option.some.injEq, Prod.mk.injEq] at h
      obtain ⟨rfl, rfl⟩ := h
      simp [hp]
    · simp [cutAt?, hp] at h
  | cons c cs ih =>
    rw [cutAt?] at h
    split at h
    · next hp =>
      obtain ⟨t, ht⟩ := List.isPrefixOf_iff_prefix.1 hp
      simp only [Option.some.injEq, Prod.mk.injEq] at h
      obtain ⟨rfl, rfl⟩ := h
      rw [← ht]
      simp
    · cases hc : cutAt? pattern cs with
      | none => simp [hc] at h
      | some r =>
        obtain ⟨b, a⟩ := r
        simp only [hc, Option.map_some, Option.some.injEq, Prod.mk.injEq] at h
        obtain ⟨rfl, rfl⟩ := h
        rw [← ih hc]
        rfl

/-- A cut is made at the byte where the pattern is found. -/
theorem findBytes?_eq (pattern cs : List Char) :
    findBytes? pattern cs = (cutAt? pattern cs).map fun (before, _) => utf8Length before := by
  induction cs with
  | nil =>
    rw [findBytes?, cutAt?]
    split <;> rfl
  | cons c cs ih =>
    rw [findBytes?, cutAt?]
    split
    · rfl
    · rw [ih, Option.map_map, Option.map_map]
      rfl

end SqlBuffer
