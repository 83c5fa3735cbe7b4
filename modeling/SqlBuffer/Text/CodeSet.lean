/-
  Sets of characters by code point.
  A set is the ascending list of the code points at which membership flips: the first one
  enters the set, the second one leaves it, and so on. Lookup stops at the first flip above the
  code point it asks for.
-/

namespace SqlBuffer

/-- A set of code points, given by the ascending points at which membership flips. -/
structure CodeSet where
  flips : List Nat

namespace CodeSet

/-- Membership by a list of flips that starts outside the set. -/
def inside : List Nat → Nat → Bool
  | enter :: leave :: rest, n =>
    if n < enter then false else if n < leave then true else inside rest n
  | _, _ => false

def has (s : CodeSet) (c : Char) : Bool :=
  inside s.flips c.toNat

end CodeSet

end SqlBuffer
