/-
  Half-open ranges of positions, counted in characters from zero.
  `stop` may lie before `start`; such a span is empty, as is one with both ends equal.
  Positions are words of 64 bits: moving a span stays within them, and differences of positions
  are taken between words with a sign.
-/

namespace SqlBuffer

/-- The last position that there is. -/
def lastPosition : Nat :=
  0xffffffffffffffff

/-- The position `n` further on, or the last one if that would leave the positions. -/
def advance (i n : Nat) : Nat :=
  min (i + n) lastPosition

/-- A position as a word with a sign; those in the upper half are negative. -/
def signedPosition (i : Nat) : Int :=
  Int.bmod i 0x10000000000000000

/-- The position that a word with a sign stands for. -/
def positionOf (n : Int) : Nat :=
  (n % 0x10000000000000000).toNat

/-- The positions from `start` up to but not including `stop`. -/
structure Span where
  start : Nat
  stop : Nat
deriving DecidableEq, Repr, Inhabited

namespace Span

def length (r : Span) : Nat :=
  r.stop - r.start

def isEmpty (r : Span) : Bool :=
  r.stop ≤ r.start

def contains (r : Span) (i : Nat) : Bool :=
  r.start ≤ i && i < r.stop

/-- The span of the same length at another start. -/
def moveTo (r : Span) (start : Nat) : Span :=
  ⟨start, start + r.length⟩

/-- The span moved by `delta`. A start that would leave the positions stays at the first or the
last of them. -/
def shift (r : Span) (delta : Int) : Span :=
  r.moveTo (min (r.start + delta).toNat lastPosition)

def offset (r : Span) (n : Nat) : Span :=
  ⟨r.start + n, r.stop + n⟩

/-- The span and the position after it, within a text of the given length. A start at or past
the end of the text gives the empty span there. -/
def extend (r : Span) (textLength : Nat) : Span :=
  if textLength ≤ r.start then ⟨textLength, textLength⟩
  else ⟨r.start, min (r.stop + 1) textLength⟩

def slice {α : Type} (r : Span) (xs : List α) : List α :=
  (xs.drop r.start).take r.length

def display (r : Span) : String :=
  toString r.start ++ ".." ++ toString r.stop

end Span

end SqlBuffer
