import SqlBuffer.Yaml.Place

/-
  What plain text stands for in YAML: nothing, a truth value, a number or itself.
-/

namespace SqlBuffer.Yaml

def isNothing (cs : List Char) : Bool :=
  ["", "~", "null", "Null", "NULL"].contains (String.ofList cs)

def truth? (cs : List Char) : Option Bool :=
  if ["true", "True", "TRUE"].contains (String.ofList cs) then some true
  else if ["false", "False", "FALSE"].contains (String.ofList cs) then some false
  else none

/-- The digits of a number in a base, if there is at least one and all are digits of the base. -/
def digits? (base : Nat) (cs : List Char) : Option Nat := do
  guard (cs ≠ [])
  let values ← cs.mapM hexValue?
  guard (values.all (· < base))
  return values.foldl (base * · + ·) 0

/-- A number in base sixteen, eight or two after the mark of the base. -/
def based? : List Char → Option Nat
  | '0' :: 'x' :: rest => digits? 16 rest
  | '0' :: 'o' :: rest => digits? 8 rest
  | '0' :: 'b' :: rest => digits? 2 rest
  | _ => none

def dropPlus (cs : List Char) : List Char :=
  if cs.head? = some '+' then cs.tail else cs

/-- Several digits of which the first is zero, after a sign or none. They stand for themselves. -/
def hasLeadingZero (cs : List Char) : Bool :=
  match if cs.head? = some '-' then cs.tail else dropPlus cs with
  | '0' :: c :: rest => (c :: rest).all Char.isDigit
  | _ => false

def natural? (cs : List Char) : Option Nat :=
  match based? (dropPlus cs) with
  | some n => some n
  | none => if hasLeadingZero cs then none else digits? 10 (dropPlus cs)

/-- A number in another base, with a sign or none, that fits into 128 bits. -/
def isBased (cs : List Char) : Bool :=
  if cs.head? = some '-' then (based? cs.tail).any (· ≤ Nat.pow 2 127)
  else (based? (dropPlus cs)).any (· < Nat.pow 2 128)

/-- An exponent of ten after its letter; a text without one has the exponent zero. -/
def exponent? : List Char → Option Int
  | [] => some 0
  | c :: cs => do
    guard (c = 'e' || c = 'E')
    if cs.head? = some '-' then return -(← digits? 10 cs.tail)
    return (← digits? 10 (dropPlus cs))

/-- The digits of a decimal number as one number, with the exponent of ten that goes with it. -/
def decimal? (cs : List Char) : Option (Nat × Int) := do
  let (whole, rest) := cs.span Char.isDigit
  let (fraction, rest) :=
    match rest with
    | '.' :: rest => rest.span Char.isDigit
    | _ => ([], rest)
  let n ← digits? 10 (whole ++ fraction)
  return (n, (← exponent? rest) - fraction.length)

/-- The least number that is too large for a binary number of 64 bits with an exponent. -/
def overflow : Nat :=
  Nat.pow 2 1024 - Nat.pow 2 970

/-- The number `n` times ten to the `e` is below `overflow`. Its number of places tells for all
but a few numbers. -/
def isFinite (n : Nat) (e : Int) : Bool :=
  let places := (Nat.toDigits 10 n).length + e
  n == 0 || places ≤ 308
    || (places ≤ 309 && n * Nat.pow 10 e.toNat < overflow * Nat.pow 10 (-e).toNat)

/-- A decimal number with a sign or none that is not too large, or a word for an infinite number
or no number. -/
def isDecimal (cs : List Char) : Bool :=
  let unsigned := if cs.head? = some '-' then cs.tail else dropPlus cs
  [".inf", ".Inf", ".INF"].contains (String.ofList unsigned)
    || [".nan", ".NaN", ".NAN"].contains (String.ofList cs)
    || (decimal? unsigned).any fun (n, e) => isFinite n e

/-- Plain text that does not stand for itself, or looks as if it did not. -/
def isAmbiguous (cs : List Char) : Bool :=
  isNothing cs || (truth? cs).isSome || hasLeadingZero cs || isBased cs || isDecimal cs

end SqlBuffer.Yaml
