import SqlBuffer.Yaml.Place

/-
  Tags and directives of YAML.
  A tag names the kind of a value. It is written in full between angle brackets, or as a handle
  and the rest of the name; directives before a document say what a handle stands for. Any octet
  of a tag may be written in base sixteen after a percent sign, as long as lead and trail octets
  of UTF-8 follow each other.
-/

namespace SqlBuffer.Yaml

/-- The name of a kind of value, in octets. -/
abbrev Tag := List UInt8

def tagOf (text : List Char) : Tag :=
  text.map fun c => c.toNat.toUInt8

/-- A tag ends before an octet that is zero. -/
def cutTag (octets : Tag) : Tag :=
  octets.takeWhile (· ≠ 0)

/-- Characters of a tag. Punctuation of flow sequences is allowed in `full` names only. -/
def isTagChar (full : Bool) (c : Char) : Bool :=
  let marks := [';', '/', '?', ':', '@', '&', '=', '+', '$', '.', '!', '~', '*', '\'', '(', ')']
  isNameChar c || marks.contains c || (full && (c == ',' || c == '[' || c == ']'))

/-- How many octets follow a lead octet in UTF-8. -/
def trailCount? (octet : Nat) : Option Nat :=
  if octet < 0x80 then some 0
  else if octet < 0xc0 then none
  else if octet < 0xe0 then some 1
  else if octet < 0xf0 then some 2
  else if octet < 0xf8 then some 3
  else none

/-- Reads the octets of a tag after the given ones, which have the last one first; `trail` more
have to be trail octets. -/
def octetsFrom (full : Bool) (trail : Nat) (octets : Tag) (line column : Nat) :
    List Char → Option (Tag × Place)
  | [] => if trail = 0 then some (octets.reverse, ⟨[], line, column⟩) else none
  | '%' :: a :: b :: cs => do
    let octet := 16 * (← hexValue? a) + (← hexValue? b)
    let trail ←
      match trail with
      | 0 => trailCount? octet
      | n + 1 => if 0x80 ≤ octet && octet < 0xc0 then some n else none
    octetsFrom full trail (octet.toUInt8 :: octets) line (column + 3) cs
  | c :: cs =>
    if trail ≠ 0 || c = '%' then none
    else if isTagChar full c then
      octetsFrom full 0 (c.toNat.toUInt8 :: octets) line (column + 1) cs
    else some (octets.reverse, ⟨c :: cs, line, column⟩)

def octetsAt (full : Bool) (p : Place) : Option (Tag × Place) := do
  let (octets, q) ← octetsFrom full 0 [] p.line p.column p.rest
  guard (octets ≠ [])
  return (cutTag octets, q)

/-- A tag as it is written: a handle, which is empty if the rest is the whole tag, and the rest. -/
structure TagText where
  handle : List Char
  rest : Tag

/-- Reads a tag at its exclamation mark. A mark alone is a whole tag. -/
def tagAt (p : Place) : Option (TagText × Place) := do
  match p.rest with
  | '!' :: '<' :: _ =>
    let (tag, q) ← octetsAt true (p.forward 2)
    guard (q.rest.head? = some '>')
    return (⟨[], tag⟩, q.forward 1)
  | _ =>
    let (name, q) := (p.forward 1).takeWhile isNameChar
    if q.rest.head? = some '!' then
      let (rest, r) ← octetsAt false (q.forward 1)
      return (⟨'!' :: name ++ ['!'], rest⟩, r)
    else
      let (octets, r) ← octetsFrom false 0 (tagOf name).reverse q.line q.column q.rest
      let rest := cutTag octets
      return (if rest = [] then ⟨[], tagOf ['!']⟩ else ⟨['!'], rest⟩, r)

inductive Directive
  | version (major minor : Nat)
  | handle (name : List Char) (text : Tag)

def versionNumber (p : Place) : Option (Nat × Place) := do
  let (digits, q) := p.takeWhile Char.isDigit
  guard (0 < digits.length && digits.length ≤ 9)
  return (digits.foldl (fun n c => 10 * n + (c.toNat - 48)) 0, q)

/-- Reads the handle of a directive: an exclamation mark, or a name between two. -/
def handleAt (p : Place) : Option (List Char × Place) := do
  guard (p.rest.head? = some '!')
  let (name, q) := (p.forward 1).takeWhile isNameChar
  if q.rest.head? = some '!' then return ('!' :: name ++ ['!'], q.forward 1)
  guard (name = [])
  return (['!'], q)

/-- Reads a directive at its percent sign, with the line that it stands on. -/
def directiveAt (p : Place) : Option (Directive × Place) := do
  let (name, q) := (p.forward 1).takeWhile isNameChar
  guard (blankNext q.rest)
  let q := q.dropWhile isGap
  if name = "YAML".toList then
    let (major, r) ← versionNumber q
    guard (r.rest.head? = some '.')
    let (minor, r) ← versionNumber (r.forward 1)
    return (.version major minor, ← r.finishLine)
  else
    guard (name = "TAG".toList)
    let (handle, r) ← handleAt q
    guard (r.rest.head?.any isGap)
    let (text, r) ← octetsAt true (r.dropWhile isGap)
    guard (blankNext r.rest)
    return (.handle handle text, ← r.finishLine)

end SqlBuffer.Yaml
