import SqlBuffer.Yaml.Place

/-
  Block scalars of YAML: the indented lines after a bar or an angle bracket.
  After a bar the lines are kept, after an angle bracket they are folded: a single line feed
  between two lines that do not start with a blank reads as a space. The mark of the header says
  what becomes of the breaks at the end.
-/

namespace SqlBuffer.Yaml

/-- What becomes of the line breaks at the end of a block scalar. -/
inductive Chomp
  | strip
  | clip
  | keep
deriving DecidableEq, Repr

structure BlockHeader where
  chomp : Chomp := .clip
  /-- How much further the text is indented than the collection around it. -/
  indent : Option Nat := none

def chompOf? : Char → Option Chomp
  | '-' => some .strip
  | '+' => some .keep
  | _ => none

/-- Reads a digit for the indentation, if there is one; it is not zero. -/
def indentAt (h : BlockHeader) (p : Place) : Option (BlockHeader × Place) :=
  match p.rest with
  | c :: _ =>
    if c = '0' then none
    else if c.isDigit then some ({ h with indent := some (c.toNat - 48) }, p.forward 1)
    else some (h, p)
  | [] => some (h, p)

/-- Reads a mark for the end of the text, if there is one. -/
def chompAt (h : BlockHeader) (p : Place) : BlockHeader × Place :=
  match p.rest.head?.bind chompOf? with
  | some chomp => ({ h with chomp }, p.forward 1)
  | none => (h, p)

def headerAt (p : Place) : Option (BlockHeader × Place) :=
  if (p.rest.head?.bind chompOf?).isSome then
    let (h, q) := chompAt {} p
    indentAt h q
  else (indentAt {} p).map fun (h, q) => if h.indent.isSome then chompAt h q else (h, q)

/-- The text of a block scalar as far as it is read. Texts have their last character first. -/
structure BlockText where
  text : List Char := []
  /-- The break of the last line. -/
  stop : Option Char := none
  /-- The breaks of the empty lines since then. -/
  empty : List Char := []
  /-- The last line starts with a blank. -/
  spaced : Bool := false

namespace BlockText

def push (t : BlockText) (c : Char) : BlockText :=
  { t with text := c :: t.text }

def addLine (t : BlockText) (folded : Bool) (c : Char) : BlockText :=
  let gap :=
    if folded && t.stop = some '\n' && !t.spaced && !isGap c then
      if t.empty.isEmpty then [' '] else t.empty
    else t.empty ++ t.stop.toList
  { text := c :: (gap ++ t.text), spaced := isGap c }

def close (t : BlockText) (chomp : Chomp) : List Char :=
  let ending :=
    match chomp with
    | .strip => []
    | .clip => t.stop.toList
    | .keep => t.empty ++ t.stop.toList
  (ending ++ t.text).reverse

end BlockText

/-- Reads the lines of a block scalar on, from `inside` a line or from its margin. A tab does not
indent. -/
def blockFrom (folded : Bool) (indent : Nat) (t : BlockText) (inside : Bool)
    (line column : Nat) : List Char → Option (BlockText × Place)
  | [] => some (t, ⟨[], line, column⟩)
  | c :: cs =>
    if inside then
      if isBreak c then blockFrom folded indent { t with stop := some c } false (line + 1) 0 cs
      else blockFrom folded indent (t.push c) true line (column + 1) cs
    else if column < indent && c = ' ' then blockFrom folded indent t false line (column + 1) cs
    else if column < indent && c = '\t' then none
    else if isBreak c then
      blockFrom folded indent { t with empty := c :: t.empty } false (line + 1) 0 cs
    else if column = indent then
      blockFrom folded indent (t.addLine folded c) true line (column + 1) cs
    else some (t, ⟨c :: cs, line, column⟩)

/-- Passes over the empty lines before the text and the margin of its first line. With the breaks
this gives the widest margin among them, which is the indentation of the text. -/
def openingLines (widest : Nat) (breaks : List Char) (line column : Nat) :
    List Char → Option (Nat × List Char × Place)
  | [] => some (max widest column, breaks, ⟨[], line, column⟩)
  | c :: cs =>
    if c = ' ' then openingLines widest breaks line (column + 1) cs
    else if c = '\t' then none
    else if isBreak c then openingLines (max widest column) (c :: breaks) (line + 1) 0 cs
    else some (max widest column, breaks, ⟨c :: cs, line, column⟩)

/-- Reads a block scalar at its bar or angle bracket. The collection around it needs text to be
indented by `least`. -/
def blockScalar (least : Nat) (p : Place) : Option (List Char × Place) := do
  let folded := p.rest.head? = some '>'
  let (header, p) ← headerAt (p.forward 1)
  let p ← p.finishLine
  let (indent, breaks, p) ←
    match header.indent with
    | some n => some (least - 1 + n, [], p)
    | none =>
      (openingLines 0 [] p.line p.column p.rest).map fun (widest, breaks, p) =>
        (max (max widest least) 1, breaks, p)
  let (t, p) ← blockFrom folded indent { empty := breaks } false p.line p.column p.rest
  return (t.close header.chomp, p)

end SqlBuffer.Yaml
