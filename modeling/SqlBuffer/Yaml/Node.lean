import SqlBuffer.Yaml.Lexeme

/-
  The value that a YAML text stands for.
  A text holds at most one document, which is a scalar, a sequence or a mapping. A node may carry
  an anchor, and an alias stands for the node with its anchor. Anchors are numbered by how many
  names are known before them; an alias takes the last number of its name, and of several nodes
  with one number the last one holds.
-/

namespace SqlBuffer.Yaml

inductive Node
  | scalar (text : List Char) (style : Style) (tag : Option Tag)
  | sequence (items : List Node)
  | mapping (entries : List (Node × Node))
  /-- A node with an anchor. -/
  | anchored (number : Nat) (node : Node)
  | alias (number : Nat)

/-- What stands where a value is left out. -/
def Node.absent : Node :=
  .scalar [] .plain none

/-- What handles of tags stand for, where no directive says otherwise. -/
def defaultHandles : List (List Char × Tag) :=
  [(['!'], tagOf ['!']), (['!', '!'], tagOf "tag:yaml.org,2002:".toList)]

/-- The whole tag. Its handle has to be known. -/
def TagText.resolve? (t : TagText) (handles : List (List Char × Tag)) : Option Tag :=
  if t.handle = [] then some t.rest else (handles.lookup t.handle).map (· ++ t.rest)

structure Properties where
  anchor : Option (List Char) := none
  tag : Option TagText := none

def Properties.isEmpty (p : Properties) : Bool :=
  p.anchor.isNone && p.tag.isNone

def properties : List Lexeme → Properties × List Lexeme
  | .anchor a :: .tag t :: rest => (⟨some a, some t⟩, rest)
  | .tag t :: .anchor a :: rest => (⟨some a, some t⟩, rest)
  | .anchor a :: rest => (⟨some a, none⟩, rest)
  | .tag t :: rest => (⟨none, some t⟩, rest)
  | rest => ({}, rest)

/-- A document that is read up to a lexeme. -/
structure Reading where
  rest : List Lexeme
  handles : List (List Char × Tag)
  /-- The names of anchors, with their last numbers. -/
  anchors : List (List Char × Nat) := []

namespace Reading

def advance (r : Reading) : Reading :=
  { r with rest := r.rest.tail }

def isAt (r : Reading) (f : Lexeme → Bool) : Bool :=
  r.rest.head?.any f

/-- Gives a number to an anchor. -/
def bind (r : Reading) (name : List Char) : Nat × Reading :=
  let n := r.anchors.length
  (n, { r with anchors := (name, n) :: r.anchors.filter (·.1 ≠ name) })

end Reading

/-- Nothing stands before these inside a block sequence. -/
def endsItem : Lexeme → Bool
  | .dash | .blockEnd => true
  | _ => false

def endsEntry : Lexeme → Bool
  | .key | .value | .blockEnd => true
  | _ => false

/-- Nothing stands before these in a block sequence that has the column of a mapping. -/
def endsLevelItem (l : Lexeme) : Bool :=
  endsItem l || endsEntry l

def endsFlowItem : Lexeme → Bool
  | .comma | .flowSequenceEnd => true
  | _ => false

def endsFlowEntry : Lexeme → Bool
  | .comma | .flowMappingEnd => true
  | _ => false

def isValue : Lexeme → Bool
  | .value => true
  | _ => false

mutual

/-- Reads a node with its properties. Block collections can only start in a block, and a sequence
in the column of a mapping only where it is a key or value of it. -/
def nodeAt (fuel : Nat) (block level : Bool) (r : Reading) : Option (Node × Reading) :=
  match fuel with
  | 0 => none
  | fuel + 1 =>
    match r.rest with
    | .alias name :: rest => do
      return (.alias (← r.anchors.lookup name), { r with rest })
    | _ => do
      let (found, rest) := properties r.rest
      let tag ←
        match found.tag with
        | some t => (t.resolve? r.handles).map some
        | none => some none
      let r := { r with rest }
      match found.anchor with
      | some name =>
        let (number, r) := r.bind name
        let (node, r) ← contentAt fuel block level true tag r
        return (.anchored number node, r)
      | none => contentAt fuel block level tag.isSome tag r

/-- Reads a node after its properties. If there are some, nothing need follow them. -/
def contentAt (fuel : Nat) (block level marked : Bool) (tag : Option Tag) (r : Reading) :
    Option (Node × Reading) :=
  match fuel with
  | 0 => none
  | fuel + 1 =>
    match r.rest with
    | .scalar text style :: rest =>
      let tag := if tag = some (tagOf ['!']) then none else tag
      some (.scalar text style tag, { r with rest })
    | .flowSequence :: rest => flowItems fuel true [] { r with rest }
    | .flowMapping :: rest => flowEntries fuel true [] { r with rest }
    | l :: rest =>
      match l, block, level with
      | .blockSequence, true, _ => blockItems fuel [] { r with rest }
      | .blockMapping, true, _ => blockEntries fuel [] { r with rest }
      | .dash, _, true => levelItems fuel [] r
      | _, _, _ => if marked then some (.scalar [] .plain tag, r) else none
    | [] => if marked then some (.scalar [] .plain tag, r) else none

def blockNode (fuel : Nat) (level : Bool) (ends : Lexeme → Bool) (r : Reading) :
    Option (Node × Reading) :=
  match fuel with
  | 0 => none
  | fuel + 1 => if r.isAt ends then some (.absent, r) else nodeAt fuel true level r

def flowNode (fuel : Nat) (ends : Lexeme → Bool) (r : Reading) : Option (Node × Reading) :=
  match fuel with
  | 0 => none
  | fuel + 1 => if r.isAt ends then some (.absent, r) else nodeAt fuel false false r

def blockItems (fuel : Nat) (items : List Node) (r : Reading) : Option (Node × Reading) :=
  match fuel with
  | 0 => none
  | fuel + 1 =>
    match r.rest with
    | .dash :: rest => do
      let (item, r) ← blockNode fuel false endsItem { r with rest }
      blockItems fuel (item :: items) r
    | .blockEnd :: rest => some (.sequence items.reverse, { r with rest })
    | _ => none

/-- Reads the items of a block sequence in the column of a mapping, which ends without a lexeme of
its own. -/
def levelItems (fuel : Nat) (items : List Node) (r : Reading) : Option (Node × Reading) :=
  match fuel with
  | 0 => none
  | fuel + 1 =>
    match r.rest with
    | .dash :: rest => do
      let (item, r) ← blockNode fuel false endsLevelItem { r with rest }
      levelItems fuel (item :: items) r
    | _ => some (.sequence items.reverse, r)

def blockEntries (fuel : Nat) (entries : List (Node × Node)) (r : Reading) :
    Option (Node × Reading) :=
  match fuel with
  | 0 => none
  | fuel + 1 =>
    match r.rest with
    | .key :: rest => do
      let (key, r) ← blockNode fuel true endsEntry { r with rest }
      let (value, r) ←
        if r.isAt isValue then blockNode fuel true endsEntry r.advance else some (.absent, r)
      blockEntries fuel ((key, value) :: entries) r
    | .blockEnd :: rest => some (.mapping entries.reverse, { r with rest })
    | _ => none

/-- Reads the items of a flow sequence after the given ones. A pair may stand as an item; where its
key is left out, the lexeme after the mark of the key goes with it. -/
def flowItems (fuel : Nat) (first : Bool) (items : List Node) (r : Reading) :
    Option (Node × Reading) :=
  match fuel with
  | 0 => none
  | fuel + 1 =>
    match first, r.rest with
    | _, .flowSequenceEnd :: rest => some (.sequence items.reverse, { r with rest })
    | false, .comma :: rest => flowItem fuel items { r with rest }
    | false, _ => none
    | true, _ => flowItem fuel items r

def flowItem (fuel : Nat) (items : List Node) (r : Reading) : Option (Node × Reading) :=
  match fuel with
  | 0 => none
  | fuel + 1 =>
    match r.rest with
    | .flowSequenceEnd :: rest => some (.sequence items.reverse, { r with rest })
    | .key :: rest => do
      let r := { r with rest }
      let (key, r) ←
        if r.isAt fun l => isValue l || endsFlowItem l then some (.absent, r.advance)
        else nodeAt fuel false false r
      let (value, r) ←
        if r.isAt isValue then flowNode fuel endsFlowItem r.advance else some (.absent, r)
      flowItems fuel false (.mapping [(key, value)] :: items) r
    | _ => do
      let (item, r) ← nodeAt fuel false false r
      flowItems fuel false (item :: items) r

def flowEntries (fuel : Nat) (first : Bool) (entries : List (Node × Node)) (r : Reading) :
    Option (Node × Reading) :=
  match fuel with
  | 0 => none
  | fuel + 1 =>
    match first, r.rest with
    | _, .flowMappingEnd :: rest => some (.mapping entries.reverse, { r with rest })
    | false, .comma :: rest => flowEntry fuel entries { r with rest }
    | false, _ => none
    | true, _ => flowEntry fuel entries r

/-- Reads an entry of a flow mapping, and the ones after it. A node alone is a key. -/
def flowEntry (fuel : Nat) (entries : List (Node × Node)) (r : Reading) :
    Option (Node × Reading) :=
  match fuel with
  | 0 => none
  | fuel + 1 =>
    match r.rest with
    | .flowMappingEnd :: rest => some (.mapping entries.reverse, { r with rest })
    | .key :: rest => do
      let (key, r) ← flowNode fuel (fun l => isValue l || endsFlowEntry l) { r with rest }
      let (value, r) ←
        if r.isAt isValue then flowNode fuel endsFlowEntry r.advance else some (.absent, r)
      flowEntries fuel false ((key, value) :: entries) r
    | _ => do
      let (key, r) ← nodeAt fuel false false r
      flowEntries fuel false ((key, .absent) :: entries) r

end

/-- The handles that directives name, and the lexemes after them. There is at most one version,
which is 1.1 or 1.2, and every handle is named once. -/
def directives (version : Bool) (handles : List (List Char × Tag)) :
    List Lexeme → Option (List (List Char × Tag) × List Lexeme)
  | .directive (.version major minor) :: rest =>
    if version || major ≠ 1 || (minor ≠ 1 && minor ≠ 2) then none
    else directives true handles rest
  | .directive (.handle name text) :: rest =>
    if (handles.lookup name).isSome then none else directives version ((name, text) :: handles) rest
  | rest => some (handles, rest)

def endsDocument : Lexeme → Bool
  | .directive _ | .documentStart | .documentEnd => true
  | _ => false

def isDocumentEnd : Lexeme → Bool
  | .documentEnd => true
  | _ => false

/-- Reads the node of a document. Directives need a mark at the start of the document, after which
its node may be left out. -/
def documentNode (lexemes : List Lexeme) : Option (Node × Reading) := do
  let fuel := 4 * lexemes.length + 4
  let (named, rest) ← directives false [] lexemes
  let handles := named ++ defaultHandles
  match rest with
  | .documentStart :: rest =>
    if rest.head?.all endsDocument then return (.absent, { rest, handles })
    nodeAt fuel true false { rest, handles }
  | rest =>
    guard (rest.length = lexemes.length)
    nodeAt fuel true false { rest, handles }

mutual

/-- The nodes with anchors, in the order in which they start. -/
def Node.anchors : Node → List (Nat × Node)
  | .anchored n node => (n, node) :: node.anchors
  | .sequence items => anchorsOfItems items
  | .mapping entries => anchorsOfEntries entries
  | .scalar .. | .alias _ => []

def anchorsOfItems : List Node → List (Nat × Node)
  | [] => []
  | item :: items => item.anchors ++ anchorsOfItems items

def anchorsOfEntries : List (Node × Node) → List (Nat × Node)
  | [] => []
  | entry :: entries => anchorsOfEntry entry ++ anchorsOfEntries entries

def anchorsOfEntry : Node × Node → List (Nat × Node)
  | (key, value) => key.anchors ++ value.anchors

end

/-- A node with the nodes that its aliases stand for. -/
structure Document where
  root : Node
  anchors : List (Nat × Node)

/-- The node itself, without its anchor and in place of its alias. -/
def Document.node (d : Document) : Node → Node
  | .anchored _ node => node
  | .alias n => ((d.anchors.reverse.lookup n).getD .absent)
  | node => node

/-- Reads a text with at most one document. The answer is `none` for a text that is no YAML; a
text without a document counts as one with its node left out. -/
def read? (text : List Char) : Option Document := do
  let lexemes ← lexemes? text
  if lexemes.isEmpty then return ⟨.absent, []⟩
  let (root, r) ← documentNode lexemes
  guard (r.rest.all isDocumentEnd)
  return ⟨root, root.anchors⟩

end SqlBuffer.Yaml
