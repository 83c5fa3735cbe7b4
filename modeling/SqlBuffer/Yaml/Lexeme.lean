import SqlBuffer.Text.Utf8
import SqlBuffer.Yaml.Block
import SqlBuffer.Yaml.Scalar
import SqlBuffer.Yaml.Tag

/-
  The lexemes of a YAML text.
  Where block collections start and end is not written but follows from columns, and a key need
  not be marked as one: what it is shows at the colon after it. So every place where a key may
  start is kept (`KeyStart`), one for each flow collection that is open and one for the blocks
  around them, and the lexemes for the key are put in when its colon is met.
-/

namespace SqlBuffer.Yaml

inductive Style
  | plain
  | quoted
  | literal
  | folded
deriving DecidableEq, Repr

inductive Lexeme
  | directive (d : Directive)
  | documentStart
  | documentEnd
  | blockSequence
  | blockMapping
  /-- The end of a block collection. -/
  | blockEnd
  | flowSequence
  | flowSequenceEnd
  | flowMapping
  | flowMappingEnd
  | dash
  | comma
  | key
  | value
  | alias (name : List Char)
  | anchor (name : List Char)
  | tag (text : TagText)
  | scalar (text : List Char) (style : Style)

/-- A place where a key may have started. -/
structure KeyStart where
  /-- How many lexemes are before it. -/
  number : Nat
  line : Nat
  column : Nat
  /-- How far it is into its line (`Lexing.bytes`). -/
  bytes : Nat
  /-- Nothing but a key can stand there. -/
  required : Bool

/-- A text that is read up to a place. -/
structure Lexing where
  place : Place
  /-- How many bytes of its line are before the place, from where the lexemes of the line start. -/
  bytes : Nat := 0
  /-- The lexemes read, the last one first, and their number. -/
  lexemes : List Lexeme := []
  count : Nat := 0
  /-- The columns of the open block collections, the innermost first. -/
  columns : List Nat := []
  /-- Where a key may have started in the innermost collection. -/
  key : Option KeyStart := none
  /-- The same for the collections around it, one for each open flow collection. -/
  outer : List (Option KeyStart) := []
  /-- A key may start here. -/
  keyAllowed : Bool := true

namespace Lexing

def inFlow (s : Lexing) : Bool :=
  !s.outer.isEmpty

/-- The least column in which something inside the innermost block can stand. -/
def least (s : Lexing) : Nat :=
  match s.columns with
  | [] => 0
  | column :: _ => column + 1

/-- Goes on to a later place. Bytes are counted anew on every line. -/
def moveTo (s : Lexing) (p : Place) : Lexing :=
  let passed := s.place.rest.take (p.column - s.place.column)
  let bytes := if p.line = s.place.line then s.bytes + utf8Length passed else 0
  { s with place := p, bytes }

def emit (s : Lexing) (l : Lexeme) (p : Place) : Lexing :=
  { s.moveTo p with lexemes := l :: s.lexemes, count := s.count + 1 }

def insert (s : Lexing) (number : Nat) (l : Lexeme) : Lexing :=
  let (later, earlier) := s.lexemes.splitAt (s.count - number)
  { s with lexemes := later ++ l :: earlier, count := s.count + 1 }

def dropKey (s : Lexing) : Option Lexing :=
  if s.key.any (·.required) then none else some { s with key := none }

/-- Notes that a key may start here. It has to where the column is that of the block. -/
def noteKey (s : Lexing) : Option Lexing :=
  if s.keyAllowed then do
    let s ← s.dropKey
    let ⟨_, line, column⟩ := s.place
    let required := !s.inFlow && s.least == column + 1
    return { s with key := some ⟨s.count, line, column, s.bytes, required⟩ }
  else some s

/-- A key ends on the line on which it starts, and within 1024 bytes. -/
def isOver (s : Lexing) (k : KeyStart) : Bool :=
  k.line < s.place.line || k.bytes + 1024 < s.bytes

/-- Gives up all keys that would be over. -/
def dropOver (s : Lexing) : Option Lexing :=
  let current (k : Option KeyStart) := k.filter (!s.isOver ·)
  if (s.key :: s.outer).any fun k => k.any fun k => k.required && s.isOver k then none
  else some { s with key := current s.key, outer := s.outer.map current }

/-- Starts a block collection in a column if it is further right than the innermost one. -/
def openBlock (s : Lexing) (l : Lexeme) (number column : Nat) : Lexing :=
  if s.inFlow || column < s.least then s
  else { s.insert number l with columns := column :: s.columns }

/-- Ends the block collections in column `least` and to the right of it. -/
def closeBlocks (s : Lexing) (least : Nat) : Lexing :=
  if s.inFlow then s
  else
    let (closed, columns) := s.columns.span (least ≤ ·)
    let ends := List.replicate closed.length Lexeme.blockEnd
    { s with columns, lexemes := ends ++ s.lexemes, count := s.count + ends.length }

/-- Passes over blanks, line breaks and comments. A byte order mark may start a line. -/
def skipFrom (flow tabs comment : Bool) (line column : Nat) : List Char → Place
  | [] => ⟨[], line, column⟩
  | c :: cs =>
    if isBreak c then skipFrom flow flow false (line + 1) 0 cs
    else if comment || c = ' ' || (c = '\t' && tabs) || (c = '\ufeff' && column = 0) then
      skipFrom flow tabs comment line (column + 1) cs
    else if c = '#' then skipFrom flow tabs true line (column + 1) cs
    else ⟨c :: cs, line, column⟩

/-- Goes on to the next lexeme. Tabs do not indent: they are not passed over where a key may start
in a block. On a new line it may. -/
def skip (s : Lexing) : Lexing :=
  let p := skipFrom s.inFlow (s.inFlow || !s.keyAllowed) false s.place.line s.place.column
    s.place.rest
  { s.moveTo p with keyAllowed := s.keyAllowed || (!s.inFlow && s.place.line < p.line) }

/-- A lexeme of the document as a whole, which ends all blocks. -/
def outermost (s : Lexing) (l : Lexeme) (p : Place) : Option Lexing := do
  let s ← (s.closeBlocks 0).dropKey
  return { s with keyAllowed := false }.emit l p

def openFlow (s : Lexing) (l : Lexeme) : Option Lexing := do
  let s ← s.noteKey
  return { s with key := none, outer := s.key :: s.outer, keyAllowed := true }.emit l
    (s.place.forward 1)

def closeFlow (s : Lexing) (l : Lexeme) : Option Lexing := do
  let s ← s.dropKey
  let s :=
    match s.outer with
    | key :: outer => { s with key, outer }
    | [] => s
  return { s with keyAllowed := false }.emit l (s.place.forward 1)

def comma (s : Lexing) : Option Lexing := do
  let s ← s.dropKey
  return { s with keyAllowed := true }.emit .comma (s.place.forward 1)

/-- A mark that may start a block collection, and stands where a key may start. -/
def blockMark (s : Lexing) (collection l : Lexeme) (keyAllowed : Bool) : Option Lexing := do
  guard (s.inFlow || s.keyAllowed)
  let s ← (s.openBlock collection s.count s.place.column).dropKey
  return { s with keyAllowed }.emit l (s.place.forward 1)

/-- A colon. If a key has started, this is where it ends. -/
def colon (s : Lexing) : Option Lexing :=
  match s.key with
  | some k =>
    let s := (s.insert k.number .key).openBlock .blockMapping k.number k.column
    some ({ s with key := none, keyAllowed := false }.emit .value (s.place.forward 1))
  | none => s.blockMark .blockMapping .value !s.inFlow

/-- An anchor or an alias after its sign. -/
def reference (s : Lexing) (l : List Char → Lexeme) : Option Lexing := do
  let s ← s.noteKey
  let (name, p) := (s.place.forward 1).takeWhile isNameChar
  let ends := ['?', ':', ',', ']', '\x7d', '%', '@', '\x60']
  guard (name ≠ [] && (blankNext p.rest || p.rest.head?.any ends.contains))
  return { s with keyAllowed := false }.emit (l name) p

def tag (s : Lexing) : Option Lexing := do
  let s ← s.noteKey
  let (text, p) ← tagAt s.place
  guard (blankNext p.rest || (s.inFlow && p.rest.head? = some ','))
  return { s with keyAllowed := false }.emit (.tag text) p

def block (s : Lexing) (style : Style) : Option Lexing := do
  let s ← s.dropKey
  let (text, p) ← blockScalar s.least s.place
  return { s with keyAllowed := true }.emit (.scalar text style) p

/-- A scalar in quotes, read by `f` from after the opening one on. -/
def quoted (s : Lexing)
    (f : List Char → Gap → Nat → Nat → List Char → Option (List Char × Place)) :
    Option Lexing := do
  let s ← s.noteKey
  let start := s.place.forward 1
  let (text, p) ← f [] {} start.line start.column start.rest
  return { s with keyAllowed := false }.emit (.scalar text .quoted) p

def plain (s : Lexing) : Option Lexing := do
  let s ← s.noteKey
  let ⟨rest, line, column⟩ := s.place
  let (text, crossed, p) ← plainFrom s.inFlow s.least [] {} line column rest
  return { s with keyAllowed := crossed }.emit (.scalar text .plain) p

def next (s : Lexing) : Option Lexing :=
  let p := s.place
  let blank := blankNext (p.rest.drop 1)
  if p.column = 0 && p.rest.head? = some '%' then do
    let (d, q) ← directiveAt p
    s.outermost (.directive d) q
  else if isMarker '-' p.column p.rest then s.outermost .documentStart (p.forward 3)
  else if isMarker '.' p.column p.rest then s.outermost .documentEnd (p.forward 3)
  else
    match p.rest with
    | '[' :: _ => s.openFlow .flowSequence
    | '\x7b' :: _ => s.openFlow .flowMapping
    | ']' :: _ => s.closeFlow .flowSequenceEnd
    | '\x7d' :: _ => s.closeFlow .flowMappingEnd
    | ',' :: _ => s.comma
    | '*' :: _ => s.reference .alias
    | '&' :: _ => s.reference .anchor
    | '!' :: _ => s.tag
    | '\'' :: _ => s.quoted singleFrom
    | '"' :: _ => s.quoted doubleFrom
    | c :: _ =>
      if c = '-' && blank then s.blockMark .blockSequence .dash true
      else if c = '?' && (s.inFlow || blank) then s.blockMark .blockMapping .key !s.inFlow
      else if c = ':' && (s.inFlow || blank) then s.colon
      else if c = '|' && !s.inFlow then s.block .literal
      else if c = '>' && !s.inFlow then s.block .folded
      else if startsPlain s.inFlow p.rest then s.plain
      else none
    | [] => none

/-- Reads lexemes up to the end of the text, with at most `fuel` steps. -/
def toEnd (fuel : Nat) (s : Lexing) : Option (List Lexeme) :=
  match fuel with
  | 0 => none
  | fuel + 1 => do
    let s ← s.skip.dropOver
    let s := s.closeBlocks (s.place.column + 1)
    if s.place.rest = [] then return (← (s.closeBlocks 0).dropKey).lexemes.reverse
    toEnd fuel (← s.next)

end Lexing

/-- The lexemes of a text, if it has some. Every lexeme takes a character at least. -/
def lexemes? (text : List Char) : Option (List Lexeme) := do
  guard (text.all isTextChar)
  Lexing.toEnd (text.length + 1) { place := ⟨feedLines text, 0, 0⟩ }

end SqlBuffer.Yaml
