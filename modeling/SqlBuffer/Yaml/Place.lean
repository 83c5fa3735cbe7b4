/-
  Places in a YAML text, and its kinds of characters.
  Lines end with a carriage return, a line feed, both of them, or one of the characters next line,
  line separator and paragraph separator. All but the separators read as a line feed, so a text is
  brought to line feeds first (`feedLines`); from then on a break is one character.
-/

namespace SqlBuffer.Yaml

/-- A place in a text: what follows it, and its line and column. -/
structure Place where
  rest : List Char
  line : Nat
  column : Nat

def Place.forward (p : Place) (n : Nat) : Place :=
  ⟨p.rest.drop n, p.line, p.column + n⟩

def Place.takeWhile (p : Place) (f : Char → Bool) : List Char × Place :=
  let taken := p.rest.takeWhile f
  (taken, p.forward taken.length)

def Place.dropWhile (p : Place) (f : Char → Bool) : Place :=
  (p.takeWhile f).2

def isGap (c : Char) : Bool :=
  c == ' ' || c == '\t'

def isBreak (c : Char) : Bool :=
  c == '\r' || c == '\n' || c == '\u0085' || c == '\u2028' || c == '\u2029'

/-- Characters of the names of anchors, tag handles and directives. -/
def isNameChar (c : Char) : Bool :=
  c.isAlphanum || c == '_' || c == '-'

/-- A blank, a line break or the end of the text comes next. -/
def blankNext : List Char → Bool
  | [] => true
  | c :: _ => isGap c || isBreak c

/-- Passes over the rest of a line on which only blanks and a comment may stand, with its
break. -/
def Place.finishLine (p : Place) : Option Place :=
  let p := p.dropWhile isGap
  let p := if p.rest.head? = some '#' then p.dropWhile (!isBreak ·) else p
  match p.rest with
  | [] => some p
  | c :: cs => if isBreak c then some ⟨cs, p.line + 1, 0⟩ else none

/-- Three dashes or three dots at the start of a line, which end and start documents. -/
def isMarker (mark : Char) (column : Nat) (cs : List Char) : Bool :=
  column == 0 && [mark, mark, mark].isPrefixOf cs && blankNext (cs.drop 3)

def atMarker (column : Nat) (cs : List Char) : Bool :=
  isMarker '-' column cs || isMarker '.' column cs

/-- All line breaks but the two separators as line feeds. -/
def feedLines : List Char → List Char
  | '\r' :: '\n' :: cs => '\n' :: feedLines cs
  | c :: cs => (if c = '\r' || c = '\u0085' then '\n' else c) :: feedLines cs
  | [] => []

/-- Characters that a text may hold at all. -/
def isTextChar (c : Char) : Bool :=
  let n := c.toNat
  n == 0x09 || n == 0x0a || n == 0x0d || (0x20 ≤ n && n ≤ 0x7e) || n == 0x85
    || (0xa0 ≤ n && n != 0xfffe && n != 0xffff)

def hexValue? (c : Char) : Option Nat :=
  if '0' ≤ c && c ≤ '9' then some (c.toNat - 48)
  else if 'a' ≤ c && c ≤ 'f' then some (c.toNat - 87)
  else if 'A' ≤ c && c ≤ 'F' then some (c.toNat - 55)
  else none

end SqlBuffer.Yaml
