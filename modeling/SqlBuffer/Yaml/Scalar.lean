import SqlBuffer.Yaml.Place

/-
  Plain and quoted scalars of YAML.
  A scalar may go over several lines. A single line feed between its words reads as a space, and
  each further break as itself; blanks around a break are left out (`Gap`). What is read already
  is kept with its last character first.
-/

namespace SqlBuffer.Yaml

/-- Blanks and line breaks between the words of a scalar, the last ones first. -/
structure Gap where
  /-- The blanks before the first break. -/
  blanks : List Char := []
  /-- The first break, if it is not escaped. -/
  first : Option Char := none
  /-- The breaks after the first one. -/
  more : List Char := []
  /-- A break has been passed. -/
  crossed : Bool := false

namespace Gap

def isEmpty (g : Gap) : Bool :=
  g.blanks.isEmpty && !g.crossed

/-- A blank counts only before the first break. -/
def addBlank (g : Gap) (c : Char) : Gap :=
  if g.crossed then g else { g with blanks := c :: g.blanks }

def addBreak (g : Gap) (c : Char) : Gap :=
  if g.crossed then { g with more := c :: g.more } else { first := some c, crossed := true }

def text (g : Gap) : List Char :=
  match g.first with
  | some c => if c ≠ '\n' then g.more ++ [c] else if g.more.isEmpty then [' '] else g.more
  | none => if g.crossed then g.more else g.blanks

/-- The gap that starts with an escaped break. -/
def escaped : Gap :=
  { crossed := true }

end Gap

def isFlowMark (c : Char) : Bool :=
  c == ',' || c == '[' || c == ']' || c == '\x7b' || c == '\x7d'

/-- Characters that stand for something else at the start of a scalar. -/
def indicators : List Char :=
  ['-', '?', ':', ',', '[', ']', '\x7b', '\x7d', '#', '&', '*', '!', '|', '>', '\'', '"', '%', '@',
   '\x60']

def startsPlain (flow : Bool) : List Char → Bool
  | [] => false
  | c :: cs =>
    if c = '-' then !blankNext cs
    else if c = '?' || c = ':' then !flow && !blankNext cs
    else !blankNext (c :: cs) && !indicators.contains c

/-- Reads a plain scalar, of which `text` and then `gap` are read already. Outside of flow
collections its lines start at column `least` or later. The flag says whether the scalar is
followed by a line break. -/
def plainFrom (flow : Bool) (least : Nat) (text : List Char) (gap : Gap) (line column : Nat) :
    List Char → Option (List Char × Bool × Place)
  | [] => some (text.reverse, gap.crossed, ⟨[], line, column⟩)
  | c :: cs =>
    let stop := some (text.reverse, gap.crossed, Place.mk (c :: cs) line column)
    if isBreak c then plainFrom flow least text (gap.addBreak c) (line + 1) 0 cs
    else if isGap c then
      if c = '\t' && gap.crossed && column < least then none
      else plainFrom flow least text (gap.addBlank c) line (column + 1) cs
    else if !gap.isEmpty && (c = '#' || (!flow && column < least) || atMarker column (c :: cs)) then
      stop
    else if (c = ':' && blankNext cs) || (flow && isFlowMark c) then stop
    else if flow && c = ':' && cs.head?.any (fun d => isFlowMark d || d = '?') then none
    else plainFrom flow least (c :: (gap.text ++ text)) {} line (column + 1) cs

/-- Reads text in single quotes, from after the opening quote on. Two quotes stand for one. -/
def singleFrom (text : List Char) (gap : Gap) (line column : Nat) :
    List Char → Option (List Char × Place)
  | [] => none
  | '\'' :: '\'' :: cs => singleFrom ('\'' :: (gap.text ++ text)) {} line (column + 2) cs
  | c :: cs =>
    if c = '\'' then some ((gap.text ++ text).reverse, ⟨cs, line, column + 1⟩)
    else if isBreak c then singleFrom text (gap.addBreak c) (line + 1) 0 cs
    else if isGap c then singleFrom text (gap.addBlank c) line (column + 1) cs
    else if atMarker column (c :: cs) then none
    else singleFrom (c :: (gap.text ++ text)) {} line (column + 1) cs

def charOfHex? (digits : List Char) : Option Char := do
  let values ← digits.mapM hexValue?
  let n := values.foldl (16 * · + ·) 0
  if h : n.isValidChar then some (Char.ofNatAux n h) else none

/-- The character that an escape of one letter stands for. -/
def escaped? : Char → Option Char
  | '0' => some '\x00'
  | 'a' => some '\x07'
  | 'b' => some '\x08'
  | 't' => some '\t'
  | '\t' => some '\t'
  | 'n' => some '\n'
  | 'v' => some '\x0b'
  | 'f' => some '\x0c'
  | 'r' => some '\r'
  | 'e' => some '\x1b'
  | ' ' => some ' '
  | '"' => some '"'
  | '/' => some '/'
  | '\\' => some '\\'
  | 'N' => some '\u0085'
  | '_' => some '\u00a0'
  | 'L' => some '\u2028'
  | 'P' => some '\u2029'
  | _ => none

def doubleFrom (text : List Char) (gap : Gap) (line column : Nat) :
    List Char → Option (List Char × Place)
  | [] => none
  | '\\' :: 'x' :: a :: b :: cs => do
    let c ← charOfHex? [a, b]
    doubleFrom (c :: (gap.text ++ text)) {} line (column + 4) cs
  | '\\' :: 'u' :: a :: b :: c :: d :: cs => do
    let c ← charOfHex? [a, b, c, d]
    doubleFrom (c :: (gap.text ++ text)) {} line (column + 6) cs
  | '\\' :: 'U' :: a :: b :: c :: d :: e :: f :: g :: h :: cs => do
    let c ← charOfHex? [a, b, c, d, e, f, g, h]
    doubleFrom (c :: (gap.text ++ text)) {} line (column + 10) cs
  | '\\' :: c :: cs =>
    if isBreak c then doubleFrom (gap.text ++ text) .escaped (line + 1) 0 cs
    else do
      let c ← escaped? c
      doubleFrom (c :: (gap.text ++ text)) {} line (column + 2) cs
  | c :: cs =>
    if c = '"' then some ((gap.text ++ text).reverse, ⟨cs, line, column + 1⟩)
    else if isBreak c then doubleFrom text (gap.addBreak c) (line + 1) 0 cs
    else if isGap c then doubleFrom text (gap.addBlank c) line (column + 1) cs
    else if c = '\\' || atMarker column (c :: cs) then none
    else doubleFrom (c :: (gap.text ++ text)) {} line (column + 1) cs

end SqlBuffer.Yaml
