import SqlBuffer.Text.Quoted
import SqlBuffer.Yaml.Plain

/-
  Writing strings as YAML.
  A string is written plain where it reads back as that string: not if it stands for a number, a
  truth value or nothing, and not if it holds punctuation. Then single quotes are used, for text
  with line feeds a block scalar, and double quotes for characters that do not show. Lines after
  the first one are indented by two spaces.
-/

namespace SqlBuffer.Yaml

def isShown (c : Char) : Bool :=
  let n := c.toNat
  n == 0x0a || (0x20 ≤ n && n ≤ 0x7e) || (0xa0 ≤ n && n != 0xfeff && n != 0xfffe && n != 0xffff)

/-- Punctuation at the start of a text, which is `c :: cs`. -/
def opensMarked (c : Char) (cs : List Char) : Bool :=
  let marks :=
    ['#', ',', '[', ']', '\x7b', '\x7d', '&', '*', '!', '|', '>', '\'', '"', '%', '@', '\x60']
  marks.contains c
    || ((c == '-' || c == '?' || c == ':') && blankNext cs)

/-- Punctuation inside a text, after the character `before`. -/
def holdsMarks (before : Char) : List Char → Bool
  | [] => false
  | c :: cs =>
    (c == ':' && blankNext cs) || (c == '#' && (isGap before || isBreak before))
      || holdsMarks c cs

def plainFits : List Char → Bool
  | [] => false
  | c :: cs =>
    let all := c :: cs
    !(['-', '-', '-'].isPrefixOf all || ['.', '.', '.'].isPrefixOf all)
      && !opensMarked c cs && !holdsMarks c cs && all.all isShown && !all.any isBreak
      && c != ' ' && all.getLast? != some ' '

/-- Two neighbours in the text satisfy the two predicates. -/
def hasPair (p q : Char → Bool) : List Char → Bool
  | a :: b :: cs => (p a && q b) || hasPair p q (b :: cs)
  | _ => false

def singleFits (cs : List Char) : Bool :=
  cs.all isShown && !hasPair (· == ' ') isBreak cs && !hasPair isBreak (· == ' ') cs

def blockFits (cs : List Char) : Bool :=
  cs.all isShown && !hasPair (· == ' ') isBreak cs && cs.getLast? != some ' '

def paddedHex (width n : Nat) : List Char :=
  let digits := (hexDigits n).map Char.toUpper
  List.replicate (width - digits.length) '0' ++ digits

def escapeChar (c : Char) : List Char :=
  if isShown c && !isBreak c && c != '"' && c != '\\' then [c]
  else
    let letter? : Option Char :=
      match c with
      | '\x00' => some '0'
      | '\x07' => some 'a'
      | '\x08' => some 'b'
      | '\t' => some 't'
      | '\n' => some 'n'
      | '\x0b' => some 'v'
      | '\x0c' => some 'f'
      | '\r' => some 'r'
      | '\x1b' => some 'e'
      | '"' => some '"'
      | '\\' => some '\\'
      | '\u0085' => some 'N'
      | '\u2028' => some 'L'
      | '\u2029' => some 'P'
      | _ => none
    match letter? with
    | some l => ['\\', l]
    | none =>
      if c.toNat ≤ 0xff then '\\' :: 'x' :: paddedHex 2 c.toNat
      else if c.toNat ≤ 0xffff then '\\' :: 'u' :: paddedHex 4 c.toNat
      else '\\' :: 'U' :: paddedHex 8 c.toNat

def doubleQuoted (cs : List Char) : List Char :=
  '"' :: cs.flatMap escapeChar ++ ['"']

/-- Text over several lines, on each of which the first character comes after two spaces. At the
start of a line there is `fresh` ground. -/
def indented (write : Char → List Char) (fresh : Bool) : List Char → List Char
  | [] => []
  | c :: cs =>
    if isBreak c then c :: indented write true cs
    else (if fresh then [' ', ' '] else []) ++ write c ++ indented write false cs

def singleQuoted (cs : List Char) : List Char :=
  let body := indented (fun c => if c = '\'' then ['\'', '\''] else [c]) false cs
  let margin := if cs.getLast?.any isBreak then [' ', ' '] else []
  '\'' :: body ++ margin ++ ['\'']

/-- The text as a block. The mark after the bar says how the text ends, and a number before it
that its first line starts with a space or is empty. -/
def literalBlock (cs : List Char) : List Char :=
  let hint := if cs.head?.any fun c => c == ' ' || isBreak c then ['2'] else []
  let chomp :=
    match cs.reverse with
    | last :: rest =>
      if !isBreak last then ['-'] else if rest.isEmpty || rest.head?.any isBreak then ['+'] else []
    | [] => ['-']
  '|' :: hint ++ chomp ++ '\n' :: indented (fun c => [c]) true cs

/-- A string as an entry of a block sequence, with the line break after it. -/
def entryText (cs : List Char) : List Char :=
  let line (text : List Char) := text ++ ['\n']
  if cs.contains '\n' then
    if blockFits cs then
      if cs.getLast?.any isBreak then literalBlock cs else line (literalBlock cs)
    else line (doubleQuoted cs)
  else if !isAmbiguous cs && plainFits cs then line cs
  else if singleFits cs then line (singleQuoted cs)
  else line (doubleQuoted cs)

end SqlBuffer.Yaml
