import SqlBuffer.Text.Case
import SqlBuffer.Text.Quoted
import SqlBuffer.Token.Punctuation

/-
  Kinds of tokens.
  Two kinds agree (`sameAs`) when they are the same but for the letter case of identifiers and
  keywords; strings and numbers have to be the same to the character.
-/

namespace SqlBuffer

/-- What a token is, with its value where it has one. -/
inductive TokenKind
  /-- The end of the scanned text. -/
  | endOfText
  | comment
  /-- A backslash command, which takes the rest of its line. -/
  | metaCommand
  | newLine
  | punctuation (p : Punctuation)
  /-- The contents of a string, without its quotes. -/
  | string (value : String)
  | identifier (value : String)
  | atIdentifier (value : String)
  | number (value : String)
  /-- The spelling that the keyword table gives. -/
  | keyword (value : String)
deriving DecidableEq, Repr

inductive Colour
  | comment
  | string
  | identifier
  | number
  | keyword
  /-- The colour of plain text. -/
  | text
deriving DecidableEq, Repr

def Colour.name : Colour → String
  | .comment => "comment"
  | .string => "string"
  | .identifier => "identifier"
  | .number => "number"
  | .keyword => "keyword"
  | .text => "text"

/-- The same word but for letter case. -/
def sameWord (a b : String) : Bool :=
  foldCase a.toList == foldCase b.toList

namespace TokenKind

/-- The same kind, without regard to the letter case of identifiers and keywords. -/
def sameAs : TokenKind → TokenKind → Bool
  | identifier a, identifier b => sameWord a b
  | atIdentifier a, atIdentifier b => sameWord a b
  | keyword a, keyword b => sameWord a b
  | a, b => a == b

def name : TokenKind → String
  | endOfText => "eof"
  | comment => "comment"
  | metaCommand => "meta_command"
  | newLine => "new_line"
  | punctuation p => p.name
  | string _ => "string"
  | identifier _ => "identifier"
  | atIdentifier _ => "identifier"
  | number _ => "number"
  | keyword _ => "keyword"

/-- The value of the token, for the kinds that have a text as value. -/
def text? : TokenKind → Option String
  | string v | identifier v | atIdentifier v | number v | keyword v => some v
  | _ => none

def punctuation? : TokenKind → Option Punctuation
  | punctuation p => some p
  | _ => none

def isIdentifier : TokenKind → Bool
  | identifier _ => true
  | _ => false

def isAtIdentifier : TokenKind → Bool
  | atIdentifier _ => true
  | _ => false

def isString : TokenKind → Bool
  | string _ => true
  | _ => false

def isNumber : TokenKind → Bool
  | number _ => true
  | _ => false

def isKeyword : TokenKind → Bool
  | keyword _ => true
  | _ => false

def colour : TokenKind → Colour
  | comment => .comment
  | string _ => .string
  | identifier _ => .identifier
  | atIdentifier _ => .identifier
  | number _ => .number
  | keyword _ => .keyword
  | _ => .text

def display : TokenKind → String
  | endOfText => "eof"
  | comment => "comment"
  | metaCommand => "metacommand"
  | newLine => "\n"
  | punctuation p => String.singleton p.symbol
  | string v => v
  | identifier v => "id:" ++ v
  | atIdentifier v => "@id:" ++ v
  | number v => v
  | keyword v => "kw:" ++ v

def recordName : TokenKind → String
  | endOfText => "eof"
  | comment => "comment"
  | metaCommand => "meta_command"
  | newLine => "new_line"
  | punctuation _ => "punctuation"
  | string _ => "string_literal"
  | identifier _ => "identifier"
  | atIdentifier _ => "at_identifier"
  | number _ => "number_literal"
  | keyword _ => "keyword"

def recordValue? : TokenKind → Option String
  | punctuation p => some p.recordName
  | kind => kind.text?

/-- The kind as a JSON object; a kind without a value has no such member. -/
def toJson (kind : TokenKind) : String :=
  let value :=
    match kind.recordValue? with
    | some v => ",\"value\":" ++ jsonString v
    | none => ""
  "\x7b\"kind\":" ++ jsonString kind.recordName ++ value ++ "\x7d"

end TokenKind

end SqlBuffer
