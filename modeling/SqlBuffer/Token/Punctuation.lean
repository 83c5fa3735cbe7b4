/-
  Punctuation: the characters that are tokens by themselves.
-/

namespace SqlBuffer

/-- A character that is a token by itself. -/
inductive Punctuation
  | dot
  | doubleQuote
  | semicolon
  | comma
  | plus
  | minus
  | star
  | slash
  | equals
  | greaterThan
  | lessThan
  | leftParen
  | rightParen
  | percent
  | hash
  | ampersand
  | underscore
  | caret
  | tilde
  | colon
  | pipe
  | backTick
  | questionMark
  | bang
  | leftBrace
  | rightBrace
deriving DecidableEq, Repr

namespace Punctuation

def all : List Punctuation :=
  [.dot, .doubleQuote, .semicolon, .comma, .plus, .minus, .star, .slash, .equals, .greaterThan,
   .lessThan, .leftParen, .rightParen, .percent, .hash, .ampersand, .underscore, .caret, .tilde,
   .colon, .pipe, .backTick, .questionMark, .bang, .leftBrace, .rightBrace]

def symbol : Punctuation → Char
  | .dot => '.'
  | .doubleQuote => '"'
  | .semicolon => ';'
  | .comma => ','
  | .plus => '+'
  | .minus => '-'
  | .star => '*'
  | .slash => '/'
  | .equals => '='
  | .greaterThan => '>'
  | .lessThan => '<'
  | .leftParen => '('
  | .rightParen => ')'
  | .percent => '%'
  | .hash => '#'
  | .ampersand => '&'
  | .underscore => '_'
  | .caret => '^'
  | .tilde => '~'
  | .colon => ':'
  | .pipe => '|'
  | .backTick => '\x60'
  | .questionMark => '?'
  | .bang => '!'
  | .leftBrace => '\x7b'
  | .rightBrace => '\x7d'

def ofChar? (c : Char) : Option Punctuation :=
  all.find? (·.symbol == c)

def name : Punctuation → String
  | .dot => "dot"
  | .doubleQuote => "double_quote"
  | .semicolon => "semicolon"
  | .comma => "comma"
  | .plus => "plus"
  | .minus => "minus"
  | .star => "star"
  | .slash => "slash"
  | .equals => "equals"
  | .greaterThan => "greater_than"
  | .lessThan => "less_than"
  | .leftParen => "lparen"
  | .rightParen => "rparen"
  | .percent => "percent"
  | .hash => "hash"
  | .ampersand => "ampersand"
  | .underscore => "underscore"
  | .caret => "caret"
  | .tilde => "tilde"
  | .colon => "colon"
  | .pipe => "pipe"
  | .backTick => "back_tick"
  | .questionMark => "question_mark"
  | .bang => "bang"
  | .leftBrace => "lbrace"
  | .rightBrace => "rbrace"

/-- The name that records of tokens use; it differs from `name` for brackets. -/
def recordName : Punctuation → String
  | .leftParen => "l_paren"
  | .rightParen => "r_paren"
  | .leftBrace => "l_brace"
  | .rightBrace => "r_brace"
  | p => p.name

end Punctuation

end SqlBuffer
