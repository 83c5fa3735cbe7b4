import SqlBuffer.Token.Kind

/-
  What bracket matching has to know of a language: which kinds of tokens pair up, and the fixed
  spelling of a kind.
  A language chooses these two tables and nothing else. What opens, what closes and which kind is
  the partner of another is told from the brackets in the same way for all languages; one with its
  own rule for any of these five questions is not covered.
-/

namespace SqlBuffer

structure Language where
  /-- The spelling of the kinds that have only one. -/
  lexeme? : TokenKind → Option String
  /-- The brackets, each as an opening and a closing kind. -/
  brackets : List (TokenKind × TokenKind)

namespace Language

def closing? (l : Language) (kind : TokenKind) : Option TokenKind :=
  (l.brackets.find? (·.1.sameAs kind)).map (·.2)

def opening? (l : Language) (kind : TokenKind) : Option TokenKind :=
  (l.brackets.find? (·.2.sameAs kind)).map (·.1)

def isOpening (l : Language) (kind : TokenKind) : Bool :=
  (l.closing? kind).isSome

def isClosing (l : Language) (kind : TokenKind) : Bool :=
  (l.opening? kind).isSome

def partner? (l : Language) (kind : TokenKind) : Option TokenKind :=
  (l.closing? kind).or (l.opening? kind)

/-- Punctuation and keywords are spelled in one way. -/
def sqlLexeme? : TokenKind → Option String
  | .punctuation p => some (String.singleton p.symbol)
  | .keyword k => some k
  | _ => none

/-- SQL, where parentheses and braces are brackets. -/
def sql : Language where
  lexeme? := sqlLexeme?
  brackets :=
    [(.punctuation .leftParen, .punctuation .rightParen),
     (.punctuation .leftBrace, .punctuation .rightBrace)]

end Language

end SqlBuffer
