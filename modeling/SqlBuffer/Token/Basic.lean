import SqlBuffer.Span
import SqlBuffer.Token.Kind

/-
  Tokens: a kind at a span. On a line the span counts from the start of the line, in a whole
  text from the start of the text.
-/

namespace SqlBuffer

structure Token where
  kind : TokenKind
  span : Span
deriving DecidableEq, Repr

namespace Token

def offset (t : Token) (n : Nat) : Token :=
  { t with span := t.span.offset n }

/-- The token moved by `delta`, at its length. -/
def shift (t : Token) (delta : Int) : Token :=
  { t with span := t.span.shift delta }

end Token

end SqlBuffer
