import SqlBuffer.Text.Quoted

/-
  Lexical errors. Strings and comments that are not closed are no errors; only a character that
  no rule accepts is.
-/

namespace SqlBuffer

/-- A character that no lexical rule accepts, and where it stands in the scanned text. -/
structure ScanError where
  character : Char
  position : Nat
deriving DecidableEq, Repr

def ScanError.message (e : ScanError) : String :=
  "unrecognized character " ++ quoteChar e.character ++ " at offset " ++ toString e.position

end SqlBuffer
