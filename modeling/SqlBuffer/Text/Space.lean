/-
  White space and line breaks as the scanner sees them.
  A carriage return ends no line here: in a return followed by a line feed the line feed does,
  and a return alone is blank space.
-/

namespace SqlBuffer

/-- White space of any script, line breaks included. -/
def isWhiteSpace (c : Char) : Bool :=
  let n := c.toNat
  (0x09 ≤ n && n ≤ 0x0d) || n == 0x20 || n == 0x85 || n == 0xa0 || n == 0x1680
    || (0x2000 ≤ n && n ≤ 0x200a) || n == 0x2028 || n == 0x2029 || n == 0x202f || n == 0x205f
    || n == 0x3000

/-- Ends a line: line feed, vertical tab, form feed, next line, line or paragraph separator. -/
def isLineBreak (c : Char) : Bool :=
  c == '\n' || c == '\x0b' || c == '\x0c' || c == '\u0085' || c == '\u2028'
    || c == '\u2029'

/-- Separates tokens on a line. -/
def isBlank (c : Char) : Bool :=
  c == '\r' || (isWhiteSpace c && !isLineBreak c)

end SqlBuffer
