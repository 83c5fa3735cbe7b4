import SqlBuffer.Token.Basic

/-
  The coloured spans of a line. Tokens in the colour of plain text have none.
-/

namespace SqlBuffer

structure Highlight where
  span : Span
  colour : Colour
deriving DecidableEq, Repr

namespace Highlight

def ofTokens (tokens : List Token) : List Highlight :=
  tokens.filterMap fun t =>
    if t.kind.colour = .text then none else some ⟨t.span, t.kind.colour⟩

/-- The colour at a column. The spans are in order, so that one that starts after the column ends
the search. -/
def colourAt? (column : Nat) : List Highlight → Option Colour
  | [] => none
  | h :: hs =>
    if h.span.contains column then some h.colour
    else if column < h.span.start then none
    else colourAt? column hs

end Highlight

end SqlBuffer
