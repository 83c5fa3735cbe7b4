import SqlBuffer.Text.Utf8
import SqlBuffer.Token.Basic

/-
  Places in a scanned text.
  A place has two offsets: how many characters and how many bytes of UTF-8 stand before it. The
  scanner moves both by hand, over one character, over a run of characters or up to a byte that a
  search found. A token has the offsets of the places where it begins and ends.
-/

namespace SqlBuffer

/-- A place in a scanned text: the number of characters before it, the number of bytes before it
and the text after it. -/
structure Cursor where
  position : Nat
  bytes : Nat
  rest : List Char

/-- A token in a scanned text, with the span of its bytes. -/
structure ScannedToken extends Token where
  bytes : Span
deriving DecidableEq, Repr

namespace Cursor

def start (text : List Char) : Cursor :=
  ⟨0, 0, text⟩

/-- The place after the next character. At the end of the text there is none. -/
def advance (c : Cursor) : Cursor :=
  match c.rest with
  | ch :: rest => ⟨c.position + 1, c.bytes + ch.utf8Size, rest⟩
  | [] => c

theorem length_advance_lt {c : Cursor} {ch : Char} {rest : List Char} (h : c.rest = ch :: rest) :
    c.advance.rest.length < c.rest.length := by
  rw [advance, h]
  exact Nat.lt_succ_self _

theorem length_advance_le (c : Cursor) : c.advance.rest.length ≤ c.rest.length := by
  cases h : c.rest with
  | nil => simp [advance, h]
  | cons ch rest => exact h ▸ Nat.le_of_lt (length_advance_lt h)

def eatWhile (p : Char → Bool) (c : Cursor) : Cursor :=
  match _h : c.rest with
  | ch :: _ => if p ch then eatWhile p c.advance else c
  | [] => c
termination_by c.rest.length
decreasing_by exact length_advance_lt _h

/-- The first place that has `target` bytes before it, or the end of the text. -/
def advanceTo (target : Nat) (c : Cursor) : Cursor :=
  match _h : c.rest with
  | _ :: _ => if c.bytes < target then advanceTo target c.advance else c
  | [] => c
termination_by c.rest.length
decreasing_by exact length_advance_lt _h

theorem length_eatWhile_le (p : Char → Bool) (c : Cursor) :
    (c.eatWhile p).rest.length ≤ c.rest.length := by
  fun_induction eatWhile p c with
  | case1 c ch rest h hp ih => exact Nat.le_trans ih c.length_advance_le
  | case2 => exact Nat.le_refl _
  | case3 => exact Nat.le_refl _

theorem length_eatWhile_lt {p : Char → Bool} {c : Cursor} {ch : Char} {rest : List Char}
    (h : c.rest = ch :: rest) (hp : p ch = true) :
    (c.eatWhile p).rest.length < c.rest.length := by
  rw [eatWhile]
  split
  · next h' =>
    cases h.symm.trans h'
    rw [if_pos hp]
    exact Nat.lt_of_le_of_lt (length_eatWhile_le p _) (length_advance_lt h)
  · next h' => cases h.symm.trans h'

theorem length_advanceTo_le (target : Nat) (c : Cursor) :
    (c.advanceTo target).rest.length ≤ c.rest.length := by
  fun_induction advanceTo target c with
  | case1 c ch rest h hp ih => exact Nat.le_trans ih c.length_advance_le
  | case2 => exact Nat.le_refl _
  | case3 => exact Nat.le_refl _

/-- The text from one place to a later one, by their bytes. -/
def textTo (c d : Cursor) : List Char :=
  takeBytes (d.bytes - c.bytes) c.rest

/-- The token of a kind from one place to a later one. -/
def tokenTo (c d : Cursor) (kind : TokenKind) : ScannedToken :=
  ⟨⟨kind, ⟨c.position, d.position⟩⟩, ⟨c.bytes, d.bytes⟩⟩

end Cursor

end SqlBuffer
