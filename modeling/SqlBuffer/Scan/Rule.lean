import SqlBuffer.Keyword.Basic
import SqlBuffer.Scan.Cursor
import SqlBuffer.Text.Alphanumeric
import SqlBuffer.Text.Cut
import SqlBuffer.Text.Space

/-
  The lexical rules.
  Each rule moves from the place where a token begins to the place where it ends, and gives the
  kind of the token. `read` chooses the rule by the first character. Every rule moves on, so that a
  scan comes to an end.
-/

namespace SqlBuffer

/-- Part of a word: a letter or number of any script, an at sign or an underscore. -/
def isWordChar (c : Char) : Bool :=
  isAlphanumeric c || c == '@' || c == '_'

inductive NumberState
  | whole
  | fraction
  /-- After the letter of an exponent that has a sign. -/
  | exponentSign
  | exponent
  | done
deriving DecidableEq

inductive Found
  /-- The text is at its end. -/
  | done
  /-- Blanks, and the place after them. -/
  | blank (after : Cursor)
  | token (kind : TokenKind) (after : Cursor)
  /-- A character that no rule accepts. -/
  | unexpected (c : Char)

/-- What is found at a place ends further on. -/
def Found.MovesOn (c : Cursor) : Found → Prop
  | blank after | token _ after => after.rest.length < c.rest.length
  | done | unexpected _ => True

namespace Cursor

/-- A token that takes the rest of its line, without the line break. -/
def restOfLine (c : Cursor) : Cursor :=
  c.eatWhile (!isLineBreak ·)

/-- A block comment. It ends with the first closing behind its opening, or with the text if there
is none. -/
def blockComment (c : Cursor) : Cursor :=
  let inner := c.advance.advance
  match findBytes? ['*', '/'] inner.rest with
  | some n => inner.advanceTo (inner.bytes + n + 2)
  | none => inner.advanceTo (inner.bytes + utf8Length inner.rest)

/-- The contents of a quoted string and the place after it, from a place behind its opening quote
on. Two quotes stand for one; a line break or the end of the text also ends the string. -/
def quotedBody (c : Cursor) : List Char × Cursor :=
  match _h : c.rest with
  | [] => ([], c)
  | ch :: _ =>
    if isLineBreak ch then ([], c)
    else if ch = '\'' then
      if c.advance.rest.head? = some '\'' then
        let (value, after) := quotedBody c.advance.advance
        ('\'' :: value, after)
      else ([], c.advance)
    else
      let (value, after) := quotedBody c.advance
      (ch :: value, after)
termination_by c.rest.length
decreasing_by
  · exact Nat.lt_of_le_of_lt (length_advance_le _) (length_advance_lt _h)
  · exact length_advance_lt _h

def quotedString (c : Cursor) : TokenKind × Cursor :=
  let (value, after) := c.advance.quotedBody
  (.string (String.ofList value), after)

/-- The state behind the letter of an exponent. The letter counts only if a digit follows it,
behind a sign or directly. -/
def exponentStart (c : Cursor) : NumberState :=
  let following := c.rest[1]?
  if (following = some '+' || following = some '-') && c.rest[2]?.any Char.isDigit then
    .exponentSign
  else if following.any Char.isDigit then .exponent
  else .done

/-- The state behind a character of a number; `done` if the character is not part of it. -/
def numberState (c : Cursor) (ch : Char) : NumberState → NumberState
  | .whole => if ch.isDigit then .whole else if ch = '.' then .fraction else .done
  | .fraction =>
    if ch.isDigit then .fraction
    else if ch = 'e' || ch = 'E' then c.exponentStart
    else .done
  | .exponentSign => if ch = '+' || ch = '-' then .exponent else .done
  | .exponent => if ch.isDigit then .exponent else .done
  | .done => .done

/-- The place after a number that was read up to here. -/
def numberFrom (state : NumberState) (c : Cursor) : Cursor :=
  match _h : c.rest with
  | ch :: _ =>
    if c.numberState ch state = .done then c else numberFrom (c.numberState ch state) c.advance
  | [] => c
termination_by c.rest.length
decreasing_by exact length_advance_lt _h

/-- A number: digits, and if a point follows them also the point, the digits after it and an
exponent. -/
def number (c : Cursor) : TokenKind × Cursor :=
  let after := c.numberFrom .whole
  (.number (String.ofList (c.textTo after)), after)

/-- A word: a keyword in the spelling of the table, or else an identifier. -/
def word (keywords : Keywords) (c : Cursor) : TokenKind × Cursor :=
  let after := c.eatWhile isWordChar
  let text := String.ofList (c.textTo after)
  match keywords.spelling? text with
  | some spelling => (.keyword spelling, after)
  | none => (.identifier text, after)

/-- The place of the next white space, or the one after the next dollar sign if that comes
first. -/
def tagEnd (c : Cursor) : Cursor :=
  match _h : c.rest with
  | ch :: _ =>
    if isWhiteSpace ch then c
    else if ch = '$' then c.advance
    else tagEnd c.advance
  | [] => c
termination_by c.rest.length
decreasing_by exact length_advance_lt _h

/-- A dollar-quoted string. A tag that is not closed by a second dollar sign, or that does not
occur again, is an identifier. -/
def dollar (c : Cursor) : TokenKind × Cursor :=
  let after := c.advance.tagEnd
  let tag := c.textTo after
  let plain : TokenKind × Cursor := (.identifier (String.ofList tag), after)
  if 1 < utf8Length tag && tag.getLast? = some '$' then
    match findBytes? tag after.rest with
    | some n =>
      (.string (String.ofList (takeBytes n after.rest)),
        after.advanceTo (after.bytes + n + utf8Length tag))
    | none => plain
  else plain

/-- An identifier in square brackets. It ends with the first closing bracket, or with the text if
there is none. -/
def bracketed (c : Cursor) : TokenKind × Cursor :=
  let after := (c.eatWhile (· ≠ ']')).advance
  (.identifier (String.ofList (c.textTo after)), after)

/-- Reads by the rule for the first character. -/
def read (keywords : Keywords) (c : Cursor) : Found :=
  match c.rest with
  | [] => .done
  | ch :: _ =>
    if isBlank ch then .blank (c.eatWhile isBlank)
    else if isLineBreak ch then .token .newLine c.advance
    else if ch = '\\' then .token .metaCommand c.restOfLine
    else if ch = '\'' then .token c.quotedString.1 c.quotedString.2
    else if ch.isDigit then .token c.number.1 c.number.2
    else if isWordChar ch then .token (c.word keywords).1 (c.word keywords).2
    else if ch = '$' then .token c.dollar.1 c.dollar.2
    else if ch = '[' then .token c.bracketed.1 c.bracketed.2
    else if ['-', '-'].isPrefixOf c.rest then .token .comment c.restOfLine
    else if ['/', '*'].isPrefixOf c.rest then .token .comment c.blockComment
    else
      match Punctuation.ofChar? ch with
      | some p => .token (.punctuation p) c.advance
      | none => .unexpected ch

/-! ## Every rule moves on -/

variable {c : Cursor} {ch : Char} {rest : List Char}

theorem length_blockComment_lt (h : c.rest = ch :: rest) :
    c.blockComment.rest.length < c.rest.length := by
  have hinner : c.advance.advance.rest.length < c.rest.length :=
    Nat.lt_of_le_of_lt (length_advance_le _) (length_advance_lt h)
  unfold blockComment
  dsimp only
  split
  · exact Nat.lt_of_le_of_lt (length_advanceTo_le _ _) hinner
  · exact Nat.lt_of_le_of_lt (length_advanceTo_le _ _) hinner

theorem length_quotedBody_le (c : Cursor) : c.quotedBody.2.rest.length ≤ c.rest.length := by
  fun_induction quotedBody c with
  | case1 => exact Nat.le_refl _
  | case2 => exact Nat.le_refl _
  | case3 c _ _ value after hq _ _ ih =>
    rw [hq] at ih
    exact Nat.le_trans ih (Nat.le_trans (length_advance_le _) (length_advance_le c))
  | case4 c => exact length_advance_le c
  | case5 c _ _ _ _ _ value after hq ih =>
    rw [hq] at ih
    exact Nat.le_trans ih (length_advance_le c)

theorem length_numberFrom_le (state : NumberState) (c : Cursor) :
    (c.numberFrom state).rest.length ≤ c.rest.length := by
  fun_induction numberFrom state c with
  | case1 => exact Nat.le_refl _
  | case2 state c _ _ _ _ ih => exact Nat.le_trans ih (length_advance_le c)
  | case3 => exact Nat.le_refl _

theorem length_number_lt (h : c.rest = ch :: rest) (hd : ch.isDigit = true) :
    c.number.2.rest.length < c.rest.length := by
  have hstate : c.numberState ch .whole = .whole := if_pos hd
  unfold number
  rw [numberFrom]
  split
  · next h' =>
    cases h.symm.trans h'
    rw [hstate, if_neg (by decide)]
    exact Nat.lt_of_le_of_lt (length_numberFrom_le _ _) (length_advance_lt h)
  · next h' => cases h.symm.trans h'

theorem length_word_lt (keywords : Keywords) (h : c.rest = ch :: rest) (hw : isWordChar ch = true) :
    (c.word keywords).2.rest.length < c.rest.length := by
  unfold word
  dsimp only
  split
  · exact length_eatWhile_lt h hw
  · exact length_eatWhile_lt h hw

theorem length_tagEnd_le (c : Cursor) : c.tagEnd.rest.length ≤ c.rest.length := by
  fun_induction tagEnd c with
  | case1 => exact Nat.le_refl _
  | case2 c => exact length_advance_le c
  | case3 c _ _ _ _ _ ih => exact Nat.le_trans ih (length_advance_le c)
  | case4 => exact Nat.le_refl _

theorem length_dollar_lt (h : c.rest = ch :: rest) : c.dollar.2.rest.length < c.rest.length := by
  have htag : c.advance.tagEnd.rest.length < c.rest.length :=
    Nat.lt_of_le_of_lt (length_tagEnd_le _) (length_advance_lt h)
  unfold dollar
  dsimp only
  split
  · split
    · exact Nat.lt_of_le_of_lt (length_advanceTo_le _ _) htag
    · exact htag
  · exact htag

theorem movesOn_read (keywords : Keywords) (c : Cursor) : (c.read keywords).MovesOn c := by
  unfold read
  split
  · trivial
  next ch rest h =>
  refine iteInduction (fun hb => length_eatWhile_lt h hb) fun _ => ?_
  refine iteInduction (fun _ => length_advance_lt h) fun hl => ?_
  have hline : c.restOfLine.rest.length < c.rest.length :=
    length_eatWhile_lt h (by simpa using hl)
  refine iteInduction (fun _ => hline) fun _ => ?_
  refine iteInduction (fun _ => ?_) fun _ => ?_
  · exact Nat.lt_of_le_of_lt (length_quotedBody_le _) (length_advance_lt h)
  refine iteInduction (fun hd => length_number_lt h hd) fun _ => ?_
  refine iteInduction (fun hw => length_word_lt keywords h hw) fun _ => ?_
  refine iteInduction (fun _ => length_dollar_lt h) fun _ => ?_
  refine iteInduction (fun hb => ?_) fun _ => ?_
  · exact Nat.lt_of_le_of_lt (length_advance_le _) (length_eatWhile_lt h (by simp [hb]))
  refine iteInduction (fun _ => hline) fun _ => ?_
  refine iteInduction (fun _ => length_blockComment_lt h) fun _ => ?_
  cases Punctuation.ofChar? ch with
  | some p => exact length_advance_lt h
  | none => trivial

end Cursor

end SqlBuffer
