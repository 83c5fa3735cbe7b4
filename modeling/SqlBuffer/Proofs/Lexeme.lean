import SqlBuffer.Scan.Rule

/-
  What the lexical rules read.
  Here each rule is a function of the text alone: it gives the kind of the token at the front of a
  text, the text that the token covers and the text that follows. No rule loses a character:
  `reads_step` says that the text a token covers is not empty and that with the rest it makes up
  the input.
-/

namespace SqlBuffer

/-- A token at the front of a text: its kind, the text it covers and what follows. -/
structure Lexeme where
  kind : TokenKind
  text : List Char
  rest : List Char

namespace Scan

/-- A token that takes the rest of its line, without the line break. -/
def restOfLine (kind : TokenKind) (cs : List Char) : Lexeme :=
  ⟨kind, cs.takeWhile (!isLineBreak ·), cs.dropWhile (!isLineBreak ·)⟩

/-- A block comment, from the text after its opening on. It ends with the first closing, or with
the text if there is none. -/
def blockComment (cs : List Char) : Lexeme :=
  match cutAt? ['*', '/'] cs with
  | some (inner, rest) => ⟨.comment, '/' :: '*' :: inner ++ ['*', '/'], rest⟩
  | none => ⟨.comment, '/' :: '*' :: cs, []⟩

/-- The contents of a quoted string, the text it covers with the closing quote, and the rest,
from the text after the opening quote on. Two quotes stand for one; a line break or the end of
the text also ends the string. -/
def quotedBody : List Char → List Char × List Char × List Char
  | [] => ([], [], [])
  | '\'' :: '\'' :: cs =>
    let (value, text, rest) := quotedBody cs
    ('\'' :: value, '\'' :: '\'' :: text, rest)
  | c :: cs =>
    if isLineBreak c then ([], [], c :: cs)
    else if c = '\'' then ([], [c], cs)
    else
      let (value, text, rest) := quotedBody cs
      (c :: value, c :: text, rest)

/-- A quoted string, from the text after its opening quote on. -/
def quotedString (cs : List Char) : Lexeme :=
  let (value, text, rest) := quotedBody cs
  ⟨.string (String.ofList value), '\'' :: text, rest⟩

/-- The sign at the front of a text, if there is one. -/
def sign : List Char → List Char
  | c :: _ => if c = '+' || c = '-' then [c] else []
  | [] => []

/-- The exponent at the front of a text: the letter, a sign or none, and at least one digit. -/
def exponent : List Char → List Char
  | c :: cs =>
    let digits := (cs.drop (sign cs).length).takeWhile Char.isDigit
    if (c = 'e' || c = 'E') && !digits.isEmpty then c :: sign cs ++ digits else []
  | [] => []

/-- The number at the front of a text: digits, and if a point follows them also the point, the
digits after it and an exponent. -/
def numberText (cs : List Char) : List Char :=
  let whole := cs.takeWhile Char.isDigit
  match cs.dropWhile Char.isDigit with
  | '.' :: rest =>
    whole ++ '.' :: rest.takeWhile Char.isDigit ++ exponent (rest.dropWhile Char.isDigit)
  | _ => whole

def number (cs : List Char) : Lexeme :=
  let text := numberText cs
  ⟨.number (String.ofList text), text, cs.drop text.length⟩

/-- A word: a keyword in the spelling of the table, or else an identifier. -/
def word (keywords : Keywords) (cs : List Char) : Lexeme :=
  let text := cs.takeWhile isWordChar
  let kind :=
    match keywords.spelling? (String.ofList text) with
    | some spelling => .keyword spelling
    | none => .identifier (String.ofList text)
  ⟨kind, text, cs.dropWhile isWordChar⟩

/-- The text after a dollar sign up to white space or through the next dollar sign, and the
rest. -/
def dollarRun : List Char → List Char × List Char
  | [] => ([], [])
  | c :: cs =>
    if isWhiteSpace c then ([], c :: cs)
    else if c = '$' then ([c], cs)
    else
      let (run, rest) := dollarRun cs
      (c :: run, rest)

/-- A dollar-quoted string, from the text after its first dollar sign on. A tag that is not
closed by a second dollar sign, or that does not occur again, is an identifier. -/
def dollar (cs : List Char) : Lexeme :=
  let (run, rest) := dollarRun cs
  let tag := '$' :: run
  let plain : Lexeme := ⟨.identifier (String.ofList tag), tag, rest⟩
  if run.getLast? = some '$' then
    match cutAt? tag rest with
    | some (body, after) => ⟨.string (String.ofList body), tag ++ body ++ tag, after⟩
    | none => plain
  else plain

/-- An identifier in square brackets, from the text after the opening one on. It ends with the
first closing bracket, or with the text if there is none. -/
def bracketed (cs : List Char) : Lexeme :=
  let text := '[' :: cs.takeWhile (· ≠ ']') ++ (cs.dropWhile (· ≠ ']')).take 1
  ⟨.identifier (String.ofList text), text, (cs.dropWhile (· ≠ ']')).drop 1⟩

/-- What stands at the front of a text. -/
inductive Step
  /-- The text is at its end. -/
  | done
  /-- A blank, and the text after it. -/
  | blank (rest : List Char)
  | lexeme (l : Lexeme)
  /-- A character that no rule accepts. -/
  | unexpected (c : Char)

/-- Reads a comment or a punctuation, or rejects the character. -/
def symbol (c : Char) (cs : List Char) : Step :=
  if c = '-' && cs.head? = some '-' then .lexeme (restOfLine .comment (c :: cs))
  else if c = '/' && cs.head? = some '*' then .lexeme (blockComment cs.tail)
  else
    match Punctuation.ofChar? c with
    | some p => .lexeme ⟨.punctuation p, [c], cs⟩
    | none => .unexpected c

/-- Reads the front of a text by the rule for its first character. -/
def step (keywords : Keywords) : List Char → Step
  | [] => .done
  | c :: cs =>
    if isBlank c then .blank cs
    else if isLineBreak c then .lexeme ⟨.newLine, [c], cs⟩
    else if c = '\\' then .lexeme (restOfLine .metaCommand (c :: cs))
    else if c = '\'' then .lexeme (quotedString cs)
    else if c.isDigit then .lexeme (number (c :: cs))
    else if isWordChar c then .lexeme (word keywords (c :: cs))
    else if c = '$' then .lexeme (dollar cs)
    else if c = '[' then .lexeme (bracketed cs)
    else symbol c cs

/-- A lexeme is read from `cs` when it covers a non-empty front of it and leaves the rest. -/
structure Reads (l : Lexeme) (cs : List Char) : Prop where
  append : l.text ++ l.rest = cs
  ne_nil : l.text ≠ []

theorem reads_restOfLine (kind : TokenKind) {c : Char} (cs : List Char)
    (h : isLineBreak c = false) : Reads (restOfLine kind (c :: cs)) (c :: cs) where
  append := List.takeWhile_append_dropWhile
  ne_nil := by simp [restOfLine, h]

theorem reads_blockComment (cs : List Char) : Reads (blockComment cs) ('/' :: '*' :: cs) := by
  unfold blockComment
  split
  · next inner rest h => exact ⟨by simp [← cutAt?_eq_some_append h], by simp⟩
  · exact ⟨by simp, by simp⟩

theorem quotedBody_lineBreak {c : Char} {cs : List Char} (h : isLineBreak c = true) :
    quotedBody (c :: cs) = ([], [], c :: cs) := by
  have hc : c ≠ '\'' := by
    rintro rfl
    cases h
  unfold quotedBody
  split
  · next heq => cases heq
  · next heq => cases heq; exact absurd rfl hc
  · next heq => cases heq; rw [if_pos h]

theorem quotedBody_quote {cs : List Char} (h : cs.head? ≠ some '\'') :
    quotedBody ('\'' :: cs) = ([], ['\''], cs) := by
  unfold quotedBody
  split
  · next heq => cases heq
  · next heq => cases heq; exact absurd rfl h
  · next heq => cases heq; rfl

theorem quotedBody_other {c : Char} {cs : List Char} (hb : ¬ isLineBreak c = true)
    (hc : c ≠ '\'') :
    quotedBody (c :: cs) =
      (c :: (quotedBody cs).1, c :: (quotedBody cs).2.1, (quotedBody cs).2.2) := by
  conv => lhs; unfold quotedBody
  split
  · next heq => cases heq
  · next heq => cases heq; exact absurd rfl hc
  · next heq => cases heq; rw [if_neg hb, if_neg hc]

theorem quotedBody_quotes (cs : List Char) :
    quotedBody ('\'' :: '\'' :: cs) =
      ('\'' :: (quotedBody cs).1, '\'' :: '\'' :: (quotedBody cs).2.1, (quotedBody cs).2.2) := by
  rw [quotedBody]

theorem quotedBody_append (cs : List Char) : (quotedBody cs).2.1 ++ (quotedBody cs).2.2 = cs := by
  fun_induction quotedBody cs <;> simp_all

theorem reads_quotedString (cs : List Char) : Reads (quotedString cs) ('\'' :: cs) where
  append := by simp [quotedString, quotedBody_append]
  ne_nil := by simp [quotedString]

theorem sign_cases (cs : List Char) :
    sign cs = [] ∨ ∃ c ds, cs = c :: ds ∧ sign cs = [c] ∧ (c = '+' ∨ c = '-') := by
  cases cs with
  | nil => exact Or.inl rfl
  | cons c cs =>
    by_cases hc : c = '+' ∨ c = '-'
    · exact Or.inr ⟨c, cs, rfl, by simp [sign, hc], hc⟩
    · exact Or.inl (by simp [sign, hc])

theorem sign_append (cs : List Char) : sign cs ++ cs.drop (sign cs).length = cs := by
  cases cs with
  | nil => rfl
  | cons c cs => rw [sign]; split <;> simp

theorem exponent_append (cs : List Char) : ∃ rest, exponent cs ++ rest = cs := by
  cases cs with
  | nil => exact ⟨[], rfl⟩
  | cons c cs =>
    rw [exponent]
    split
    · refine ⟨(cs.drop (sign cs).length).dropWhile Char.isDigit, ?_⟩
      rw [List.append_assoc, List.takeWhile_append_dropWhile, List.cons_append, sign_append]
    · exact ⟨_, rfl⟩

theorem numberText_append (cs : List Char) : ∃ rest, numberText cs ++ rest = cs := by
  unfold numberText
  split
  · next rest h =>
    obtain ⟨after, ha⟩ := exponent_append (rest.dropWhile Char.isDigit)
    refine ⟨after, ?_⟩
    have hs := List.takeWhile_append_dropWhile (p := Char.isDigit) (l := cs)
    rw [h] at hs
    rw [List.append_assoc, ha, List.append_assoc, List.cons_append,
      List.takeWhile_append_dropWhile, hs]
  · exact ⟨_, List.takeWhile_append_dropWhile⟩

theorem reads_number {c : Char} (cs : List Char) (h : c.isDigit = true) :
    Reads (number (c :: cs)) (c :: cs) where
  append := by
    obtain ⟨rest, hr⟩ := numberText_append (c :: cs)
    simp only [number]
    conv => lhs; rhs; rhs; rw [← hr]
    rw [List.drop_left, hr]
  ne_nil := by
    simp only [number, numberText]
    split <;> simp [h]

theorem reads_word (keywords : Keywords) {c : Char} (cs : List Char)
    (h : isWordChar c = true) : Reads (word keywords (c :: cs)) (c :: cs) where
  append := List.takeWhile_append_dropWhile
  ne_nil := by simp [word, h]

theorem dollarRun_append (cs : List Char) : (dollarRun cs).1 ++ (dollarRun cs).2 = cs := by
  fun_induction dollarRun cs <;> simp_all

theorem reads_dollar (cs : List Char) : Reads (dollar cs) ('$' :: cs) := by
  have hr := dollarRun_append cs
  unfold dollar
  dsimp only
  split
  · split
    · next body after h =>
      have hc := cutAt?_eq_some_append h
      refine ⟨?_, by simp⟩
      rw [List.append_assoc, List.append_assoc, ← List.append_assoc body, hc, List.cons_append, hr]
    · exact ⟨by simp [hr], by simp⟩
  · exact ⟨by simp [hr], by simp⟩

theorem reads_bracketed (cs : List Char) : Reads (bracketed cs) ('[' :: cs) where
  append := by
    simp only [bracketed]
    rw [List.append_assoc, List.take_append_drop, List.cons_append,
      List.takeWhile_append_dropWhile]
  ne_nil := by simp [bracketed]

theorem reads_symbol {c : Char} {cs : List Char} {l : Lexeme} (h : symbol c cs = .lexeme l) :
    Reads l (c :: cs) := by
  unfold symbol at h
  split at h
  · next hc =>
    cases h
    have hb : isLineBreak c = false := by
      have : c = '-' := by simp_all
      rw [this]; rfl
    exact reads_restOfLine _ _ hb
  · split at h
    · next hc =>
      cases h
      obtain ⟨rfl, hs⟩ : c = '/' ∧ cs.head? = some '*' := by simpa using hc
      obtain ⟨d, ds, rfl⟩ := List.exists_cons_of_ne_nil (l := cs) (by rintro rfl; simp at hs)
      obtain rfl : d = '*' := by simpa using hs
      exact reads_blockComment ds
    · split at h
      · cases h; exact ⟨rfl, by simp⟩
      · cases h

/-- Every token covers a non-empty front of the text and leaves the rest of it. -/
theorem reads_step {keywords : Keywords} {cs : List Char} {l : Lexeme}
    (h : step keywords cs = .lexeme l) : Reads l cs := by
  cases cs with
  | nil => cases h
  | cons c cs =>
    rw [step] at h
    split at h; · cases h
    split at h; · cases h; exact ⟨rfl, by simp⟩
    next hb =>
    split at h; · cases h; exact reads_restOfLine _ _ (by simpa using hb)
    split at h; · next hc => cases h; exact hc ▸ reads_quotedString cs
    split at h; · next hc => cases h; exact reads_number cs hc
    split at h; · next hc => cases h; exact reads_word keywords cs hc
    split at h; · next hc => cases h; exact hc ▸ reads_dollar cs
    split at h; · next hc => cases h; exact hc ▸ reads_bracketed cs
    exact reads_symbol h

/-- What a token leaves is shorter than the text it was read from. -/
theorem length_rest_lt {keywords : Keywords} {cs : List Char} {l : Lexeme}
    (h : step keywords cs = .lexeme l) : l.rest.length < cs.length := by
  obtain ⟨ha, hn⟩ := reads_step h
  have := List.length_pos_iff.2 hn
  rw [← ha, List.length_append]
  omega

theorem step_blank {keywords : Keywords} {cs rest : List Char}
    (h : step keywords cs = .blank rest) : ∃ c, isBlank c = true ∧ cs = c :: rest := by
  cases cs with
  | nil => cases h
  | cons c cs =>
    rw [step] at h
    split at h
    · next hc => cases h; exact ⟨c, hc, rfl⟩
    · repeat' split at h
      all_goals first | cases h | (unfold symbol at h; repeat' split at h) <;> cases h

end Scan

end SqlBuffer
