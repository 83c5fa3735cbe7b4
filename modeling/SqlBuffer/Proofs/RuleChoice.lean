import SqlBuffer.Proofs.Lexeme

/-
  Which rule reads the front of a text.
  `Choice` has a case for each rule, with what the first characters have to be for it. All that is
  said about the kind or the text of a token of any rule is said case by case along `choice_step`.
-/

namespace SqlBuffer.Scan

/-- The rules by what the text begins with. -/
inductive Choice (k : Keywords) : List Char → Step → Prop
  | done : Choice k [] .done
  | blank {c : Char} (cs : List Char) (h : isBlank c = true) : Choice k (c :: cs) (.blank cs)
  | newLine {c : Char} (cs : List Char) (h : isLineBreak c = true) :
      Choice k (c :: cs) (.lexeme ⟨.newLine, [c], cs⟩)
  | metaCommand (cs : List Char) :
      Choice k ('\\' :: cs) (.lexeme (restOfLine .metaCommand ('\\' :: cs)))
  | quotedString (cs : List Char) : Choice k ('\'' :: cs) (.lexeme (quotedString cs))
  | number {c : Char} (cs : List Char) (h : c.isDigit = true) :
      Choice k (c :: cs) (.lexeme (number (c :: cs)))
  | word {c : Char} (cs : List Char) (hd : c.isDigit = false) (h : isWordChar c = true) :
      Choice k (c :: cs) (.lexeme (word k (c :: cs)))
  | dollar (cs : List Char) : Choice k ('$' :: cs) (.lexeme (dollar cs))
  | bracketed (cs : List Char) : Choice k ('[' :: cs) (.lexeme (bracketed cs))
  | lineComment (cs : List Char) :
      Choice k ('-' :: '-' :: cs) (.lexeme (restOfLine .comment ('-' :: '-' :: cs)))
  | blockComment (cs : List Char) : Choice k ('/' :: '*' :: cs) (.lexeme (blockComment cs))
  | punctuation {p : Punctuation} (cs : List Char) (hw : isWordChar p.symbol = false)
      (hl : ¬ (p = .minus ∧ cs.head? = some '-')) (hb : ¬ (p = .slash ∧ cs.head? = some '*')) :
      Choice k (p.symbol :: cs) (.lexeme ⟨.punctuation p, [p.symbol], cs⟩)
  | unexpected {c : Char} (cs : List Char) (hb : isBlank c = false) (hl : isLineBreak c = false)
      (hw : isWordChar c = false) (hc : c ∉ ['\\', '\'', '$', '['])
      (hp : Punctuation.ofChar? c = none) : Choice k (c :: cs) (.unexpected c)

theorem symbol_of_ofChar? {c : Char} {p : Punctuation} (h : Punctuation.ofChar? c = some p) :
    p.symbol = c := by
  simpa using List.find?_some h

theorem choice_symbol (k : Keywords) {c : Char} (cs : List Char) (hb : isBlank c = false)
    (hl : isLineBreak c = false) (hw : isWordChar c = false) (hc : c ∉ ['\\', '\'', '$', '[']) :
    Choice k (c :: cs) (symbol c cs) := by
  unfold symbol
  split
  · next hminus =>
    obtain ⟨rfl, hs⟩ : c = '-' ∧ cs.head? = some '-' := by simpa using hminus
    obtain ⟨ds, rfl⟩ := List.head?_eq_some_iff.1 hs
    exact .lineComment ds
  · next hminus =>
    split
    · next hslash =>
      obtain ⟨rfl, hs⟩ : c = '/' ∧ cs.head? = some '*' := by simpa using hslash
      obtain ⟨ds, rfl⟩ := List.head?_eq_some_iff.1 hs
      exact .blockComment ds
    · next hslash =>
      cases hp : Punctuation.ofChar? c with
      | none => exact .unexpected cs hb hl hw hc hp
      | some p =>
        obtain rfl := symbol_of_ofChar? hp
        refine .punctuation cs hw ?_ ?_
        · rintro ⟨rfl, hs⟩
          simp [Punctuation.symbol, hs] at hminus
        · rintro ⟨rfl, hs⟩
          simp [Punctuation.symbol, hs] at hslash

/-- The front of a text is read by the rule that its first characters choose. -/
theorem choice_step (k : Keywords) (cs : List Char) : Choice k cs (step k cs) := by
  cases cs with
  | nil => exact .done
  | cons c cs =>
    rw [step]
    split; · next h => exact .blank cs h
    next hb =>
    split; · next h => exact .newLine cs h
    next hl =>
    split; · next h => subst h; exact .metaCommand cs
    next hm =>
    split; · next h => subst h; exact .quotedString cs
    next hq =>
    split; · next h => exact .number cs h
    next hd =>
    split; · next h => exact .word cs (by simpa using hd) h
    next hw =>
    split; · next h => subst h; exact .dollar cs
    next hs =>
    split; · next h => subst h; exact .bracketed cs
    next ho =>
    exact choice_symbol k cs (by simpa using hb) (by simpa using hl) (by simpa using hw)
      (by simp [hm, hq, hs, ho])

/-- What is known of a token is known by the rule that read it. -/
theorem choice_of_step {k : Keywords} {cs : List Char} {s : Step} (h : step k cs = s) :
    Choice k cs s :=
  h ▸ choice_step k cs

theorem step_eq_done {k : Keywords} {cs : List Char} (h : step k cs = .done) : cs = [] := by
  cases choice_of_step h
  rfl

/-! ## Kinds -/

theorem kind_word (k : Keywords) (cs : List Char) :
    (∃ s, (word k cs).kind = .keyword s) ∨ ∃ s, (word k cs).kind = .identifier s := by
  unfold word
  dsimp only
  split
  · exact Or.inl ⟨_, rfl⟩
  · exact Or.inr ⟨_, rfl⟩

theorem kind_dollar (cs : List Char) :
    (∃ s, (dollar cs).kind = .string s) ∨ ∃ s, (dollar cs).kind = .identifier s := by
  unfold dollar
  dsimp only
  split
  · split
    · exact Or.inl ⟨_, rfl⟩
    · exact Or.inr ⟨_, rfl⟩
  · exact Or.inr ⟨_, rfl⟩

theorem kind_blockComment (cs : List Char) : (blockComment cs).kind = .comment := by
  unfold blockComment
  split <;> rfl

/-- No rule reads the token that stands for the end of the text. -/
theorem kind_ne_endOfText {k : Keywords} {cs : List Char} {l : Lexeme}
    (h : step k cs = .lexeme l) : l.kind ≠ .endOfText := by
  intro hk
  cases choice_of_step h with
  | word cs => obtain ⟨s, hs⟩ | ⟨s, hs⟩ := kind_word k _ <;> cases hs.symm.trans hk
  | dollar cs => obtain ⟨s, hs⟩ | ⟨s, hs⟩ := kind_dollar cs <;> cases hs.symm.trans hk
  | blockComment cs => cases (kind_blockComment cs).symm.trans hk
  | _ => cases hk

/-- Punctuation is read as its one character. -/
theorem text_of_step_punctuation {k : Keywords} {cs : List Char} {l : Lexeme} {p : Punctuation}
    (h : step k cs = .lexeme l) (hk : l.kind = .punctuation p) : l.text = [p.symbol] := by
  cases choice_of_step h with
  | word cs => obtain ⟨s, hs⟩ | ⟨s, hs⟩ := kind_word k _ <;> cases hs.symm.trans hk
  | dollar cs => obtain ⟨s, hs⟩ | ⟨s, hs⟩ := kind_dollar cs <;> cases hs.symm.trans hk
  | blockComment cs => cases (kind_blockComment cs).symm.trans hk
  | punctuation cs =>
    cases hk
    rfl
  | _ => cases hk

end SqlBuffer.Scan
