import SqlBuffer.Proofs.Lexeme

/-
  Rules on the front of a text.
  A rule may look ahead for a digit after an exponent, for a second quote, or to the end of the
  text for a closing tag. If what it reads from `x ++ y` ends in `x`, then it reads the same from
  `x` alone: had the look into `y` made a difference, the token would have reached into `y`.
-/

namespace SqlBuffer

/-- The lexeme with more text after it. -/
def Lexeme.followedBy (l : Lexeme) (y : List Char) : Lexeme :=
  { l with rest := l.rest ++ y }

variable {x y : List Char}

/-! ## Parts of rules -/

theorem takeWhile_append_of_length_le {p : Char → Bool}
    (h : ((x ++ y).takeWhile p).length ≤ x.length) :
    (x ++ y).takeWhile p = x.takeWhile p ∧ (x ++ y).dropWhile p = x.dropWhile p ++ y := by
  induction x with
  | nil =>
    have hnil : y.takeWhile p = [] := List.eq_nil_of_length_eq_zero (Nat.le_zero.1 h)
    refine ⟨hnil, ?_⟩
    have hy : y.takeWhile p ++ y.dropWhile p = y := List.takeWhile_append_dropWhile
    rw [hnil] at hy
    exact hy
  | cons c x ih =>
    rw [List.cons_append] at h ⊢
    by_cases hc : p c = true
    · rw [List.takeWhile_cons_of_pos hc, List.length_cons, List.length_cons] at h
      obtain ⟨ht, hd⟩ := ih (by omega)
      rw [List.takeWhile_cons_of_pos hc, List.takeWhile_cons_of_pos hc,
        List.dropWhile_cons_of_pos hc, List.dropWhile_cons_of_pos hc, ht]
      exact ⟨rfl, hd⟩
    · rw [List.takeWhile_cons_of_neg hc, List.takeWhile_cons_of_neg hc,
        List.dropWhile_cons_of_neg hc, List.dropWhile_cons_of_neg hc]
      exact ⟨rfl, rfl⟩

theorem isPrefixOf_append {pattern : List Char} (h : pattern.isPrefixOf x = true) :
    pattern.isPrefixOf (x ++ y) = true :=
  List.isPrefixOf_iff_prefix.2
    ((List.isPrefixOf_iff_prefix.1 h).trans (List.prefix_append x y))

theorem cutAt?_of_append {pattern before after : List Char} (hp : pattern ≠ [])
    (h : cutAt? pattern (x ++ y) = some (before, after))
    (hl : before.length + pattern.length ≤ x.length) :
    ∃ rest, after = rest ++ y ∧ cutAt? pattern x = some (before, rest) := by
  have hpos := List.length_pos_iff.2 hp
  induction x generalizing before with
  | nil =>
    rw [List.length_nil] at hl
    omega
  | cons c x ih =>
    rw [List.cons_append, cutAt?] at h
    rw [cutAt?]
    by_cases hpre : pattern.isPrefixOf (c :: (x ++ y)) = true
    · rw [if_pos hpre] at h
      cases h
      rw [List.length_nil, Nat.zero_add] at hl
      have hpx : pattern <+: c :: x :=
        List.prefix_of_prefix_length_le (List.isPrefixOf_iff_prefix.1 hpre)
          (List.prefix_append (c :: x) y) hl
      refine ⟨(c :: x).drop pattern.length, List.drop_append_of_le_length hl, ?_⟩
      rw [if_pos (List.isPrefixOf_iff_prefix.2 hpx)]
    · have hpx : ¬ pattern.isPrefixOf (c :: x) = true := fun h => hpre (isPrefixOf_append h)
      rw [if_neg hpre, Option.map_eq_some_iff] at h
      obtain ⟨⟨before, after⟩, hcut, heq⟩ := h
      cases heq
      rw [List.length_cons, List.length_cons] at hl
      obtain ⟨rest, rfl, hx⟩ := ih hcut (by omega)
      refine ⟨rest, rfl, ?_⟩
      rw [if_neg hpx, hx]
      rfl

theorem cutAt?_eq_none_of_append {pattern : List Char} (hp : pattern ≠ [])
    (h : cutAt? pattern (x ++ y) = none) : cutAt? pattern x = none := by
  induction x with
  | nil => rw [cutAt?, if_neg hp]
  | cons c x ih =>
    rw [List.cons_append, cutAt?] at h
    by_cases hpre : pattern.isPrefixOf (c :: (x ++ y)) = true
    · rw [if_pos hpre] at h
      cases h
    · have hpx : ¬ pattern.isPrefixOf (c :: x) = true := fun h => hpre (isPrefixOf_append h)
      rw [if_neg hpre, Option.map_eq_none_iff] at h
      rw [cutAt?, if_neg hpx, ih h]
      rfl

namespace Scan

theorem quotedBody_of_text_nil {cs : List Char} (h : (quotedBody cs).2.1 = []) :
    quotedBody cs = ([], [], cs) := by
  cases cs with
  | nil => rfl
  | cons c cs =>
    by_cases hb : isLineBreak c = true
    · exact quotedBody_lineBreak hb
    by_cases hc : c = '\''
    · subst hc
      by_cases hq : cs.head? = some '\''
      · obtain ⟨cs, rfl⟩ := List.head?_eq_some_iff.1 hq
        rw [quotedBody_quotes] at h
        cases h
      · rw [quotedBody_quote hq] at h
        cases h
    · rw [quotedBody_other hb hc] at h
      cases h

/-- A string that ends in the front of a text is read from the front. A quote at the end of the
front closes the string in both: had a second one followed, the string would go on. -/
theorem quotedBody_of_append (h : (quotedBody (x ++ y)).2.1.length ≤ x.length) :
    quotedBody (x ++ y) = ((quotedBody x).1, (quotedBody x).2.1, (quotedBody x).2.2 ++ y) := by
  induction hn : x.length using Nat.strongRecOn generalizing x with
  | ind n ih =>
    subst hn
    cases x with
    | nil => exact quotedBody_of_text_nil (List.eq_nil_of_length_eq_zero (Nat.le_zero.1 h))
    | cons c x =>
      rw [List.cons_append] at h ⊢
      by_cases hb : isLineBreak c = true
      · rw [quotedBody_lineBreak hb, quotedBody_lineBreak hb]
        rfl
      by_cases hc : c = '\''
      · subst hc
        cases x with
        | nil =>
          rw [List.nil_append] at h ⊢
          by_cases hq : y.head? = some '\''
          · obtain ⟨cs, rfl⟩ := List.head?_eq_some_iff.1 hq
            rw [quotedBody_quotes] at h
            simp only [List.length_cons, List.length_nil] at h
            omega
          · rw [quotedBody_quote hq]
            rfl
        | cons e x =>
          rw [List.cons_append] at h ⊢
          by_cases he : e = '\''
          · subst he
            rw [quotedBody_quotes] at h
            simp only [List.length_cons] at h ih
            have hx := ih x.length (by omega) (by omega) rfl
            rw [quotedBody_quotes, quotedBody_quotes, hx]
          · have hq (cs : List Char) : (e :: cs).head? ≠ some '\'' := by simpa using he
            rw [quotedBody_quote (hq _), quotedBody_quote (hq _)]
            rfl
      · rw [quotedBody_other hb hc] at h
        simp only [List.length_cons] at h ih
        have hx := ih x.length (by omega) (by omega) rfl
        rw [quotedBody_other hb hc, quotedBody_other hb hc, hx]

theorem length_sign_le (cs : List Char) : (sign cs).length ≤ cs.length := by
  have h := congrArg List.length (sign_append cs)
  rw [List.length_append] at h
  omega

/-- The digits of an exponent, from the text after its letter on. -/
def exponentDigits (cs : List Char) : List Char :=
  (cs.drop (sign cs).length).takeWhile Char.isDigit

theorem exponent_cons_of_digits {c : Char} {cs : List Char} (hc : (c = 'e' || c = 'E') = true)
    (hd : exponentDigits cs ≠ []) : exponent (c :: cs) = c :: sign cs ++ exponentDigits cs := by
  rw [exponent, hc]
  exact if_pos (by simpa [exponentDigits] using hd)

theorem exponent_cons_of_not {c : Char} {cs : List Char}
    (h : ¬ ((c = 'e' || c = 'E') = true ∧ exponentDigits cs ≠ [])) : exponent (c :: cs) = [] := by
  rw [exponent]
  refine if_neg fun hand => h ?_
  rw [Bool.and_eq_true] at hand
  exact ⟨hand.1, by simpa [exponentDigits] using hand.2⟩

/-- If the digits of an exponent end in the front of a text, it has the same sign and digits. -/
theorem exponentDigits_of_append (h : (sign (x ++ y)).length + (exponentDigits (x ++ y)).length ≤
    x.length) (hx : x ≠ []) :
    sign (x ++ y) = sign x ∧ exponentDigits (x ++ y) = exponentDigits x := by
  obtain ⟨c, cs, rfl⟩ := List.exists_cons_of_ne_nil hx
  have hsign : sign (c :: cs ++ y) = sign (c :: cs) := rfl
  have hle := length_sign_le (c :: cs)
  refine ⟨hsign, ?_⟩
  unfold exponentDigits at h ⊢
  rw [hsign, List.drop_append_of_le_length hle] at h ⊢
  refine (takeWhile_append_of_length_le ?_).1
  rw [List.length_drop]
  omega

theorem exponent_of_append (h : (exponent (x ++ y)).length ≤ x.length) :
    exponent (x ++ y) = exponent x := by
  cases x with
  | nil => exact List.eq_nil_of_length_eq_zero (Nat.le_zero.1 h)
  | cons c x =>
    rw [List.cons_append] at h ⊢
    by_cases hc : (c = 'e' || c = 'E') = true
    · by_cases hd : exponentDigits (x ++ y) = []
      · have hx : exponentDigits x = [] := by
          cases x with
          | nil => rfl
          | cons e x =>
            have hle := length_sign_le (e :: x)
            rw [← (exponentDigits_of_append (by rw [hd]; exact hle) (List.cons_ne_nil e x)).2, hd]
        rw [exponent_cons_of_not fun hand => hand.2 hd, exponent_cons_of_not fun hand => hand.2 hx]
      · rw [exponent_cons_of_digits hc hd] at h ⊢
        simp only [List.cons_append, List.length_cons, List.length_append] at h
        have hpos := List.length_pos_iff.2 hd
        have hx : x ≠ [] := List.length_pos_iff.1 (by omega)
        obtain ⟨hs, he⟩ := exponentDigits_of_append (y := y) (by omega) hx
        rw [he] at hd
        rw [exponent_cons_of_digits hc hd, hs, he]
    · rw [exponent_cons_of_not fun hand => hc hand.1, exponent_cons_of_not fun hand => hc hand.1]

/-- A number that ends in the front of a text is read from the front. -/
theorem numberText_of_append (h : (numberText (x ++ y)).length ≤ x.length) :
    numberText (x ++ y) = numberText x := by
  have hwhole : ((x ++ y).takeWhile Char.isDigit).length ≤ x.length := by
    refine Nat.le_trans ?_ h
    unfold numberText
    split
    · rw [List.append_assoc, List.length_append]
      exact Nat.le_add_right _ _
    · exact Nat.le_refl _
  obtain ⟨ht, hd⟩ := takeWhile_append_of_length_le hwhole
  have hx : (x.takeWhile Char.isDigit).length + (x.dropWhile Char.isDigit).length = x.length := by
    rw [← List.length_append, List.takeWhile_append_dropWhile]
  unfold numberText at h ⊢
  rw [ht, hd] at h ⊢
  -- the digits end in the front; what follows them is there as well, or is no point
  cases hrest : x.dropWhile Char.isDigit with
  | nil =>
    rw [hrest] at h hx
    split at h
    · simp only [List.length_append, List.length_cons, List.length_nil] at h hx
      omega
    · rfl
  | cons c rest =>
    rw [hrest] at h hx
    by_cases hc : c = '.'
    · subst hc
      simp only [List.cons_append, List.length_append, List.length_cons] at h hx ⊢
      obtain ⟨hf, hg⟩ := takeWhile_append_of_length_le (p := Char.isDigit) (x := rest) (y := y)
        (by omega)
      have hr : (rest.takeWhile Char.isDigit).length + (rest.dropWhile Char.isDigit).length =
          rest.length := by
        rw [← List.length_append, List.takeWhile_append_dropWhile]
      rw [hf, hg] at h ⊢
      rw [exponent_of_append (by omega)]
    · split
      · next heq => cases heq; exact absurd rfl hc
      · split
        · next heq => cases heq; exact absurd rfl hc
        · rfl

theorem dollarRun_of_append (h : (dollarRun (x ++ y)).1.length ≤ x.length) :
    dollarRun (x ++ y) = ((dollarRun x).1, (dollarRun x).2 ++ y) := by
  induction x with
  | nil =>
    have hnil : (dollarRun y).1 = [] := List.eq_nil_of_length_eq_zero (Nat.le_zero.1 h)
    have hy := dollarRun_append y
    rw [hnil, List.nil_append] at hy
    exact Prod.ext hnil hy
  | cons c x ih =>
    rw [List.cons_append] at h ⊢
    rw [dollarRun] at h ⊢
    rw [dollarRun]
    split
    · rfl
    · next hw =>
      split
      · rfl
      · next hd =>
        rw [if_neg hw, if_neg hd] at h
        simp only [List.length_cons] at h
        rw [ih (by omega)]

/-! ## Rules -/

/-- What the rule reads from `x ++ y` it reads from `x` if it ends there. The rule is given the
text after the first `n` characters of the token. -/
def Local (n : Nat) (rule : List Char → Lexeme) : Prop :=
  ∀ x y, (rule (x ++ y)).text.length ≤ x.length + n → rule (x ++ y) = (rule x).followedBy y

theorem local_restOfLine (kind : TokenKind) : Local 0 (restOfLine kind) := by
  intro x y h
  obtain ⟨ht, hd⟩ := takeWhile_append_of_length_le h
  rw [restOfLine, restOfLine, ht, hd, Lexeme.followedBy]

theorem local_word (keywords : Keywords) : Local 0 (word keywords) := by
  intro x y h
  obtain ⟨ht, hd⟩ := takeWhile_append_of_length_le h
  rw [word, word, ht, hd, Lexeme.followedBy]

theorem local_number : Local 0 number := by
  intro x y h
  have ht := numberText_of_append h
  have hle : (numberText x).length ≤ x.length := by
    rw [← ht]
    exact h
  simp only [number, ht, Lexeme.followedBy, List.drop_append_of_le_length hle]

theorem local_quotedString : Local 1 quotedString := by
  intro x y h
  have hq := quotedBody_of_append (Nat.le_of_succ_le_succ h)
  simp only [quotedString, hq, Lexeme.followedBy]

/-- A comment without its closing takes the whole text, and so nothing follows its front. -/
theorem local_blockComment : Local 2 blockComment := by
  intro x y h
  have hp : ['*', '/'] ≠ [] := List.cons_ne_nil _ _
  unfold blockComment at h ⊢
  cases hc : cutAt? ['*', '/'] (x ++ y) with
  | some cut =>
    obtain ⟨inner, rest⟩ := cut
    rw [hc] at h
    simp only [List.cons_append, List.length_cons, List.length_append, List.length_nil] at h
    obtain ⟨rest, rfl, hx⟩ := cutAt?_of_append hp hc (by simpa using h)
    rw [hx]
    rfl
  | none =>
    rw [hc] at h
    simp only [List.length_cons, List.length_append] at h
    obtain rfl : y = [] := List.eq_nil_of_length_eq_zero (by omega)
    rw [cutAt?_eq_none_of_append hp hc, List.append_nil]
    rfl

theorem local_bracketed : Local 1 bracketed := by
  intro x y h
  simp only [bracketed, List.cons_append, List.length_cons, List.length_append] at h
  obtain ⟨ht, hd⟩ := takeWhile_append_of_length_le (p := (· ≠ ']')) (x := x) (y := y) (by omega)
  have hx : (x.takeWhile (· ≠ ']')).length + (x.dropWhile (· ≠ ']')).length = x.length := by
    rw [← List.length_append, List.takeWhile_append_dropWhile]
  rw [ht, hd] at h
  simp only [bracketed, ht, hd, Lexeme.followedBy]
  cases hrest : x.dropWhile (· ≠ ']') with
  | nil =>
    rw [hrest] at h hx
    rw [List.nil_append, List.length_take] at h
    rw [List.length_nil] at hx
    obtain rfl : y = [] := List.eq_nil_of_length_eq_zero (by omega)
    rfl
  | cons c rest => rfl

/-- The tag of a string is searched for to the end of the text. If it is not found there it is not
found in the front either, and if it is found the string ends behind it. -/
theorem local_dollar : Local 1 dollar := by
  intro x y h
  have hrun : (dollarRun (x ++ y)).1.length ≤ x.length := by
    refine Nat.le_of_succ_le_succ (Nat.le_trans ?_ h)
    unfold dollar
    dsimp only
    repeat' split
    all_goals simp only [List.length_cons, List.length_append, Nat.le_refl]
    omega
  have hd := dollarRun_of_append hrun
  have hx := congrArg List.length (dollarRun_append x)
  rw [List.length_append] at hx
  unfold dollar at h ⊢
  rw [hd] at h ⊢
  dsimp only at h ⊢
  by_cases hlast : (dollarRun x).1.getLast? = some '$'
  · rw [if_pos hlast] at h ⊢
    rw [if_pos hlast]
    have hp : '$' :: (dollarRun x).1 ≠ [] := List.cons_ne_nil _ _
    cases hc : cutAt? ('$' :: (dollarRun x).1) ((dollarRun x).2 ++ y) with
    | some cut =>
      obtain ⟨body, after⟩ := cut
      rw [hc] at h
      simp only [List.cons_append, List.length_cons, List.length_append] at h
      obtain ⟨rest, rfl, hcut⟩ :=
        cutAt?_of_append hp hc (by simp only [List.length_cons]; omega)
      rw [hcut]
      rfl
    | none =>
      rw [cutAt?_eq_none_of_append hp hc]
      rfl
  · rw [if_neg hlast, if_neg hlast]
    rfl

/-! ## The choice of a rule -/

theorem two_le_length_blockComment (cs : List Char) : 2 ≤ (blockComment cs).text.length := by
  unfold blockComment
  split
  · simp
  · simp

/-- The second character of a comment is in the front, or else the comment is longer than it. -/
theorem symbol_of_append {c : Char} {l : Lexeme} (h : symbol c (x ++ y) = .lexeme l)
    (hl : l.text.length ≤ x.length + 1) :
    ∃ m, symbol c x = .lexeme m ∧ l = m.followedBy y := by
  unfold symbol at h ⊢
  cases x with
  | nil =>
    rw [List.nil_append] at h
    rw [List.length_nil] at hl
    split at h
    · next hc =>
      cases h
      obtain ⟨rfl, hy⟩ : c = '-' ∧ y.head? = some '-' := by simpa using hc
      obtain ⟨cs, rfl⟩ := List.head?_eq_some_iff.1 hy
      simp [restOfLine, isLineBreak] at hl
    · split at h
      · cases h
        have := two_le_length_blockComment y.tail
        omega
      · split at h
        · next p hp =>
          cases h
          refine ⟨⟨.punctuation p, [c], []⟩, ?_, rfl⟩
          simp
        · cases h
  | cons e x =>
    rw [List.cons_append, List.head?_cons, List.tail_cons] at h
    rw [List.head?_cons, List.tail_cons]
    by_cases hm : (decide (c = '-') && decide (some e = some '-')) = true
    · rw [if_pos hm] at h ⊢
      cases h
      exact ⟨_, rfl, local_restOfLine _ (c :: e :: x) y hl⟩
    rw [if_neg hm] at h ⊢
    by_cases hs : (decide (c = '/') && decide (some e = some '*')) = true
    · rw [if_pos hs] at h ⊢
      cases h
      exact ⟨_, rfl, local_blockComment x y hl⟩
    rw [if_neg hs] at h ⊢
    cases hp : Punctuation.ofChar? c with
    | some p =>
      rw [hp] at h
      cases h
      exact ⟨_, rfl, rfl⟩
    | none =>
      rw [hp] at h
      cases h

/-- A token that ends in the front of a text is read from the front. -/
theorem step_of_append {k : Keywords} {l : Lexeme} (h : step k (x ++ y) = .lexeme l)
    (hl : l.text.length ≤ x.length) :
    ∃ m, step k x = .lexeme m ∧ l = m.followedBy y := by
  cases x with
  | nil =>
    have := List.length_pos_iff.2 (reads_step h).ne_nil
    rw [List.length_nil] at hl
    omega
  | cons c x =>
    rw [List.cons_append, step] at h
    rw [step]
    by_cases hblank : isBlank c = true
    · rw [if_pos hblank] at h
      cases h
    rw [if_neg hblank] at h ⊢
    by_cases hbreak : isLineBreak c = true
    · rw [if_pos hbreak] at h ⊢
      cases h
      exact ⟨_, rfl, rfl⟩
    rw [if_neg hbreak] at h ⊢
    by_cases hmeta : c = '\\'
    · rw [if_pos hmeta] at h ⊢
      cases h
      exact ⟨_, rfl, local_restOfLine _ (c :: x) y hl⟩
    rw [if_neg hmeta] at h ⊢
    by_cases hquote : c = '\''
    · rw [if_pos hquote] at h ⊢
      cases h
      exact ⟨_, rfl, local_quotedString x y hl⟩
    rw [if_neg hquote] at h ⊢
    by_cases hdigit : c.isDigit = true
    · rw [if_pos hdigit] at h ⊢
      cases h
      exact ⟨_, rfl, local_number (c :: x) y hl⟩
    rw [if_neg hdigit] at h ⊢
    by_cases hword : isWordChar c = true
    · rw [if_pos hword] at h ⊢
      cases h
      exact ⟨_, rfl, local_word k (c :: x) y hl⟩
    rw [if_neg hword] at h ⊢
    by_cases hdollar : c = '$'
    · rw [if_pos hdollar] at h ⊢
      cases h
      exact ⟨_, rfl, local_dollar x y hl⟩
    rw [if_neg hdollar] at h ⊢
    by_cases hbracket : c = '['
    · rw [if_pos hbracket] at h ⊢
      cases h
      exact ⟨_, rfl, local_bracketed x y hl⟩
    rw [if_neg hbracket] at h ⊢
    exact symbol_of_append h hl

theorem step_blank_of_append {k : Keywords} {rest : List Char}
    (h : step k (x ++ y) = .blank rest) (hx : x ≠ []) :
    ∃ b front, x = b :: front ∧ rest = front ++ y ∧ step k x = .blank front := by
  obtain ⟨c, front, rfl⟩ := List.exists_cons_of_ne_nil hx
  obtain ⟨b, hb, heq⟩ := step_blank h
  rw [List.cons_append] at heq
  cases heq
  refine ⟨c, front, rfl, rfl, ?_⟩
  rw [step, if_pos hb]

end Scan

end SqlBuffer
