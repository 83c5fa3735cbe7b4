import Mathlib.Data.List.Basic
import SqlBuffer.Proofs.Extent
import SqlBuffer.Proofs.RuleChoice
import SqlBuffer.Proofs.Tiling

/-
  The forms of tokens.
  What a token covers follows from its kind, for commands, comments, line breaks and punctuation,
  and from its first character, for words and for identifiers in brackets. `Prescribed` collects
  what the rules say; every token that a scanner answers satisfies it.
-/

namespace SqlBuffer.Scan

/-- From the opening through the first closing behind it, or to the end of the text. -/
inductive BlockComment : List Char → List Char → Prop
  | closed {inner : List Char} (rest : List Char) (h : FirstOccurrence ['*', '/'] inner) :
      BlockComment ('/' :: '*' :: (inner ++ ['*', '/'])) rest
  | unclosed {inner : List Char} (h : ¬ ['*', '/'] <:+: inner) :
      BlockComment ('/' :: '*' :: inner) []

/-- From the opening bracket through the first closing one, or to the end of the text. -/
inductive Bracketed : List Char → List Char → Prop
  | closed {inner : List Char} (rest : List Char) (h : ']' ∉ inner) :
      Bracketed ('[' :: (inner ++ [']'])) rest
  | unclosed {inner : List Char} (h : ']' ∉ inner) : Bracketed ('[' :: inner) []

/-- What the rules say of a token by its kind, its text and what follows. -/
structure Prescribed (k : Keywords) (kind : TokenKind) (text rest : List Char) : Prop where
  metaCommand : kind = .metaCommand →
    text.head? = some '\\' ∧ MaximalRun (!isLineBreak ·) text rest
  comment : kind = .comment →
    ['-', '-'] <+: text ∧ MaximalRun (!isLineBreak ·) text rest ∨ BlockComment text rest
  bracketed : text.head? = some '[' →
    kind = .identifier (String.ofList text) ∧ Bracketed text rest
  word : ∀ c, text.head? = some c → isWordChar c = true → c.isDigit = false →
    MaximalRun isWordChar text rest ∧
      (∀ spelling, k.spelling? (String.ofList text) = some spelling → kind = .keyword spelling) ∧
      (k.spelling? (String.ofList text) = none → kind = .identifier (String.ofList text))
  newLine : kind = .newLine → ∃ c, text = [c] ∧ isLineBreak c = true
  punctuation : ∀ p, kind = .punctuation p →
    text = [p.symbol] ∧ p ≠ .underscore ∧ (p = .minus → rest.head? ≠ some '-') ∧
      (p = .slash → rest.head? ≠ some '*')
  /-- No rule reads an identifier of this kind: a word may begin with the sign like any other. -/
  ne_atIdentifier : ∀ v, kind ≠ .atIdentifier v

/-! ## By kind -/

/-- A token by its kind, with a case for each rule that the kind tells. -/
inductive KindForm : TokenKind → List Char → List Char → Prop
  | endOfText (rest : List Char) : KindForm .endOfText [] rest
  | newLine {c : Char} (rest : List Char) (h : isLineBreak c = true) : KindForm .newLine [c] rest
  | metaCommand {text rest : List Char} (hs : text.head? = some '\\')
      (h : MaximalRun (!isLineBreak ·) text rest) : KindForm .metaCommand text rest
  | lineComment {text rest : List Char} (hs : ['-', '-'] <+: text)
      (h : MaximalRun (!isLineBreak ·) text rest) : KindForm .comment text rest
  | blockComment {text rest : List Char} (h : BlockComment text rest) : KindForm .comment text rest
  | punctuation {p : Punctuation} {rest : List Char} (hw : p ≠ .underscore)
      (hl : p = .minus → rest.head? ≠ some '-') (hb : p = .slash → rest.head? ≠ some '*') :
      KindForm (.punctuation p) [p.symbol] rest
  | string (value : String) (text rest : List Char) : KindForm (.string value) text rest
  | identifier (value : String) (text rest : List Char) : KindForm (.identifier value) text rest
  | number (value : String) (text rest : List Char) : KindForm (.number value) text rest
  | keyword (value : String) (text rest : List Char) : KindForm (.keyword value) text rest

theorem blockComment_blockComment (cs : List Char) :
    BlockComment (blockComment cs).text (blockComment cs).rest := by
  unfold blockComment
  split
  · next inner rest h => exact .closed rest (cutAt?_eq_some_iff.1 h).2
  · next h => exact .unclosed (cutAt?_eq_none_iff.1 h)

theorem kindForm_step {k : Keywords} {cs : List Char} {l : Lexeme} (h : step k cs = .lexeme l) :
    KindForm l.kind l.text l.rest := by
  cases choice_of_step h with
  | newLine cs hl => exact .newLine cs hl
  | metaCommand cs => exact .metaCommand rfl (maximalRun_takeWhile _ _)
  | quotedString cs => exact .string _ _ _
  | number cs => exact .number _ _ _
  | word cs =>
    obtain ⟨s, hs⟩ | ⟨s, hs⟩ := kind_word k _
    · rw [hs]
      exact .keyword _ _ _
    · rw [hs]
      exact .identifier _ _ _
  | dollar cs =>
    obtain ⟨s, hs⟩ | ⟨s, hs⟩ := kind_dollar cs
    · rw [hs]
      exact .string _ _ _
    · rw [hs]
      exact .identifier _ _ _
  | bracketed cs => exact .identifier _ _ _
  | lineComment cs =>
    refine .lineComment ?_ (maximalRun_takeWhile _ _)
    exact ⟨cs.takeWhile (!isLineBreak ·), rfl⟩
  | blockComment cs =>
    rw [kind_blockComment]
    exact .blockComment (blockComment_blockComment cs)
  | punctuation cs hw hl hb =>
    refine .punctuation ?_ (fun hp hs => hl ⟨hp, hs⟩) (fun hp hs => hb ⟨hp, hs⟩)
    rintro rfl
    cases hw

/-! ## By the first character -/

section First

variable {k : Keywords} {c : Char} {cs : List Char} {l : Lexeme}

theorem bracketed_bracketed (cs : List Char) :
    Bracketed (bracketed cs).text (bracketed cs).rest := by
  obtain ⟨hinner, hstop⟩ := maximalRun_takeWhile (· ≠ ']') cs
  have hmem : ']' ∉ cs.takeWhile (· ≠ ']') := by
    intro h
    simpa using hinner _ h
  unfold bracketed
  cases hrest : cs.dropWhile (· ≠ ']') with
  | nil =>
    have := Bracketed.unclosed hmem
    simpa using this
  | cons c rest =>
    obtain rfl : c = ']' := by
      rw [hrest] at hstop
      simpa using hstop c rfl
    exact .closed rest hmem

theorem bracketed_step (h : step k ('[' :: cs) = .lexeme l) :
    l.kind = .identifier (String.ofList l.text) ∧ Bracketed l.text l.rest := by
  have hstep : step k ('[' :: cs) = .lexeme (bracketed cs) := rfl
  rw [hstep] at h
  cases h
  exact ⟨rfl, bracketed_bracketed cs⟩

theorem isWordChar_of_isLineBreak (h : isLineBreak c = true) : isWordChar c = false := by
  simp only [isLineBreak, Bool.or_eq_true, beq_iff_eq] at h
  rcases h with ((((rfl | rfl) | rfl) | rfl) | rfl) | rfl <;> decide +kernel

theorem eq_word_of_step (h : step k (c :: cs) = .lexeme l) (hw : isWordChar c = true)
    (hd : c.isDigit = false) : l = word k (c :: cs) := by
  cases choice_of_step h with
  | word cs => rfl
  | newLine cs hl =>
    rw [isWordChar_of_isLineBreak hl] at hw
    cases hw
  | number cs hdigit =>
    rw [hdigit] at hd
    cases hd
  | punctuation cs hsymbol =>
    rw [hsymbol] at hw
    cases hw
  | _ => cases hw

theorem word_step (h : step k (c :: cs) = .lexeme l) (hw : isWordChar c = true)
    (hd : c.isDigit = false) :
    MaximalRun isWordChar l.text l.rest ∧
      (∀ spelling, k.spelling? (String.ofList l.text) = some spelling →
        l.kind = .keyword spelling) ∧
      (k.spelling? (String.ofList l.text) = none →
        l.kind = .identifier (String.ofList l.text)) := by
  obtain rfl := eq_word_of_step h hw hd
  refine ⟨maximalRun_takeWhile _ _, ?_, ?_⟩
  · intro spelling hs
    unfold word at hs ⊢
    simp only [hs]
  · intro hs
    unfold word at hs ⊢
    simp only [hs]

end First

/-! ## Tokens of a scan -/

section Tokens

variable {k : Keywords} {kind : TokenKind} {text rest : List Char}

/-- What the kind tells, and what the first character tells, is all that the rules say. -/
theorem KindForm.prescribed (h : KindForm kind text rest)
    (hb : text.head? = some '[' → kind = .identifier (String.ofList text) ∧ Bracketed text rest)
    (hw : ∀ c, text.head? = some c → isWordChar c = true → c.isDigit = false →
      MaximalRun isWordChar text rest ∧
        (∀ spelling, k.spelling? (String.ofList text) = some spelling → kind = .keyword spelling) ∧
        (k.spelling? (String.ofList text) = none → kind = .identifier (String.ofList text))) :
    Prescribed k kind text rest where
  bracketed := hb
  word := hw
  metaCommand := by
    intro hk
    subst hk
    cases h with
    | metaCommand hs hrun => exact ⟨hs, hrun⟩
  comment := by
    intro hk
    subst hk
    cases h with
    | lineComment hs hrun => exact Or.inl ⟨hs, hrun⟩
    | blockComment hcomment => exact Or.inr hcomment
  newLine := by
    intro hk
    subst hk
    cases h with
    | newLine rest hl => exact ⟨_, rfl, hl⟩
  punctuation := by
    intro p hk
    subst hk
    cases h with
    | punctuation hp hl hs => exact ⟨rfl, hp, hl, hs⟩
  ne_atIdentifier := by
    intro v hk
    subst hk
    cases h

theorem prescribed_step {cs : List Char} {l : Lexeme} (h : step k cs = .lexeme l) :
    Prescribed k l.kind l.text l.rest := by
  apply (kindForm_step h).prescribed
  · intro hs
    obtain ⟨tail, rfl⟩ := (reads_step h).exists_cons hs
    exact bracketed_step h
  · intro c hs hw hd
    obtain ⟨tail, rfl⟩ := (reads_step h).exists_cons hs
    exact word_step h hw hd

end Tokens

/-- Every token that a scanner answers is as the rules say. -/
theorem prescribed_results (o : ScanOptions) (source : List Char) (n : Nat) (t : ScannedToken)
    (h : .ok t ∈ results o n (.start source)) :
    let place := t.location source
    Prescribed o.keywords t.kind place.text place.rest := by
  intro place
  rcases step_of_mem_results h with rfl | hs
  · have htext : place.text = [] := by
      rw [(coherent_endToken source).text_eq]
      simp [Span.slice, ScannedToken.location, endToken]
    rw [htext]
    exact (KindForm.endOfText _).prescribed (by simp) (by simp)
  · exact prescribed_step hs

/-- The comment does not close itself with the star that opens it, nor does the minus behind it
begin a comment. -/
theorem prescribed_results_comment :
    let o : ScanOptions := ⟨.empty, false, true⟩
    let source := ['/', '*', '/', '*', '/', '-', '*', '/']
    .ok ⟨⟨.comment, ⟨0, 5⟩⟩, ⟨0, 5⟩⟩ ∈ results o 1 (.start source) ∧
      Prescribed .empty .comment ['/', '*', '/', '*', '/'] ['-', '*', '/'] ∧
      .ok ⟨⟨.punctuation .minus, ⟨5, 6⟩⟩, ⟨5, 6⟩⟩ ∈ results o 2 (.start source) ∧
      Prescribed .empty (.punctuation .minus) ['-'] ['*', '/'] := by
  intro o source
  have hcomment : .ok ⟨⟨.comment, ⟨0, 5⟩⟩, ⟨0, 5⟩⟩ ∈ results o 1 (.start source) := by
    decide +kernel
  have hminus : .ok ⟨⟨.punctuation .minus, ⟨5, 6⟩⟩, ⟨5, 6⟩⟩ ∈ results o 2 (.start source) := by
    decide +kernel
  exact ⟨hcomment, prescribed_results o source 1 _ hcomment, hminus,
    prescribed_results o source 2 _ hminus⟩

end SqlBuffer.Scan
