import Mathlib.Computability.Language
import SqlBuffer.Proofs.RuleCut
import SqlBuffer.Proofs.Tiling

/-
  Numbers by their grammar.
  `numbers` is the language D+ ('.' D* ([eE] [+-]? D+)?)?, with D the digits. The rule for numbers
  reads the longest front of a text that belongs to it. Each part of the grammar begins with a
  character that cannot go on the part before it, and so the longest front is put together from the
  longest fronts of the parts; only an exponent without digits is left out as a whole.
-/

open Computability

/-- Sets of texts. Within the project the name `Language` is taken by that of a document. -/
private abbrev TextLanguage :=
  Language Char

namespace SqlBuffer.Scan

/-! ## Longest fronts -/

/-- The texts of one character that passes the test. -/
def oneOf (p : Char → Bool) : TextLanguage :=
  {w | ∃ c, p c = true ∧ w = [c]}

/-- The longest front of a text that belongs to a language. -/
structure Longest (L : TextLanguage) (cs w : List Char) : Prop where
  mem : w ∈ L
  front : w <+: cs
  longest : ∀ u ∈ L, u <+: cs → u.length ≤ w.length

theorem singleton_mem_oneOf {p : Char → Bool} {c : Char} (h : p c = true) : [c] ∈ oneOf p :=
  ⟨c, h, rfl⟩

/-- A text that is not left out begins with a character of the first part. -/
theorem start_of_mem_oneOf_mul {p : Char → Bool} {L : TextLanguage} {c : Char} {v : List Char}
    (h : c :: v ∈ 1 + oneOf p * L) : p c = true := by
  rcases (Language.mem_add _ _ _).1 h with h | h
  · simp at h
  · obtain ⟨_, ⟨d, hd, rfl⟩, u, -, heq⟩ := Language.mem_mul.1 h
    rw [← (List.cons.inj heq).1]
    exact hd

theorem mem_kstar_oneOf {p : Char → Bool} {w : List Char} :
    w ∈ (oneOf p)∗ ↔ ∀ c ∈ w, p c = true := by
  constructor
  · intro h c hc
    obtain ⟨parts, rfl, hparts⟩ := Language.mem_kstar.1 h
    obtain ⟨part, hpart, hmem⟩ := List.mem_flatten.1 hc
    obtain ⟨d, hd, rfl⟩ := hparts part hpart
    rw [List.mem_singleton.1 hmem]
    exact hd
  · intro h
    have hw : w = (w.map fun c => [c]).flatten := by simp [← List.flatMap_def]
    rw [hw]
    apply Language.join_mem_kstar
    intro part hpart
    obtain ⟨c, hc, rfl⟩ := List.mem_map.1 hpart
    exact ⟨c, h c hc, rfl⟩

namespace Longest

variable {p : Char → Bool} {L : TextLanguage} {cs w : List Char}

/-- Before the front stands one character. -/
theorem cons {c : Char} (hc : p c = true) (h : Longest L cs w) :
    Longest (oneOf p * L) (c :: cs) (c :: w) := by
  refine ⟨?_, List.cons_prefix_cons.2 ⟨rfl, h.front⟩, ?_⟩
  · exact Language.append_mem_mul (singleton_mem_oneOf hc) h.mem
  · intro u hu hfront
    obtain ⟨_, ⟨d, -, rfl⟩, v, hv, rfl⟩ := Language.mem_mul.1 hu
    have := h.longest v hv (List.cons_prefix_cons.1 hfront).2
    simpa using this

/-- Before the front stands a run, as long as it can be. -/
theorem run (hstart : ∀ c v, c :: v ∈ L → p c = false) (h : Longest L (cs.dropWhile p) w) :
    Longest ((oneOf p)∗ * L) cs (cs.takeWhile p ++ w) := by
  refine ⟨Language.append_mem_mul ?_ h.mem, ?_, ?_⟩
  · exact mem_kstar_oneOf.2 (List.all_eq_true.1 List.all_takeWhile)
  · have := (List.prefix_append_right_inj (cs.takeWhile p)).2 h.front
    rwa [List.takeWhile_append_dropWhile] at this
  · rintro u hu ⟨after, rfl⟩
    obtain ⟨run, hrun, v, hv, rfl⟩ := Language.mem_mul.1 hu
    have hall := mem_kstar_oneOf.1 hrun
    rw [List.append_assoc, List.takeWhile_append_of_pos hall]
    cases v with
    | nil =>
      simp only [List.append_nil, List.length_append]
      omega
    | cons c v =>
      -- the run ends here, and so does the run that is taken
      have hc := hstart c v hv
      have hle := h.longest (c :: v) hv (by
        rw [List.append_assoc, List.dropWhile_append_of_pos hall]
        simp [hc])
      simp only [List.length_append]
      omega

theorem optional (h : Longest L cs w) : Longest (1 + L) cs w := by
  refine ⟨Or.inr h.mem, h.front, ?_⟩
  intro u hu hfront
  rcases hu with hu | hu
  · rw [(Language.mem_one u).1 hu]
    exact Nat.zero_le _
  · exact h.longest u hu hfront

theorem absent (h : ∀ u ∈ L, ¬ u <+: cs) : Longest (1 + L) cs [] := by
  refine ⟨Or.inl rfl, List.nil_prefix, ?_⟩
  intro u hu hfront
  rcases hu with hu | hu
  · rw [(Language.mem_one u).1 hu]
  · exact absurd hfront (h u hu)

end Longest

/-! ## The grammar -/

/-- `D` -/
def digit :=
  oneOf Char.isDigit

/-- `[+-]? D+` -/
def signedDigits :=
  (1 + oneOf fun c => c = '+' || c = '-') * (digit * digit∗)

/-- `[eE] [+-]? D+` -/
def exponents :=
  oneOf (fun c => c = 'e' || c = 'E') * signedDigits

/-- `'.' D* ([eE] [+-]? D+)?` -/
def fractions :=
  oneOf (fun c => c = '.') * (digit∗ * (1 + exponents))

/-- `D+ ('.' D* ([eE] [+-]? D+)?)?` -/
def numbers :=
  digit * (digit∗ * (1 + fractions))

/-! ## Exponents -/

section Exponent

variable {u cs : List Char}

theorem sign_of_isDigit {d : Char} (hd : d.isDigit = true) (cs : List Char) :
    sign (d :: cs) = [] := by
  have hplus : d ≠ '+' := by
    rintro rfl
    simp at hd
  have hminus : d ≠ '-' := by
    rintro rfl
    simp at hd
  simp [sign, hplus, hminus]

theorem sign_mem (cs : List Char) : sign cs ∈ 1 + oneOf fun c => c = '+' || c = '-' := by
  cases cs with
  | nil => exact Or.inl rfl
  | cons c cs =>
    by_cases hc : (c = '+' || c = '-') = true
    · have hsign : sign (c :: cs) = [c] := if_pos hc
      rw [hsign]
      exact Or.inr (singleton_mem_oneOf hc)
    · have hsign : sign (c :: cs) = [] := if_neg hc
      rw [hsign]
      exact Or.inl rfl

theorem digits_mem {ds : List Char} (hne : ds ≠ []) (hall : ∀ c ∈ ds, c.isDigit = true) :
    ds ∈ digit * digit∗ := by
  obtain ⟨d, more, rfl⟩ := List.exists_cons_of_ne_nil hne
  obtain ⟨hd, hmore⟩ := List.forall_mem_cons.1 hall
  exact Language.append_mem_mul (singleton_mem_oneOf hd) (mem_kstar_oneOf.2 hmore)

theorem exists_of_signedDigits (hu : u ∈ signedDigits) (hfront : u <+: cs) :
    ∃ ds, ds ≠ [] ∧ u = sign cs ++ ds ∧ ds <+: exponentDigits cs := by
  obtain ⟨s, hs, _, hds, rfl⟩ := Language.mem_mul.1 hu
  obtain ⟨_, ⟨d, hd, rfl⟩, more, hmore, rfl⟩ := Language.mem_mul.1 hds
  obtain ⟨after, rfl⟩ := hfront
  have hall : ∀ c ∈ [d] ++ more, c.isDigit = true :=
    List.forall_mem_cons.2 ⟨hd, mem_kstar_oneOf.1 hmore⟩
  have hsign : sign (s ++ ([d] ++ more) ++ after) = s := by
    rcases hs with hs | ⟨c, hc, rfl⟩
    · rw [(Language.mem_one s).1 hs]
      exact sign_of_isDigit hd (more ++ after)
    · exact if_pos hc
  refine ⟨[d] ++ more, by simp, by rw [hsign], ?_⟩
  unfold exponentDigits
  rw [hsign, List.append_assoc, List.drop_left, List.takeWhile_append_of_pos hall]
  exact List.prefix_append _ _

theorem longest_signedDigits (h : exponentDigits cs ≠ []) :
    Longest signedDigits cs (sign cs ++ exponentDigits cs) := by
  refine ⟨Language.append_mem_mul (sign_mem cs) (digits_mem h ?_), ?_, ?_⟩
  · exact List.all_eq_true.1 List.all_takeWhile
  · have := (List.prefix_append_right_inj (sign cs)).2
      (List.takeWhile_prefix (l := cs.drop (sign cs).length) Char.isDigit)
    rwa [sign_append] at this
  · intro u hu hfront
    obtain ⟨ds, -, rfl, hds⟩ := exists_of_signedDigits hu hfront
    have := hds.length_le
    simp only [List.length_append]
    omega

theorem exists_of_exponents (hu : u ∈ exponents) (hfront : u <+: cs) :
    ∃ c rest, cs = c :: rest ∧ (c = 'e' || c = 'E') = true ∧ exponentDigits rest ≠ [] := by
  obtain ⟨_, ⟨c, hc, rfl⟩, v, hv, rfl⟩ := Language.mem_mul.1 hu
  obtain ⟨after, rfl⟩ := hfront
  obtain ⟨ds, hne, -, hds⟩ := exists_of_signedDigits hv (List.prefix_append v after)
  refine ⟨c, v ++ after, rfl, hc, ?_⟩
  intro hnil
  rw [hnil] at hds
  exact hne (List.prefix_nil.1 hds)

/-- Without a digit behind the letter and the sign there is no exponent, not even a part of one. -/
theorem longest_exponent (cs : List Char) : Longest (1 + exponents) cs (exponent cs) := by
  cases cs with
  | nil =>
    apply Longest.absent
    intro u hu hfront
    obtain ⟨c, rest, hcs, -⟩ := exists_of_exponents hu hfront
    cases hcs
  | cons c cs =>
    by_cases h : (c = 'e' || c = 'E') = true ∧ exponentDigits cs ≠ []
    · rw [exponent_cons_of_digits h.1 h.2]
      exact (Longest.cons h.1 (longest_signedDigits h.2)).optional
    · rw [exponent_cons_of_not h]
      apply Longest.absent
      intro u hu hfront
      obtain ⟨d, rest, hcs, hd⟩ := exists_of_exponents hu hfront
      cases hcs
      exact h hd

end Exponent

/-! ## Fractions and numbers -/

/-- The fraction at the front of a text: the point, digits and an exponent. -/
def fraction : List Char → List Char
  | '.' :: cs => '.' :: (cs.takeWhile Char.isDigit ++ exponent (cs.dropWhile Char.isDigit))
  | _ => []

theorem numberText_eq (cs : List Char) :
    numberText cs = cs.takeWhile Char.isDigit ++ fraction (cs.dropWhile Char.isDigit) := by
  unfold numberText
  split
  · next rest h =>
    rw [h]
    simp [fraction]
  · next h =>
    unfold fraction
    split
    · next rest heq => exact absurd heq (h rest)
    · simp

theorem longest_fraction (cs : List Char) : Longest (1 + fractions) cs (fraction cs) := by
  have hstart : ∀ c v, c :: v ∈ 1 + exponents → c.isDigit = false := by
    intro c v h
    have hc : c = 'e' ∨ c = 'E' := by simpa using start_of_mem_oneOf_mul h
    rcases hc with rfl | rfl <;> rfl
  unfold fraction
  split
  · next cs => exact (Longest.cons rfl (.run hstart (longest_exponent _))).optional
  · next h =>
    apply Longest.absent
    rintro u hu ⟨after, rfl⟩
    obtain ⟨_, ⟨c, hc, rfl⟩, v, -, rfl⟩ := Language.mem_mul.1 hu
    obtain rfl : c = '.' := by simpa using hc
    exact h _ rfl

/-- At a digit the rule reads the longest number. -/
theorem longest_numberText {d : Char} (hd : d.isDigit = true) (cs : List Char) :
    Longest numbers (d :: cs) (numberText (d :: cs)) := by
  have hstart : ∀ c v, c :: v ∈ 1 + fractions → c.isDigit = false := by
    intro c v h
    obtain rfl : c = '.' := by simpa using start_of_mem_oneOf_mul h
    rfl
  rw [numberText_eq, List.takeWhile_cons_of_pos hd, List.dropWhile_cons_of_pos hd]
  exact .cons hd (.run hstart (longest_fraction _))

/-! ## Tokens -/

theorem isWhiteSpace_of_isLineBreak {c : Char} (h : isLineBreak c = true) :
    isWhiteSpace c = true := by
  simp only [isLineBreak, Bool.or_eq_true, beq_iff_eq] at h
  rcases h with ((((rfl | rfl) | rfl) | rfl) | rfl) | rfl <;> rfl

theorem isWhiteSpace_of_isDigit {d : Char} (h : d.isDigit = true) : isWhiteSpace d = false := by
  have hcode : 48 ≤ d.toNat ∧ d.toNat ≤ 57 := by
    simpa [Char.isDigit, UInt32.le_iff_toNat_le] using h
  simp only [isWhiteSpace, Bool.or_eq_false_iff, Bool.and_eq_false_imp, decide_eq_true_eq,
    decide_eq_false_iff_not, beq_eq_false_iff_ne, ne_eq]
  omega

theorem step_digit (k : Keywords) {d : Char} (hd : d.isDigit = true) (cs : List Char) :
    step k (d :: cs) = .lexeme (number (d :: cs)) := by
  have hne {c : Char} (hc : c.isDigit = false) : d ≠ c := by
    rintro rfl
    rw [hc] at hd
    cases hd
  have hwhite := isWhiteSpace_of_isDigit hd
  have hbreak : isLineBreak d = false := by
    apply Bool.eq_false_iff.2
    intro h
    rw [isWhiteSpace_of_isLineBreak h] at hwhite
    cases hwhite
  have hblank : isBlank d = false := by simp [isBlank, hwhite, hne (c := '\r') rfl]
  simp [step, hblank, hbreak, hd, hne (c := '\\') rfl, hne (c := '\'') rfl]

/-- At a place where a digit stands the next token is the longest number there. And every token that
starts with a digit is the longest number at its place. -/
theorem number_longest (o : ScanOptions) :
    (∀ (c : Cursor) (d : Char), c.rest.head? = some d → d.isDigit = true →
      ∃ text, Longest numbers c.rest text ∧
        next o c =
          .token ⟨⟨.number (String.ofList text), ⟨c.position, c.position + text.length⟩⟩,
              ⟨c.bytes, c.bytes + utf8Length text⟩⟩
            ⟨c.position + text.length, c.bytes + utf8Length text, c.rest.drop text.length⟩) ∧
    ∀ (source : List Char) (n : Nat) (t : ScannedToken), .ok t ∈ results o n (.start source) →
      let place := t.location source
      ∀ d, place.text.head? = some d → d.isDigit = true →
        t.kind = .number (String.ofList place.text) ∧
          Longest numbers (source.drop t.span.start) place.text := by
  constructor
  · intro c d hfirst hd
    obtain ⟨cs, hcs⟩ := List.head?_eq_some_iff.1 hfirst
    have hstep := step_digit o.keywords hd cs
    rw [← hcs] at hstep
    refine ⟨numberText c.rest, ?_, next_of_lexeme hstep⟩
    rw [hcs]
    exact longest_numberText hd cs
  · intro source n t ht place d hfirst hd
    obtain ⟨cs, hcs, hs⟩ := exists_step_of_mem_results ht hfirst
    rw [step_digit o.keywords hd] at hs
    obtain ⟨hkind, htext, -⟩ := Lexeme.mk.inj (Step.lexeme.inj hs)
    have hlongest := longest_numberText hd cs
    rw [htext] at hkind hlongest
    rw [hcs]
    exact ⟨hkind.symm, hlongest⟩

/-- A letter and a sign are left to the tokens that follow if no digit stands behind them. -/
theorem number_longest_exponent :
    let o : ScanOptions := ⟨.empty, false, false⟩
    let source := ['1', '.', '5', 'e', '+', 'x']
    (∃ text, Longest numbers source text ∧
      next o (.start source) =
        .token ⟨⟨.number (String.ofList text), ⟨0, 0 + text.length⟩⟩, ⟨0, 0 + utf8Length text⟩⟩
          ⟨0 + text.length, 0 + utf8Length text, source.drop text.length⟩) ∧
      .ok ⟨⟨.number "1.5", ⟨0, 3⟩⟩, ⟨0, 3⟩⟩ ∈ results o 1 (.start source) ∧
      Longest numbers source ['1', '.', '5'] := by
  intro o source
  have ht : .ok ⟨⟨.number "1.5", ⟨0, 3⟩⟩, ⟨0, 3⟩⟩ ∈ results o 1 (.start source) := by
    decide +kernel
  obtain ⟨hnext, hplace⟩ := number_longest o
  exact ⟨hnext (.start source) '1' rfl rfl, ht, (hplace source 1 _ ht '1' rfl rfl).2⟩

end SqlBuffer.Scan
