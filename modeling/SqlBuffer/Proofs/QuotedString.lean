import Mathlib.Data.List.Basic
import SqlBuffer.Proofs.RuleCut
import SqlBuffer.Proofs.Tiling

/-
  Quoted strings.
  A string is written between quotes with each of its own quotes doubled. Reading takes the doubling
  back: what is written is read, and what is read was written so, but for a string without its
  closing quote, which a line break or the end of the text ends. `QuotedForm` has the two cases.
-/

namespace SqlBuffer.Scan

/-- The text with each quote doubled. -/
def doubleQuotes (value : List Char) : List Char :=
  value.flatMap fun c => if c = '\'' then ['\'', '\''] else [c]

theorem doubleQuotes_cons (c : Char) (value : List Char) :
    doubleQuotes (c :: value) = doubleQuotes [c] ++ doubleQuotes value := by
  simp [doubleQuotes]

theorem doubleQuotes_of_ne {c : Char} (h : c ≠ '\'') : doubleQuotes [c] = [c] := by
  simp [doubleQuotes, h]

/-- The value of a string, its text after the opening quote, and what follows. -/
inductive QuotedForm : List Char → List Char → List Char → Prop
  | closed {value rest : List Char} (hv : ∀ c ∈ value, isLineBreak c = false)
      (hr : rest.head? ≠ some '\'') : QuotedForm value (doubleQuotes value ++ ['\'']) rest
  /-- Without a closing quote the string goes to the end of its line. -/
  | unclosed {value rest : List Char} (hv : ∀ c ∈ value, isLineBreak c = false)
      (hr : ∀ c, rest.head? = some c → isLineBreak c = true) :
      QuotedForm value (doubleQuotes value) rest

theorem QuotedForm.cons {c : Char} {value text rest : List Char} (h : QuotedForm value text rest)
    (hb : isLineBreak c = false) : QuotedForm (c :: value) (doubleQuotes [c] ++ text) rest := by
  have hcons (hv : ∀ d ∈ value, isLineBreak d = false) : ∀ d ∈ c :: value, isLineBreak d = false :=
    List.forall_mem_cons.2 ⟨hb, hv⟩
  cases h with
  | closed hv hr =>
    rw [← List.append_assoc, ← doubleQuotes_cons]
    exact .closed (hcons hv) hr
  | unclosed hv hr =>
    rw [← doubleQuotes_cons]
    exact .unclosed (hcons hv) hr

/-- What the rule reads behind the opening quote is of one of the two forms. The induction is the
reader's own: it takes two quotes at a time, or one other character. -/
theorem quotedForm_quotedBody (cs : List Char) :
    QuotedForm (quotedBody cs).1 (quotedBody cs).2.1 (quotedBody cs).2.2 := by
  fun_induction quotedBody cs with
  | case1 => exact .unclosed (by simp) (by simp)
  | case2 cs value text rest hq ih =>
    rw [hq] at ih
    exact ih.cons rfl
  | case3 c cs _ hb => exact .unclosed (by simp) (by simpa using hb)
  | case4 cs hsecond _ =>
    refine .closed (by simp) fun hr => ?_
    obtain ⟨after, rfl⟩ := List.head?_eq_some_iff.1 hr
    exact hsecond after rfl rfl
  | case5 c cs _ hb hc value text rest hq ih =>
    rw [hq] at ih
    have hform := ih.cons (Bool.eq_false_iff.2 hb)
    rw [doubleQuotes_of_ne hc] at hform
    exact hform

theorem quotedBody_doubleQuotes {value rest : List Char} (hv : ∀ c ∈ value, isLineBreak c = false)
    (hr : rest.head? ≠ some '\'') :
    quotedBody (doubleQuotes value ++ '\'' :: rest) =
      (value, doubleQuotes value ++ ['\''], rest) := by
  induction value with
  | nil => exact quotedBody_quote hr
  | cons c value ih =>
    obtain ⟨hb, htail⟩ := List.forall_mem_cons.1 hv
    rw [doubleQuotes_cons, List.append_assoc]
    by_cases hc : c = '\''
    · subst hc
      show quotedBody ('\'' :: '\'' :: (doubleQuotes value ++ '\'' :: rest)) = _
      rw [quotedBody_quotes, ih htail]
      rfl
    · rw [doubleQuotes_of_ne hc]
      show quotedBody (c :: (doubleQuotes value ++ '\'' :: rest)) = _
      rw [quotedBody_other (by simp [hb]) hc, ih htail]
      rfl

theorem step_quote (k : Keywords) (cs : List Char) :
    step k ('\'' :: cs) = .lexeme (quotedString cs) :=
  rfl

/-- A value without line breaks that is written between quotes, with its own quotes doubled, is read
back if no further quote follows. And every token that starts with a quote is a string, which was
written so or lacks only its closing quote at the end of its line. -/
theorem quoting_exact (o : ScanOptions) :
    (∀ (p b : Nat) (value rest : List Char), (∀ c ∈ value, isLineBreak c = false) →
      rest.head? ≠ some '\'' →
      let text := '\'' :: (doubleQuotes value ++ ['\''])
      next o ⟨p, b, text ++ rest⟩ =
        .token ⟨⟨.string (String.ofList value), ⟨p, p + text.length⟩⟩, ⟨b, b + utf8Length text⟩⟩
          ⟨p + text.length, b + utf8Length text, rest⟩) ∧
    ∀ (source : List Char) (n : Nat) (t : ScannedToken), .ok t ∈ results o n (.start source) →
      let place := t.location source
      place.text.head? = some '\'' →
      ∃ value text, t.kind = .string (String.ofList value) ∧ place.text = '\'' :: text ∧
        QuotedForm value text place.rest := by
  constructor
  · intro p b value rest hv hr text
    have hbody := quotedBody_doubleQuotes hv hr
    have hstep : step o.keywords (text ++ rest) =
        .lexeme ⟨.string (String.ofList value), text, rest⟩ := by
      have htext : text ++ rest = '\'' :: (doubleQuotes value ++ '\'' :: rest) := by simp [text]
      rw [htext, step_quote, quotedString, hbody]
    exact next_of_lexeme (c := ⟨p, b, text ++ rest⟩) hstep
  · intro source n t ht place hfirst
    obtain ⟨cs, -, hs⟩ := exists_step_of_mem_results ht hfirst
    rw [step_quote] at hs
    obtain ⟨hkind, htext, hrest⟩ := Lexeme.mk.inj (Step.lexeme.inj hs)
    refine ⟨(quotedBody cs).1, (quotedBody cs).2.1, hkind.symm, htext.symm, ?_⟩
    have hform := quotedForm_quotedBody cs
    rw [hrest] at hform
    exact hform

/-- Three quotes at the end are one of the value, doubled, and the closing one. The other text has
the same quotes without a closing one. -/
theorem quoting_exact_quotes :
    let o : ScanOptions := ⟨.empty, false, false⟩
    let unclosed := ['\'', 'é', '\'', '\'', '\n', 'b']
    next o ⟨0, 0, ['\'', 'é', '\'', '\'', '\'', ';']⟩ =
        .token ⟨⟨.string "é'", ⟨0, 5⟩⟩, ⟨0, 6⟩⟩ ⟨5, 6, [';']⟩ ∧
      .ok ⟨⟨.string "é'", ⟨0, 4⟩⟩, ⟨0, 5⟩⟩ ∈ results o 1 (.start unclosed) ∧
      ∃ value text, TokenKind.string "é'" = .string (String.ofList value) ∧
        ['\'', 'é', '\'', '\''] = '\'' :: text ∧ QuotedForm value text ['\n', 'b'] := by
  intro o unclosed
  have ht : .ok ⟨⟨.string "é'", ⟨0, 4⟩⟩, ⟨0, 5⟩⟩ ∈ results o 1 (.start unclosed) := by
    decide +kernel
  obtain ⟨hread, hform⟩ := quoting_exact o
  have hvalue : ∀ c ∈ ['é', '\''], isLineBreak c = false :=
    List.forall_mem_cons.2 ⟨rfl, List.forall_mem_singleton.2 rfl⟩
  exact ⟨hread 0 0 ['é', '\''] [';'] hvalue (by simp), ht, hform unclosed 1 _ ht rfl⟩

end SqlBuffer.Scan
