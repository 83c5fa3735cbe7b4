import Mathlib.Data.List.Basic
import SqlBuffer.Proofs.Extent
import SqlBuffer.Proofs.Tiling

/-
  Dollar quoting.
  A tag is a name between two dollar signs. What stands between a tag and its next occurrence is a
  string, taken as it is: a dollar sign in it does no harm, even one that begins the tag. A run from
  a dollar sign that is no tag, or a tag that does not occur again, is an identifier. `DollarForm`
  has the two cases.
-/

namespace SqlBuffer.Scan

/-- May stand between the dollar signs of a tag. -/
def isTagChar (c : Char) : Bool :=
  !isWhiteSpace c && c != '$'

/-- A name, which may be empty, between two dollar signs. -/
def IsTag (tag : List Char) : Prop :=
  ∃ name : List Char, (∀ c ∈ name, isTagChar c = true) ∧ tag = '$' :: (name ++ ['$'])

/-- From a dollar sign up to the next white space or through the next dollar sign. -/
inductive DollarRun : List Char → List Char → Prop
  | closed {name : List Char} (rest : List Char) (h : ∀ c ∈ name, isTagChar c = true) :
      DollarRun ('$' :: (name ++ ['$'])) rest
  | stopped {name rest : List Char} (h : ∀ c ∈ name, isTagChar c = true)
      (hr : ∀ c, rest.head? = some c → isWhiteSpace c = true) : DollarRun ('$' :: name) rest

/-- The kind of a token that starts with a dollar sign, its text and what follows. -/
inductive DollarForm : TokenKind → List Char → List Char → Prop
  | string {tag value : List Char} (rest : List Char) (ht : IsTag tag)
      (hv : FirstOccurrence tag value) :
      DollarForm (.string (String.ofList value)) (tag ++ value ++ tag) rest
  | identifier {run rest : List Char} (hr : DollarRun run rest)
      (ht : IsTag run → ¬ run <:+: rest) :
      DollarForm (.identifier (String.ofList run)) run rest

section Rule

variable {name rest : List Char}

theorem dollarRun_name_append (h : ∀ c ∈ name, isTagChar c = true) (cs : List Char) :
    dollarRun (name ++ cs) = (name ++ (dollarRun cs).1, (dollarRun cs).2) := by
  induction name with
  | nil => rfl
  | cons c name ih =>
    have hc : isWhiteSpace c = false ∧ c ≠ '$' := by
      simpa [isTagChar] using h c List.mem_cons_self
    have hname := ih fun d hd => h d (List.mem_cons_of_mem c hd)
    simp [dollarRun, hc, hname]

theorem dollarRun_of_stopped (hr : ∀ c, rest.head? = some c → isWhiteSpace c = true) :
    dollarRun rest = ([], rest) := by
  cases rest with
  | nil => rfl
  | cons c rest => simp [dollarRun, hr c rfl]

theorem dollarRun_closed (h : ∀ c ∈ name, isTagChar c = true) (cs : List Char) :
    dollarRun (name ++ '$' :: cs) = (name ++ ['$'], cs) :=
  dollarRun_name_append h ('$' :: cs)

theorem dollar_of_cut (h : ∀ c ∈ name, isTagChar c = true) {cs body after : List Char}
    (hcut : cutAt? ('$' :: (name ++ ['$'])) cs = some (body, after)) :
    dollar (name ++ '$' :: cs) = ⟨.string (String.ofList body),
      '$' :: (name ++ ['$']) ++ body ++ '$' :: (name ++ ['$']), after⟩ := by
  unfold dollar
  rw [dollarRun_closed h]
  simp [hcut]

theorem dollar_of_not_cut (h : ∀ c ∈ name, isTagChar c = true) {cs : List Char}
    (hcut : cutAt? ('$' :: (name ++ ['$'])) cs = none) :
    dollar (name ++ '$' :: cs) =
      ⟨.identifier (String.ofList ('$' :: (name ++ ['$']))), '$' :: (name ++ ['$']), cs⟩ := by
  unfold dollar
  rw [dollarRun_closed h]
  simp [hcut]

theorem dollar_stopped (h : ∀ c ∈ name, isTagChar c = true)
    (hr : ∀ c, rest.head? = some c → isWhiteSpace c = true) :
    dollar (name ++ rest) = ⟨.identifier (String.ofList ('$' :: name)), '$' :: name, rest⟩ := by
  have hrun : dollarRun (name ++ rest) = (name, rest) := by
    rw [dollarRun_name_append h, dollarRun_of_stopped hr]
    simp
  have hlast : name.getLast? ≠ some '$' := by
    intro hlast
    have := h '$' (List.mem_of_getLast? hlast)
    simp [isTagChar] at this
  unfold dollar
  rw [hrun]
  simp [hlast]

end Rule

theorem not_isTag_of_stopped {name : List Char} (h : ∀ c ∈ name, isTagChar c = true) :
    ¬ IsTag ('$' :: name) := by
  rintro ⟨other, -, heq⟩
  have hmem : '$' ∈ name := by
    rw [(List.cons.inj heq).2]
    simp
  have := h '$' hmem
  simp [isTagChar] at this

/-- What the rule reads is of one of the two forms. -/
theorem dollarForm_dollar (cs : List Char) :
    DollarForm (dollar cs).kind (dollar cs).text (dollar cs).rest := by
  obtain ⟨hname, hstop⟩ := maximalRun_takeWhile isTagChar cs
  have hcs : cs.takeWhile isTagChar ++ cs.dropWhile isTagChar = cs :=
    List.takeWhile_append_dropWhile
  generalize cs.takeWhile isTagChar = name at hname hcs
  generalize cs.dropWhile isTagChar = rest at hstop hcs
  subst hcs
  by_cases hd : rest.head? = some '$'
  · obtain ⟨after, rfl⟩ := List.head?_eq_some_iff.1 hd
    have htag : IsTag ('$' :: (name ++ ['$'])) := ⟨name, hname, rfl⟩
    cases hcut : cutAt? ('$' :: (name ++ ['$'])) after with
    | some cut =>
      rw [dollar_of_cut hname hcut]
      exact .string _ htag (cutAt?_eq_some_iff.1 hcut).2
    | none =>
      rw [dollar_of_not_cut hname hcut]
      exact .identifier (.closed _ hname) fun _ => cutAt?_eq_none_iff.1 hcut
  · have hwhite : ∀ c, rest.head? = some c → isWhiteSpace c = true := by
      intro c hc
      have hne : c ≠ '$' := by
        rintro rfl
        exact hd hc
      simpa [isTagChar, hne] using hstop c hc
    rw [dollar_stopped hname hwhite]
    exact .identifier (.stopped hname hwhite) fun ht => absurd ht (not_isTag_of_stopped hname)

theorem step_dollar (k : Keywords) (cs : List Char) : step k ('$' :: cs) = .lexeme (dollar cs) :=
  rfl

/-- A string between two occurrences of a tag is read as it stands, whatever follows, if the tag
does not occur earlier. And every token that starts with a dollar sign is such a string, or else an
identifier: a run that is no tag, or a tag that does not occur in what follows. -/
theorem dollarQuoting_exact (o : ScanOptions) :
    (∀ (p b : Nat) (name body rest : List Char), (∀ c ∈ name, isTagChar c = true) →
      let tag := '$' :: (name ++ ['$'])
      FirstOccurrence tag body →
      let text := tag ++ body ++ tag
      next o ⟨p, b, text ++ rest⟩ =
        .token ⟨⟨.string (String.ofList body), ⟨p, p + text.length⟩⟩, ⟨b, b + utf8Length text⟩⟩
          ⟨p + text.length, b + utf8Length text, rest⟩) ∧
    ∀ (source : List Char) (n : Nat) (t : ScannedToken), .ok t ∈ results o n (.start source) →
      let place := t.location source
      place.text.head? = some '$' → DollarForm t.kind place.text place.rest := by
  constructor
  · intro p b name body rest hname tag hbody text
    have hcut : cutAt? tag (body ++ tag ++ rest) = some (body, rest) :=
      cutAt?_eq_some_iff.2 ⟨rfl, hbody⟩
    have hstep : step o.keywords (text ++ rest) =
        .lexeme ⟨.string (String.ofList body), text, rest⟩ := by
      rw [← dollar_of_cut hname hcut, ← step_dollar o.keywords]
      simp [text, tag]
    exact next_of_lexeme (c := ⟨p, b, text ++ rest⟩) hstep
  · intro source n t ht place hfirst
    obtain ⟨cs, -, hs⟩ := exists_step_of_mem_results ht hfirst
    rw [step_dollar] at hs
    have hl := Step.lexeme.inj hs
    have := dollarForm_dollar cs
    rw [hl] at this
    exact this

/-- Of the dollar signs in the string the first begins its tag without closing it. The tag of the
other text is an identifier, since it begins again but is not closed. -/
theorem dollarQuoting_exact_reopened :
    let o : ScanOptions := ⟨.empty, false, false⟩
    let tag := ['$', 'a', '$']
    let body := ['$', 'a', ' ', 'é', '$']
    let reopened := tag ++ [' ', '$', 'a']
    FirstOccurrence tag body ∧
      next o ⟨0, 0, tag ++ body ++ tag ++ [';']⟩ =
        .token ⟨⟨.string "$a é$", ⟨0, 11⟩⟩, ⟨0, 12⟩⟩ ⟨11, 12, [';']⟩ ∧
      .ok ⟨⟨.identifier "$a$", ⟨0, 3⟩⟩, ⟨0, 3⟩⟩ ∈ results o 1 (.start reopened) ∧
      DollarForm (.identifier "$a$") tag [' ', '$', 'a'] := by
  intro o tag body reopened
  have hbody : FirstOccurrence tag body := by decide
  have ht : .ok ⟨⟨.identifier "$a$", ⟨0, 3⟩⟩, ⟨0, 3⟩⟩ ∈ results o 1 (.start reopened) := by
    decide +kernel
  obtain ⟨hread, hform⟩ := dollarQuoting_exact o
  have hname : ∀ c ∈ ['a'], isTagChar c = true := List.forall_mem_singleton.2 rfl
  exact ⟨hbody, hread 0 0 ['a'] body [';'] hname hbody, ht, hform reopened 1 _ ht rfl⟩

end SqlBuffer.Scan
