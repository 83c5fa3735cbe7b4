import SqlBuffer.Proofs.BracketWindow

/-
  Deleting an empty pair of brackets.
  Deleting one position takes two if the token there is an opening bracket and the token at the next
  position closes it. In SQL both are one character, so that they stand next to each other in the
  token list, and a stack pairs brackets that do. Hence the deletion takes the closing bracket
  exactly when it is the partner that a search from the opening one finds, however near it has to
  be.
-/

namespace SqlBuffer

/-! ## Tokens next to each other -/

theorem Span.contains_one (i : Nat) : Span.contains ⟨i, i + 1⟩ i = true :=
  contains_iff.2 ⟨Nat.le_refl i, Nat.lt_succ_self i⟩

theorem InOrder.exists_adjacent {a b : Nat} {ts : List Token} (h : InOrder a ts b) {t u : Token}
    (ht : t ∈ ts) (hu : u ∈ ts) (htu : t.span.stop = u.span.start) :
    ∃ xs ys, ts = xs ++ t :: u :: ys := by
  induction ts generalizing a with
  | nil => cases ht
  | cons v ts ih =>
    obtain ⟨-, hv, hr⟩ := h
    rcases List.mem_cons.1 ht with rfl | hin
    · have hne : u ≠ t := by
        rintro rfl
        omega
      have hu := (List.mem_cons.1 hu).resolve_left hne
      obtain ⟨w, ws, rfl⟩ := List.exists_cons_of_ne_nil (List.ne_nil_of_mem hu)
      rcases List.mem_cons.1 hu with rfl | hu
      · exact ⟨[], ws, rfl⟩
      · -- a token between the two would have no room
        have hw := hr.2.1
        have := hr.1
        have := (hr.2.2.bounds hu).1
        omega
    · have hne : u ≠ v := by
        rintro rfl
        have := hr.bounds hin
        omega
      obtain ⟨xs, ys, rfl⟩ := ih hr hin ((List.mem_cons.1 hu).resolve_left hne)
      exact ⟨v :: xs, ys, rfl⟩

section Stack

variable {o c : Punctuation}

theorem stop_le_of_mem_stackPairs {stack ts : List Token} {a b : Nat} {t u : Token}
    (h : (t, u) ∈ stackPairs o c stack ts) (hs : ∀ v ∈ stack, v.span.stop ≤ a)
    (hts : InOrder a ts b) : t.span.stop ≤ u.span.start := by
  induction ts generalizing stack a with
  | nil => cases h
  | cons v ts ih =>
    obtain ⟨ha, hv, hr⟩ := hts
    -- what is on the stack ends before the rest of the tokens
    have hbelow {w : Token} (hw : w ∈ stack) : w.span.stop ≤ v.span.stop := by
      have := hs w hw
      omega
    by_cases ho : v.kind = .punctuation o
    · rw [stackPairs_opening ho] at h
      refine ih h (fun w hw => ?_) hr
      rcases List.mem_cons.1 hw with rfl | hw
      · exact Nat.le_refl _
      · exact hbelow hw
    by_cases hc : v.kind = .punctuation c
    · cases stack with
      | nil =>
        rw [stackPairs_closing_nil ho] at h
        exact ih h (fun w hw => hbelow hw) hr
      | cons w below =>
        rw [stackPairs_closing_cons ho hc] at h
        rcases List.mem_cons.1 h with h | h
        · obtain ⟨rfl, rfl⟩ := Prod.mk.inj h
          exact Nat.le_trans (hs t List.mem_cons_self) ha
        · exact ih h (fun x hx => hbelow (List.mem_cons_of_mem _ hx)) hr
    · rw [stackPairs_other ho hc] at h
      exact ih h (fun w hw => hbelow hw) hr

theorem mem_stackPairs_adjacent (hne : o ≠ c) {t u : Token} (ht : t.kind = .punctuation o)
    (hu : u.kind = .punctuation c) (xs ys : List Token) :
    (t, u) ∈ stackPairs o c [] (xs ++ t :: u :: ys) := by
  have ho : u.kind ≠ .punctuation o := by
    rw [hu]
    simpa using hne.symm
  rw [stackPairs_append, stackPairs_opening ht, stackPairs_closing_cons ho hu]
  exact List.mem_append_right _ List.mem_cons_self

end Stack

namespace Document

/-! ## The rule -/

/-- A deletion takes a pair of brackets: it is one of a single position, the token there is an
opening bracket that is spelled with one character, and the token at the next position closes it. -/
def TakesPair (d : Document) (r : Span) (replacement : List Char) : Prop :=
  r.length = 1 ∧ replacement = [] ∧ ∃ t ∈ d.tokens.toList, ∃ u ∈ d.tokens.toList,
    t.span.contains r.start = true ∧ u.span.contains (r.start + 1) = true ∧
      (∃ closing, d.language.closing? t.kind = some closing ∧ u.kind.sameAs closing = true) ∧
      ∃ lexeme, d.language.lexeme? t.kind = some lexeme ∧ lexeme.length = 1

variable {d : Document}

theorem Current.exists_tokenAt?_iff (h : d.Current) (hf : Fits d.text) (i : Nat)
    (kind : TokenKind) :
    (∃ found x, d.index.tokenAt? i = some found ∧ found.token = some x ∧ x.kind = kind) ↔
      ∃ t ∈ d.tokens.toList, t.span.contains i = true ∧ t.kind = kind := by
  have hplaced := h.placedTokenAt?_iff hf i
  constructor
  · rintro ⟨found, x, hfound, hx, rfl⟩
    obtain ⟨ht, hi⟩ := (hplaced ⟨x.kind, found.span⟩).1
      (by simp only [LineIndex.placedTokenAt?, hfound, hx, Option.bind_eq_bind, Option.bind_some,
        Option.pure_def])
    exact ⟨_, ht, Span.contains_iff.2 hi, rfl⟩
  · rintro ⟨t, ht, hi, rfl⟩
    obtain ⟨found, hfound, h⟩ :=
      Option.bind_eq_some_iff.1 ((hplaced t).2 ⟨ht, Span.contains_iff.1 hi⟩)
    obtain ⟨x, hx, h⟩ := Option.bind_eq_some_iff.1 h
    cases h
    exact ⟨found, x, hfound, hx, rfl⟩

/-- The deletion is widened by the rule, and then by one position. -/
theorem Current.pairDeletion?_iff (h : d.Current) (hf : Fits d.text) (r s : Span)
    (replacement : List Char) :
    d.index.pairDeletion? d.language d.length r replacement = some s ↔
      d.TakesPair r replacement ∧ s = ⟨r.start, r.start + 2⟩ := by
  simp only [LineIndex.pairDeletion?, Option.bind_eq_bind, Option.bind_eq_some_iff,
    Option.guard_eq_some', Option.pure_def, Option.some.injEq]
  constructor
  · rintro ⟨-, ⟨hr, hrep⟩, x, hx, deleted, hdeleted, closing, hclosing, -, -, lexeme, hlexeme, -,
      hone, y, hy, next, hnext, -, hsame, rfl⟩
    obtain ⟨t, ht, hti, htk⟩ := (h.exists_tokenAt?_iff hf _ _).1 ⟨x, deleted, hx, hdeleted, rfl⟩
    obtain ⟨u, hu, hui, huk⟩ := (h.exists_tokenAt?_iff hf _ _).1 ⟨y, next, hy, hnext, rfl⟩
    rw [← htk] at hclosing hlexeme
    rw [← huk] at hsame
    exact ⟨⟨hr, hrep, t, ht, u, hu, hti, hui, ⟨closing, hclosing, hsame⟩, lexeme, hlexeme, hone⟩,
      rfl⟩
  · rintro ⟨⟨hr, hrep, t, ht, u, hu, hti, hui, ⟨closing, hclosing, hsame⟩, lexeme, hlexeme, hone⟩,
      rfl⟩
    obtain ⟨x, deleted, hx, hdeleted, hdk⟩ := (h.exists_tokenAt?_iff hf _ _).2 ⟨t, ht, hti, rfl⟩
    obtain ⟨y, next, hy, hnext, hnk⟩ := (h.exists_tokenAt?_iff hf _ _).2 ⟨u, hu, hui, rfl⟩
    rw [← hdk] at hclosing hlexeme
    rw [← hnk] at hsame
    have hlt : r.start + 1 < d.length := by
      have hstop := (h.inOrder.bounds hu).2.2
      exact Nat.lt_of_lt_of_le (Span.contains_iff.1 hui).2 hstop
    exact ⟨(), ⟨hr, hrep⟩, x, hx, deleted, hdeleted, closing, hclosing, (), hlt, lexeme, hlexeme,
      (), hone, y, hy, next, hnext, (), hsame, rfl⟩

theorem Current.applied_of_takesPair (h : d.Current) (hf : Fits d.text) {r : Span}
    {replacement : List Char} (hp : d.TakesPair (d.clamp r) replacement) :
    d.applied r replacement = ⟨(d.clamp r).start, (d.clamp r).start + 2⟩ := by
  rw [applied, (h.pairDeletion?_iff hf _ _ _).2 ⟨hp, rfl⟩, Option.getD_some]

theorem Current.applied_of_not_takesPair (h : d.Current) (hf : Fits d.text) {r : Span}
    {replacement : List Char} (hp : ¬ d.TakesPair (d.clamp r) replacement) :
    d.applied r replacement = d.clamp r := by
  have hnone : d.index.pairDeletion? d.language d.length (d.clamp r) replacement = none := by
    rw [Option.eq_none_iff_forall_ne_some]
    intro s hs
    exact hp ((h.pairDeletion?_iff hf _ _ _).1 hs).1
  rw [applied, hnone, Option.getD_none]

/-! ## Pairs of SQL -/

/-- A round or a curly bracket at position `i` and the one that closes it at the next. -/
def PairAt (d : Document) (i : Nat) (o c : Punctuation) : Prop :=
  (o, c) ∈ bracketKinds ∧ (⟨.punctuation o, ⟨i, i + 1⟩⟩ : Token) ∈ d.tokens.toList ∧
    (⟨.punctuation c, ⟨i + 1, i + 2⟩⟩ : Token) ∈ d.tokens.toList

end Document

theorem Language.sql_closing?_iff {kind closing : TokenKind} :
    sql.closing? kind = some closing ↔
      ∃ o c, (o, c) ∈ bracketKinds ∧ kind = .punctuation o ∧ closing = .punctuation c := by
  constructor
  · intro h
    have hp : sql.partner? kind = some closing := by rw [partner?, h, Option.some_or]
    obtain ⟨o, c, hb, hk⟩ := exists_of_sql_partner? hp
    rcases mem_bracketKinds.1 hb with ⟨rfl, rfl⟩ | ⟨rfl, rfl⟩ <;>
      rcases hk with rfl | rfl <;> cases h
    · exact ⟨.leftParen, .rightParen, by decide, rfl, rfl⟩
    · exact ⟨.leftBrace, .rightBrace, by decide, rfl, rfl⟩
  · rintro ⟨o, c, hb, rfl, rfl⟩
    rcases mem_bracketKinds.1 hb with ⟨rfl, rfl⟩ | ⟨rfl, rfl⟩ <;> rfl

namespace Document

variable {d : Document} {i : Nat}

theorem Current.punctuation_eq (h : d.Current) {t : Token} (ht : t ∈ d.tokens.toList)
    {b : Punctuation} (hk : t.kind = .punctuation b) (hi : t.span.contains i = true) :
    t = ⟨.punctuation b, ⟨i, i + 1⟩⟩ ∧ d.text[i]? = some b.symbol := by
  obtain ⟨p, rfl⟩ := TokenPlace.exists_of_mem h ht
  obtain ⟨hstop, htext⟩ := p.text_punctuation h hk
  rw [Span.contains_iff] at hi
  have hstart : p.token.span.start = i := by omega
  subst hstart
  refine ⟨?_, htext⟩
  rw [← hk, ← hstop]

/-- In SQL the rule asks for a pair of brackets at the position. -/
theorem Current.takesPair_iff (h : d.Current) (hsql : d.language = .sql) (i : Nat) :
    d.TakesPair ⟨i, i + 1⟩ [] ↔ ∃ o c, d.PairAt i o c := by
  unfold TakesPair
  rw [hsql]
  constructor
  · rintro ⟨-, -, t, ht, u, hu, hti, hui, ⟨closing, hclosing, hsame⟩, -⟩
    obtain ⟨o, c, hb, hto, rfl⟩ := Language.sql_closing?_iff.1 hclosing
    have huc : u.kind = .punctuation c := by simpa using hsame
    obtain ⟨rfl, -⟩ := h.punctuation_eq ht hto hti
    obtain ⟨rfl, -⟩ := h.punctuation_eq hu huc hui
    exact ⟨o, c, hb, ht, hu⟩
  · rintro ⟨o, c, hb, ht, hu⟩
    refine ⟨Nat.add_sub_cancel_left i 1, rfl, _, ht, _, hu, Span.contains_one i,
      Span.contains_one (i + 1), ⟨.punctuation c, ?_, ?_⟩, ?_⟩
    · exact Language.sql_closing?_iff.2 ⟨o, c, hb, rfl, rfl⟩
    · simp
    · exact ⟨_, rfl, String.length_singleton⟩

theorem Current.paired_of_pairAt (h : d.Current) {o c : Punctuation} (hp : d.PairAt i o c) :
    Paired d.tokens.toList ⟨.punctuation o, ⟨i, i + 1⟩⟩ ⟨.punctuation c, ⟨i + 1, i + 2⟩⟩ := by
  obtain ⟨hb, ht, hu⟩ := hp
  obtain ⟨xs, ys, hlist⟩ := h.inOrder.exists_adjacent ht hu rfl
  refine ⟨o, c, hb, Or.inl ?_⟩
  rw [hlist]
  exact mem_stackPairs_adjacent (Language.sql_opening hb).2.2 rfl rfl xs ys

/-- The search over all lines from behind position `i` finds the bracket at the next position if it
is the partner of one at `i`. -/
theorem Current.bracketPartner?_adjacent (h : d.Current) (hf : Fits d.text) :
    d.index.bracketPartner? .sql (i + 1) ⟨0, d.index.size⟩ = some ⟨i + 1, i + 2⟩ ↔
      ∃ o c, d.PairAt i o c := by
  rw [h.bracketPartner?_iff hf]
  constructor
  · rintro ⟨t, ht, hstop, u, ⟨o, c, hb, hpair⟩, hspan⟩
    have hno : ∀ v ∈ ([] : List Token), v.span.stop ≤ 0 := fun v hv => nomatch hv
    have hlt := (h.inOrder.bounds ht).2.1
    rcases hpair with hpair | hpair
    · obtain ⟨hto, hu, huc⟩ := mem_of_mem_stackPairs hpair
      have hto : t.kind = .punctuation o := (hto.resolve_left List.not_mem_nil).2
      obtain ⟨rfl, -⟩ := h.punctuation_eq (i := i) ht hto (Span.contains_iff.2 (by omega))
      obtain ⟨rfl, -⟩ := h.punctuation_eq (i := i + 1) hu huc
        (by rw [hspan]; exact Span.contains_one (i + 1))
      exact ⟨o, c, hb, ht, hu⟩
    · -- the partner of a closing bracket stands before it
      have hle := stop_le_of_mem_stackPairs hpair hno h.inOrder
      rw [hspan] at hle
      dsimp only at hle
      omega
  · rintro ⟨o, c, hp⟩
    exact ⟨_, hp.2.1, rfl, _, h.paired_of_pairAt hp, rfl⟩

theorem Current.nearPartner?_adjacent (h : d.Current) (hf : Fits d.text)
    (hsql : d.language = .sql) :
    d.nearPartner? (i + 1) = some ⟨i + 1, i + 2⟩ ↔ ∃ o c, d.PairAt i o c := by
  rw [h.nearPartner?_iff hf d.bracketWindow, hsql, h.bracketPartner?_adjacent hf]
  constructor
  · rintro ⟨hp, -⟩
    exact hp
  · rintro ⟨o, c, hp⟩
    refine ⟨⟨o, c, hp⟩, ?_⟩
    have hfound := (h.bracketPartner?_adjacent hf).2 ⟨o, c, hp⟩
    obtain ⟨-, -, hline, -⟩ := h.exists_back hf hfound
    have hlen : i + 2 ≤ d.text.length := (h.inOrder.bounds hp.2.2).2.2
    rw [h.fresh.covers.caretLine?_eq (by omega)] at hline
    refine ⟨_, _, hline.symm, ?_, Nat.le_add_right _ _, Nat.le_add_right _ _⟩
    rw [h.fresh.covers.lineHolding?_eq, if_pos (show i + 1 < d.text.length by omega)]

/-- A deletion of one position that takes a pair leaves the rest of the text as it is. -/
theorem Current.text_edit_pair (h : d.Current) (hf : Fits d.text) (hi : i < d.text.length)
    (hp : d.TakesPair ⟨i, i + 1⟩ []) :
    (d.edit ⟨i, i + 1⟩ []).1.text = d.text.take i ++ d.text.drop (i + 2) := by
  have hclamp : d.clamp ⟨i, i + 1⟩ = ⟨i, i + 1⟩ := by
    simp only [clamp, length, Span.mk.injEq]
    omega
  have happlied := h.applied_of_takesPair hf (r := ⟨i, i + 1⟩) (hclamp.symm ▸ hp)
  rw [hclamp] at happlied
  rw [text_edit, Change.new, change, happlied]
  dsimp only
  rw [List.append_nil]

/-- Whatever was done to an SQL document, and however near a partner has to be, deleting the
position `i` takes the next one too exactly when the search from behind `i` finds its partner
there. Then the two characters are a round or a curly bracket and the one that a stack pairs it
with, and the edit takes them out of the text and nothing else. -/
theorem pairDeletion?_run (options : ScanOptions) (text : List Char) (ops : List Operation)
    (h : (openText .sql options text).FitsThrough ops) (w : Nat) :
    let d : Document := { (openText .sql options text).run ops with bracketWindow := w }
    ∀ i < d.text.length,
      d.index.pairDeletion? d.language d.length ⟨i, i + 1⟩ [] =
          (if d.nearPartner? (i + 1) = some ⟨i + 1, i + 2⟩ then some ⟨i, i + 2⟩ else none) ∧
        (d.index.pairDeletion? d.language d.length ⟨i, i + 1⟩ [] ≠ none →
          (∃ o c, (o, c) ∈ bracketKinds ∧ d.text[i]? = some o.symbol ∧
            d.text[i + 1]? = some c.symbol ∧ Paired d.tokens.toList
              ⟨.punctuation o, ⟨i, i + 1⟩⟩ ⟨.punctuation c, ⟨i + 1, i + 2⟩⟩) ∧
          (d.edit ⟨i, i + 1⟩ []).1.text = d.text.take i ++ d.text.drop (i + 2)) := by
  intro d i hi
  obtain ⟨hrun, hlang, -, -, -, hf⟩ := (current_openText .sql options text).run h
  have hc : d.Current := ⟨hrun.fresh, hrun.tokens⟩
  have hsql : d.language = .sql := hlang
  have htakes := hc.takesPair_iff hsql i
  have hnear := hc.nearPartner?_adjacent (i := i) hf hsql
  cases hp : d.index.pairDeletion? d.language d.length ⟨i, i + 1⟩ [] with
  | none =>
    have hno : ¬ d.nearPartner? (i + 1) = some ⟨i + 1, i + 2⟩ := by
      rw [hnear, ← htakes]
      intro htaken
      rw [(hc.pairDeletion?_iff hf _ _ _).2 ⟨htaken, rfl⟩] at hp
      cases hp
    exact ⟨(if_neg hno).symm, fun hne => absurd rfl hne⟩
  | some s =>
    obtain ⟨htaken, rfl⟩ := (hc.pairDeletion?_iff hf _ _ _).1 hp
    obtain ⟨o, c, hpair⟩ := htakes.1 htaken
    have hto := hc.punctuation_eq hpair.2.1 rfl (Span.contains_one i)
    have huc := hc.punctuation_eq hpair.2.2 rfl (Span.contains_one (i + 1))
    refine ⟨(if_pos (hnear.2 ⟨o, c, hpair⟩)).symm, fun _ => ⟨?_, hc.text_edit_pair hf hi htaken⟩⟩
    exact ⟨o, c, hpair.1, hto.2, huc.2, hc.paired_of_pairAt hpair⟩

/-- Of three pairs of braces only the last is deleted as one: the first is in a string, and the
second is on a line that cannot be scanned. A window of no lines has the line itself. -/
theorem pairDeletion?_run_braces :
    let text := ['\'', '\x7b', '\x7d', '\'', '\n', '§', '\x7b', '\x7d', '\n', '\x7b']
    let d : Document :=
      { (openText .sql ⟨.empty, false, false⟩ text).run [.insert 10 ['\x7d']] with
        bracketWindow := 0 }
    d.index.pairDeletion? d.language d.length ⟨1, 2⟩ [] = none ∧
      d.index.pairDeletion? d.language d.length ⟨6, 7⟩ [] = none ∧
      d.nearPartner? 10 = some ⟨10, 11⟩ ∧
      (d.edit ⟨9, 10⟩ []).1.text =
        ['\'', '\x7b', '\x7d', '\'', '\n', '§', '\x7b', '\x7d', '\n'] := by
  intro text d
  have h := pairDeletion?_run ⟨.empty, false, false⟩ text [.insert 10 ['\x7d']]
    (by decide +kernel) 0 9 (by decide +kernel)
  have htext := (h.2 (by decide +kernel)).2
  exact ⟨by decide +kernel, by decide +kernel, by decide +kernel, htext.trans (by decide +kernel)⟩

end Document

end SqlBuffer
