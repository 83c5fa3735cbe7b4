import SqlBuffer.Proofs.BracketStack
import SqlBuffer.Proofs.TokenPlace

/-
  The partner of a bracket in a document.
  A search over all lines walks over the tokens on one side of the place of a token, in the order
  of the token list or against it. A bracket is one character and ends no line, so that a
  caret behind it is on the line of the bracket. Hence the search finds what a stack finds that
  goes over the token list once.
-/

namespace SqlBuffer

/-! ## Brackets in a line -/

theorem endsLine_symbol (p : Punctuation) : endsLine p.symbol = false := by
  cases p <;> rfl

namespace Scan

theorem lineTokens_punctuation {o : ScanOptions} {cs : List Char} {ts : List Token} {t : Token}
    {p : Punctuation} (h : lineTokens o cs = .ok ts) (ht : t ∈ ts)
    (hk : t.kind = .punctuation p) :
    t.span.stop = t.span.start + 1 ∧ cs[t.span.start]? = some p.symbol := by
  obtain ⟨us, d, hr, -, rfl⟩ := exists_run_of_lineFrom_ok h
  obtain ⟨u, hu, rfl⟩ := List.mem_map.1 ht
  obtain ⟨read, l, hrest, hl, rfl⟩ := hr.exists_lexeme (List.mem_of_mem_filter hu)
  have htext := text_of_step_punctuation hl hk
  have hline : cs = read ++ l.text ++ l.rest := hrest
  have hzero : (Cursor.start cs).position + read.length = read.length := Nat.zero_add _
  dsimp only [Cursor.token, Cursor.tokenTo, Cursor.after, Cursor.past]
  rw [hzero, htext, hline, htext]
  refine ⟨rfl, ?_⟩
  rw [List.append_assoc, List.getElem?_append_right (Nat.le_refl _), Nat.sub_self]
  rfl

end Scan

/-! ## The tokens on the line of a place -/

namespace TokenPlace

variable {d : Document} (p : TokenPlace d)

theorem filter_right (h : d.Current) :
    (p.left ++ p.origin :: p.right).filter (p.origin.span.stop ≤ ·.span.start) = p.right := by
  obtain ⟨hl, ho, hr⟩ := p.sides h
  rw [List.filter_append, List.filter_cons_of_neg (by simpa using ho)]
  have hleft : p.left.filter (p.origin.span.stop ≤ ·.span.start) = [] := by
    refine List.filter_eq_nil_iff.2 fun t ht => ?_
    have := hl t ht
    simp only [decide_eq_true_eq]
    omega
  have hright : p.right.filter (p.origin.span.stop ≤ ·.span.start) = p.right :=
    List.filter_eq_self.2 fun t ht => by simpa using (hr t ht).1
  rw [hleft, hright, List.nil_append]

theorem filter_left (h : d.Current) :
    (p.left ++ p.origin :: p.right).filter (·.span.stop ≤ p.origin.span.start) = p.left := by
  obtain ⟨hl, ho, hr⟩ := p.sides h
  rw [List.filter_append, List.filter_cons_of_neg (by simpa using ho)]
  have hleft : p.left.filter (·.span.stop ≤ p.origin.span.start) = p.left :=
    List.filter_eq_self.2 fun t ht => by simpa using (hl t ht).2
  have hright : p.right.filter (·.span.stop ≤ p.origin.span.start) = [] := by
    refine List.filter_eq_nil_iff.2 fun t ht => ?_
    have := hr t ht
    simp only [decide_eq_true_eq]
    omega
  rw [hleft, hright, List.append_nil]

end TokenPlace

/-! ## What a search walks over -/

namespace Document

variable {d : Document}

theorem Current.placedTokens_eq (h : d.Current) (hf : Fits d.text) {line : Line (List Token)}
    (hl : line ∈ d.index.lines) (keep : Token → Bool) :
    LineIndex.placedTokens line keep =
      ((line.info.getD []).filter keep).map (·.offset line.span.start) := by
  refine List.map_congr_left fun t ht => ?_
  have hm : t.offset line.span.start ∈ line.placed :=
    List.mem_map_of_mem (List.mem_of_mem_filter ht)
  have hb := (h.fresh.inOrder_placed hl).bounds hm
  have hstop := (h.fresh.bounds hl).2
  dsimp only [Token.offset, Span.offset] at hb
  unfold Fits at hf
  exact shift_eq_offset (by omega) (by unfold lastPosition; omega)

theorem Current.placedTokens_all (h : d.Current) (hf : Fits d.text) {line : Line (List Token)}
    (hl : line ∈ d.index.lines) : LineIndex.placedTokens line (fun _ => true) = line.placed := by
  rw [h.placedTokens_eq hf hl, List.filter_eq_self.2 fun _ _ => rfl]
  rfl

end Document

namespace TokenPlace

variable {d : Document} (p : TokenPlace d)

/-- The tokens after the place, through the last line of a window. -/
def afterIn (window : Span) : List Token :=
  p.right.map (·.offset p.line.span.start) ++
    (p.below.take (window.stop - (p.above.length + 1))).flatMap Line.placed

/-- The tokens before the place, from the first line of a window on. -/
def beforeIn (window : Span) : List Token :=
  (p.above.drop window.start).flatMap Line.placed ++ p.left.map (·.offset p.line.span.start)

theorem afterIn_all : p.afterIn ⟨0, d.index.size⟩ = p.after := by
  have hbelow : d.index.size - (p.above.length + 1) = p.below.length := by
    rw [LineIndex.size, p.lines_eq, List.length_append, List.length_cons]
    omega
  rw [afterIn, hbelow, List.take_length, after]

theorem beforeIn_all (n : Nat) : p.beforeIn ⟨0, n⟩ = p.before :=
  rfl

theorem tokensAfter_eq (h : d.Current) (hf : Fits d.text) {window : Span}
    (hw : p.above.length < window.stop) :
    d.index.tokensAfter window p.above.length p.origin.span.stop = p.afterIn window := by
  have hlines : (d.index.lines.take window.stop).drop p.above.length =
      p.line :: p.below.take (window.stop - (p.above.length + 1)) := by
    obtain ⟨k, hk⟩ : ∃ k, window.stop = p.above.length + (k + 1) :=
      ⟨window.stop - (p.above.length + 1), by omega⟩
    rw [List.drop_take, p.lines_eq, List.drop_left, hk, Nat.add_sub_cancel_left,
      List.take_succ_cons, ← Nat.add_assoc, Nat.add_right_comm, Nat.add_sub_cancel_left]
  have hbelow : (p.below.take (window.stop - (p.above.length + 1))).flatMap
        (LineIndex.placedTokens · fun _ => true) =
      (p.below.take (window.stop - (p.above.length + 1))).flatMap Line.placed := by
    refine List.flatMap_congr fun line hl => h.placedTokens_all hf ?_
    rw [p.lines_eq]
    exact List.mem_append_right _ (List.mem_cons_of_mem _ (List.mem_of_mem_take hl))
  rw [LineIndex.tokensAfter, hlines]
  dsimp only
  rw [hbelow, h.placedTokens_eq hf p.line_mem, p.info_eq, Option.getD_some, p.filter_right h]
  rfl

theorem tokensBefore_eq (h : d.Current) (hf : Fits d.text) {window : Span}
    (hw : window.start ≤ p.above.length) :
    d.index.tokensBefore window p.above.length p.origin.span.start =
      (p.beforeIn window).reverse := by
  have hlines : (d.index.lines.take (p.above.length + 1)).drop window.start =
      p.above.drop window.start ++ [p.line] := by
    rw [p.lines_eq, List.take_length_add_append]
    exact List.drop_append_of_le_length hw
  have habove : ((p.above.drop window.start).reverse.flatMap fun line =>
      (LineIndex.placedTokens line fun _ => true).reverse) =
        ((p.above.drop window.start).flatMap Line.placed).reverse := by
    rw [List.reverse_flatMap]
    refine List.flatMap_congr fun line hl => ?_
    rw [h.placedTokens_all hf]
    · rfl
    · rw [p.lines_eq]
      exact List.mem_append_left _ (List.mem_of_mem_drop (List.mem_reverse.1 hl))
  rw [LineIndex.tokensBefore, hlines, List.reverse_append, List.reverse_singleton,
    List.singleton_append]
  dsimp only
  rw [habove, h.placedTokens_eq hf p.line_mem, p.info_eq, Option.getD_some, p.filter_left h,
    beforeIn, List.reverse_append]

theorem text_punctuation (h : d.Current) {b : Punctuation} (hk : p.token.kind = .punctuation b) :
    p.token.span.stop = p.token.span.start + 1 ∧ d.text[p.token.span.start]? = some b.symbol := by
  have hm : p.origin ∈ p.left ++ p.origin :: p.right :=
    List.mem_append_right _ List.mem_cons_self
  obtain ⟨hstop, hchar⟩ := Scan.lineTokens_punctuation (p.lineTokens_eq h) hm hk
  have hb := (p.inOrder h).bounds hm
  dsimp only [token, Token.offset, Span.offset]
  refine ⟨by omega, ?_⟩
  rw [← hchar, Span.slice, List.getElem?_take_of_lt (by omega), List.getElem?_drop, Nat.add_comm]

theorem not_startsLine (h : d.Current) {b : Punctuation} (hk : p.origin.kind = .punctuation b) :
    ¬ StartsLine d.text p.token.span.stop := by
  obtain ⟨hstop, htext⟩ := p.text_punctuation h hk
  rw [hstop, StartsLine, htext, Option.any_some, endsLine_symbol]
  simp

theorem caretPlace?_eq (h : d.Current) {b : Punctuation} (hk : p.origin.kind = .punctuation b) :
    d.index.caretPlace? p.token.span.stop = some (p.above.length, p.origin.span.stop) := by
  obtain ⟨hle, hlen⟩ := p.line_bounds h
  have hb := (p.inOrder h).bounds (List.mem_append_right _ List.mem_cons_self)
  have hplace : p.token.span.stop = p.origin.span.stop + p.line.span.start := rfl
  have hstop : p.token.span.stop ≤ p.line.span.stop := by
    unfold Span.length at hb
    omega
  have hat : LineAt d.text p.token.span.stop (p.above.map (·.span)) p.line.span
      (p.below.map (·.span)) := by
    refine ⟨(p.lineAt h).spans, by omega, fun r hr => ?_⟩
    have hge := ((p.lineAt h).contiguous.2.2.bounds hr).1
    obtain ⟨line, hl, rfl⟩ := List.mem_map.1 hr
    have hmem : line ∈ d.index.lines := by
      rw [p.lines_eq]
      exact List.mem_append_right _ (List.mem_cons_of_mem _ hl)
    have hstart := (h.fresh.covers.exists_start_iff line.span.start).1 ⟨line, hmem, rfl⟩
    refine Nat.lt_of_le_of_ne (by omega) fun he => p.not_startsLine h hk ?_
    rw [he]
    exact hstart
  rw [LineIndex.caretPlace?, h.fresh.covers.caretLine?_eq (by omega), hat.lineNumber_eq,
    List.length_map]
  simp only [Option.bind_eq_bind, Option.bind_some, p.line?_eq, Option.pure_def, Option.some.injEq,
    Prod.mk.injEq, true_and]
  omega

/-- The tokens that a search from the place walks over in a window, away from the place. -/
def walk (language : Language) (window : Span) : List Token :=
  if language.isOpening p.origin.kind then p.afterIn window else (p.beforeIn window).reverse

/-- From a bracket with the caret on its line, the search walks over the tokens on one side. -/
theorem bracketPartner?_eq (h : d.Current) (hf : Fits d.text) (language : Language) {window : Span}
    (hcaret : d.index.caretPlace? p.token.span.stop = some (p.above.length, p.origin.span.stop))
    (hw : window.contains p.above.length = true) :
    d.index.bracketPartner? language p.token.span.stop window =
      (language.partner? p.origin.kind).bind fun partner =>
        findPartner p.origin.kind partner 0 (p.walk language window) := by
  have hlt := (p.sides h).2.1
  have hcontains : p.origin.span.contains (p.origin.span.stop - 1) = true :=
    Span.contains_iff.2 (by omega)
  have hfound := LineIndex.findToken_eq p.line.span (p.inOrder h) hcontains 0
  obtain ⟨hstart, hstop⟩ := Span.contains_iff.1 hw
  have hpos : p.origin.span.stop ≠ 0 := by omega
  rw [LineIndex.bracketPartner?, hcaret]
  simp only [Option.bind_eq_bind, Option.bind_some, LineIndex.tokenInColumn?, p.line?_eq, p.info_eq,
    Option.pure_def, hfound, guard, if_pos hpos, hw, if_true, p.tokensAfter_eq h hf hstop,
    p.tokensBefore_eq h hf hstart, walk]

/-- What the search sets out from has a place, with the caret on its line. -/
theorem exists_of_bracketPartner? {language : Language} {i : Nat} {window r : Span}
    (hr : d.index.bracketPartner? language i window = some r) :
    ∃ p : TokenPlace d, p.token.span.stop = i ∧
      d.index.caretPlace? i = some (p.above.length, p.origin.span.stop) ∧
      window.contains p.above.length = true ∧
      ∃ partner, language.partner? p.origin.kind = some partner := by
  simp only [LineIndex.bracketPartner?, Option.bind_eq_bind, Option.bind_eq_some_iff,
    Option.guard_eq_some'] at hr
  obtain ⟨⟨n, column⟩, hplace, -, hcol, found, hfound, origin, horigin, -, hstop, partner, hpartner,
    -, hwindow, -⟩ := hr
  have hcaret := hplace
  simp only [LineIndex.caretPlace?, LineIndex.tokenInColumn?, Option.bind_eq_bind,
    Option.bind_eq_some_iff, Option.pure_def, Option.some.injEq, Prod.mk.injEq] at hplace hfound
  obtain ⟨n', -, line, hline, rfl, rfl⟩ := hplace
  obtain ⟨line', hline', ts, hts, rfl⟩ := hfound
  dsimp only at hcol hline' hwindow
  obtain rfl : line = line' := Option.some.inj (hline.symm.trans hline')
  obtain ⟨hn, heq⟩ := List.getElem?_eq_some_iff.1 hline
  have hlines : d.index.lines = d.index.lines.take n' ++ line :: d.index.lines.drop (n' + 1) := by
    rw [← heq, ← List.drop_eq_getElem_cons hn, List.take_append_drop]
  have hlength : (d.index.lines.take n').length = n' := by
    rw [List.length_take, Nat.min_eq_left (Nat.le_of_lt hn)]
  obtain ⟨left, right, rfl, -⟩ := LineIndex.exists_of_token_findToken horigin
  refine ⟨⟨_, line, _, left, origin, right, hlines, hts⟩, ?_, ?_, ?_, partner, hpartner⟩
  · dsimp only [token, Token.offset, Span.offset] at hstop ⊢
    omega
  · rw [hcaret, hlength, hstop]
  · dsimp only
    rw [hlength]
    exact hwindow

theorem contains_all : Span.contains ⟨0, d.index.size⟩ p.above.length = true := by
  simp [Span.contains, LineIndex.size, p.lines_eq]

theorem not_mem_sides (h : d.Current) : p.token ∉ p.before ∧ p.token ∉ p.after := by
  have hn := h.inOrder.nodup
  rw [p.tokens_eq h] at hn
  obtain ⟨-, hafter, hne⟩ := List.nodup_append.1 hn
  exact ⟨fun hb => hne _ hb _ List.mem_cons_self rfl, (List.nodup_cons.1 hafter).1⟩

end TokenPlace

/-! ## Brackets of SQL -/

/-- The opening and the closing bracket of each pair. -/
def bracketKinds : List (Punctuation × Punctuation) :=
  [(.leftParen, .rightParen), (.leftBrace, .rightBrace)]

theorem mem_bracketKinds {o c : Punctuation} : (o, c) ∈ bracketKinds ↔
    o = .leftParen ∧ c = .rightParen ∨ o = .leftBrace ∧ c = .rightBrace := by
  simp [bracketKinds]

namespace Language

theorem sql_opening {o c : Punctuation} (h : (o, c) ∈ bracketKinds) :
    sql.partner? (.punctuation o) = some (.punctuation c) ∧
      sql.isOpening (.punctuation o) = true ∧ o ≠ c := by
  rcases mem_bracketKinds.1 h with ⟨rfl, rfl⟩ | ⟨rfl, rfl⟩ <;> decide

theorem sql_closing {o c : Punctuation} (h : (o, c) ∈ bracketKinds) :
    sql.partner? (.punctuation c) = some (.punctuation o) ∧
      sql.isOpening (.punctuation c) = false := by
  rcases mem_bracketKinds.1 h with ⟨rfl, rfl⟩ | ⟨rfl, rfl⟩ <;> decide

theorem exists_of_sql_partner? {kind partner : TokenKind} (h : sql.partner? kind = some partner) :
    ∃ o c, (o, c) ∈ bracketKinds ∧ (kind = .punctuation o ∨ kind = .punctuation c) := by
  cases kind with
  | punctuation p =>
    cases p with
    | leftParen => exact ⟨.leftParen, .rightParen, by decide, Or.inl rfl⟩
    | rightParen => exact ⟨.leftParen, .rightParen, by decide, Or.inr rfl⟩
    | leftBrace => exact ⟨.leftBrace, .rightBrace, by decide, Or.inl rfl⟩
    | rightBrace => exact ⟨.leftBrace, .rightBrace, by decide, Or.inr rfl⟩
    | _ => cases h
  | _ => cases h

end Language

/-- Two tokens of a list are partners when the stack of their kind of bracket pairs them. -/
def Paired (ts : List Token) (t u : Token) : Prop :=
  ∃ o c, (o, c) ∈ bracketKinds ∧
    ((t, u) ∈ stackPairs o c [] ts ∨ (u, t) ∈ stackPairs o c [] ts)

namespace TokenPlace

variable {d : Document} (p : TokenPlace d) {o c : Punctuation}

theorem opening_iff (h : d.Current) (hf : Fits d.text) (hb : (o, c) ∈ bracketKinds)
    (hk : p.token.kind = .punctuation o) (r : Span) :
    d.index.bracketPartner? .sql p.token.span.stop ⟨0, d.index.size⟩ = some r ↔
      ∃ u, (p.token, u) ∈ stackPairs o c [] d.tokens.toList ∧ u.span = r := by
  obtain ⟨hpartner, hopening, -⟩ := Language.sql_opening hb
  obtain ⟨hbefore, hafter⟩ := p.not_mem_sides h
  have hkind : p.origin.kind = .punctuation o := hk
  have hwalk : p.walk .sql ⟨0, d.index.size⟩ = p.after := by
    rw [walk, hkind, if_pos hopening, p.afterIn_all]
  rw [p.bracketPartner?_eq h hf .sql (p.caretPlace?_eq h hkind) p.contains_all, hwalk, hkind,
    hpartner, Option.bind_some, p.tokens_eq h]
  exact findPartner_iff hk hbefore hafter r

theorem closing_iff (h : d.Current) (hf : Fits d.text) (hb : (o, c) ∈ bracketKinds)
    (hk : p.token.kind = .punctuation c) (r : Span) :
    d.index.bracketPartner? .sql p.token.span.stop ⟨0, d.index.size⟩ = some r ↔
      ∃ u, (u, p.token) ∈ stackPairs o c [] d.tokens.toList ∧ u.span = r := by
  obtain ⟨-, -, hne⟩ := Language.sql_opening hb
  obtain ⟨hpartner, hopening⟩ := Language.sql_closing hb
  obtain ⟨hbefore, hafter⟩ := p.not_mem_sides h
  have hkind : p.origin.kind = .punctuation c := hk
  have hwalk : p.walk .sql ⟨0, d.index.size⟩ = p.before.reverse := by
    rw [walk, hkind, hopening]
    rfl
  rw [p.bracketPartner?_eq h hf .sql (p.caretPlace?_eq h hkind) p.contains_all, hwalk, hkind,
    hpartner, Option.bind_some, p.tokens_eq h]
  exact findPartner_reverse_iff hne hk hbefore hafter r

end TokenPlace

namespace Document

/-- In a current document the search over all lines finds the partners of the stack. -/
theorem Current.bracketPartner?_iff {d : Document} (h : d.Current) (hf : Fits d.text) (i : Nat)
    (r : Span) :
    d.index.bracketPartner? .sql i ⟨0, d.index.size⟩ = some r ↔
      ∃ t ∈ d.tokens.toList, t.span.stop = i ∧ ∃ u, Paired d.tokens.toList t u ∧ u.span = r := by
  constructor
  · intro hr
    obtain ⟨p, rfl, -, -, partner, hpartner⟩ := TokenPlace.exists_of_bracketPartner? hr
    have hm := p.token_mem h
    obtain ⟨o, c, hb, hk | hk⟩ := Language.exists_of_sql_partner? hpartner
    · obtain ⟨u, hu, rfl⟩ := (p.opening_iff h hf hb hk r).1 hr
      exact ⟨p.token, hm, rfl, u, ⟨o, c, hb, Or.inl hu⟩, rfl⟩
    · obtain ⟨u, hu, rfl⟩ := (p.closing_iff h hf hb hk r).1 hr
      exact ⟨p.token, hm, rfl, u, ⟨o, c, hb, Or.inr hu⟩, rfl⟩
  · rintro ⟨t, ht, rfl, u, ⟨o, c, hb, hu⟩, rfl⟩
    obtain ⟨p, rfl⟩ := TokenPlace.exists_of_mem h ht
    rcases hu with hu | hu
    · have hk : p.token.kind = .punctuation o := by
        rcases (mem_of_mem_stackPairs hu).1 with hs | ⟨-, hk⟩
        · cases hs
        · exact hk
      exact (p.opening_iff h hf hb hk u.span).2 ⟨u, hu, rfl⟩
    · have hk : p.token.kind = .punctuation c := (mem_of_mem_stackPairs hu).2.2
      exact (p.closing_iff h hf hb hk u.span).2 ⟨u, hu, rfl⟩

/-- Whatever was done to an SQL document, the search from a position over all lines finds a span
exactly when a bracket ends there that a stack, going over the token list once, pairs with the
token of that span. A search that has found nothing yet is at a positive level of nesting. -/
theorem bracketPartner?_run (options : ScanOptions) (text : List Char) (ops : List Operation)
    (h : (openText .sql options text).FitsThrough ops) :
    let d := (openText .sql options text).run ops
    (∀ i r, d.index.bracketPartner? d.language i ⟨0, d.index.size⟩ = some r ↔
      ∃ t ∈ d.tokens.toList, t.span.stop = i ∧ ∃ u, Paired d.tokens.toList t u ∧ u.span = r) ∧
    ∀ origin partner walked, findPartner origin partner 0 walked = none →
      0 < nestingLevel origin partner walked := by
  obtain ⟨hc, hlang, -, -, -, hf⟩ := (current_openText .sql options text).run h
  refine ⟨fun i r => ?_, fun _ _ _ hnone => nestingLevel_pos hnone⟩
  have hsql : ((openText .sql options text).run ops).language = .sql := hlang
  rw [hsql]
  exact hc.bracketPartner?_iff hf i r

/-- Once the last of four brackets is deleted, the inner two on the second line are still
partners, and the one on the first line has none. -/
theorem bracketPartner?_run_inner :
    let d := (openText .sql ⟨.empty, false, false⟩ ['(', '\n', '(', ')', ')']).run [.delete ⟨4, 5⟩]
    d.index.bracketPartner? d.language 4 ⟨0, d.index.size⟩ = some ⟨2, 3⟩ ∧
      d.index.bracketPartner? d.language 1 ⟨0, d.index.size⟩ = none ∧
      ∃ t ∈ d.tokens.toList, t.span.stop = 4 ∧
        ∃ u, Paired d.tokens.toList t u ∧ u.span = ⟨2, 3⟩ := by
  have h := (bracketPartner?_run ⟨.empty, false, false⟩ ['(', '\n', '(', ')', ')'] [.delete ⟨4, 5⟩]
    (by decide +kernel)).1 4 ⟨2, 3⟩
  refine ⟨?_, ?_, h.1 ?_⟩ <;> decide +kernel

end Document

end SqlBuffer
