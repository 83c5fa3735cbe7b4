import SqlBuffer.Proofs.DocumentRun

/-
  The tokens of a document by place.
  A token of a document has a place: the lines above and below its own and the tokens to the left
  and right of it. The token list goes through the places in order. The lookup at a position finds
  the line of the position and on it the token that covers the column, and this is the token of
  the list that covers the position.
-/

namespace SqlBuffer

/-! ## The token in a column -/

namespace LineIndex

theorem findToken_eq (line : Span) {column : Nat} {us vs : List Token} {t : Token} {a b : Nat}
    (h : InOrder a (us ++ t :: vs) b) (hc : t.span.contains column = true) (done : Nat) :
    findToken line column done (us ++ t :: vs) = ⟨some t, t.span.shift line.start⟩ := by
  have hcol := Span.contains_iff.1 hc
  induction us generalizing a done with
  | nil =>
    rw [List.nil_append, findToken, if_neg (by omega), if_pos hc]
  | cons u us ih =>
    obtain ⟨m, hu, ht⟩ := h.2.2.exists_of_append
    have hle : u.span.stop ≤ t.span.start := Nat.le_trans hu.le ht.1
    have hlt : u.span.start < u.span.stop := h.2.1
    have hout : ¬ u.span.contains column = true := by
      rw [Span.contains_iff]
      omega
    rw [List.cons_append, findToken, if_neg (by omega), if_neg hout]
    exact ih h.2.2 u.span.stop

theorem exists_of_token_findToken {line : Span} {column done : Nat} {ts : List Token} {t : Token}
    (h : (findToken line column done ts).token = some t) :
    ∃ us vs, ts = us ++ t :: vs ∧ t.span.contains column = true := by
  induction ts generalizing done with
  | nil => cases h
  | cons u ts ih =>
    rw [findToken] at h
    split at h
    · cases h
    · split at h
      · next hc =>
        cases h
        exact ⟨[], ts, rfl, hc⟩
      · obtain ⟨us, vs, rfl, hc⟩ := ih h
        exact ⟨u :: us, vs, rfl, hc⟩

end LineIndex

theorem shift_eq_offset {t : Token} {n : Nat} (ht : t.span.start ≤ t.span.stop)
    (hs : t.span.start + n ≤ lastPosition) : t.shift n = t.offset n := by
  have h := shift_offset (n := 0) ht (Int.zero_add (n : Int)) hs
  exact h

/-! ## Places of tokens -/

/-- A token of a line with the tokens and lines around it. -/
structure TokenPlace (d : Document) where
  above : List (Line (List Token))
  line : Line (List Token)
  below : List (Line (List Token))
  left : List Token
  origin : Token
  right : List Token
  lines_eq : d.index.lines = above ++ line :: below
  info_eq : line.info = some (left ++ origin :: right)

namespace TokenPlace

variable {d : Document} (p : TokenPlace d)

/-- The token at its place in the text. -/
def token : Token :=
  p.origin.offset p.line.span.start

/-- The tokens of the document before the place. -/
def before : List Token :=
  p.above.flatMap Line.placed ++ p.left.map (·.offset p.line.span.start)

/-- The tokens of the document after the place. -/
def after : List Token :=
  p.right.map (·.offset p.line.span.start) ++ p.below.flatMap Line.placed

theorem line_mem : p.line ∈ d.index.lines := by
  rw [p.lines_eq]
  exact List.mem_append_right _ List.mem_cons_self

theorem line?_eq : d.index.line? p.above.length = some p.line :=
  LineIndex.line?_length p.lines_eq

theorem tokens_eq (h : d.Current) : d.tokens.toList = p.before ++ p.token :: p.after := by
  rw [h.tokens, p.lines_eq, List.flatMap_append, List.flatMap_cons, Line.placed, p.info_eq,
    Option.getD_some, List.map_append, List.map_cons, before, after, token]
  simp only [List.append_assoc, List.cons_append]

theorem token_mem (h : d.Current) : p.token ∈ d.tokens.toList := by
  rw [p.tokens_eq h]
  exact List.mem_append_right _ List.mem_cons_self

/-- Every token of a document has a place. -/
theorem exists_of_mem (h : d.Current) {t : Token} (ht : t ∈ d.tokens.toList) :
    ∃ p : TokenPlace d, p.token = t := by
  rw [h.tokens] at ht
  obtain ⟨line, hl, ht⟩ := List.mem_flatMap.1 ht
  obtain ⟨origin, ho, rfl⟩ := List.mem_map.1 ht
  obtain ⟨above, below, hlines⟩ := List.append_of_mem hl
  cases hi : line.info with
  | none =>
    rw [hi] at ho
    cases ho
  | some ts =>
    rw [hi, Option.getD_some] at ho
    obtain ⟨left, right, rfl⟩ := List.append_of_mem ho
    exact ⟨⟨above, line, below, left, origin, right, hlines, hi⟩, rfl⟩

theorem lineTokens_eq (h : d.Current) :
    Scan.lineTokens d.options (p.line.span.slice d.text) = .ok (p.left ++ p.origin :: p.right) :=
  h.fresh.lineTokens_eq p.line_mem p.info_eq

theorem line_bounds (h : d.Current) :
    p.line.span.start ≤ p.line.span.stop ∧ p.line.span.stop ≤ d.text.length :=
  h.fresh.bounds p.line_mem

theorem lineAt (h : d.Current) : LineAt d.text p.line.span.start (p.above.map (·.span)) p.line.span
    (p.below.map (·.span)) := by
  refine lineAt_start ?_
  rw [← h.fresh.covers, p.lines_eq, List.map_append, List.map_cons]

theorem inOrder (h : d.Current) :
    InOrder 0 (p.left ++ p.origin :: p.right) p.line.span.length :=
  h.fresh.inOrder_info p.line_mem p.info_eq

/-- The tokens to the left end before the token, those to the right start after it. -/
theorem sides (h : d.Current) :
    (∀ t ∈ p.left, t.span.start < t.span.stop ∧ t.span.stop ≤ p.origin.span.start) ∧
      p.origin.span.start < p.origin.span.stop ∧
      ∀ t ∈ p.right, p.origin.span.stop ≤ t.span.start ∧ t.span.start < t.span.stop := by
  obtain ⟨m, hl, hm, ho, hr⟩ := (p.inOrder h).exists_of_append
  refine ⟨fun t ht => ?_, ho, fun t ht => ?_⟩
  · have := hl.bounds ht
    omega
  · have := hr.bounds ht
    omega

/-! ## The token at a position -/

theorem tokenAt?_eq (h : d.Current) (hf : Fits d.text) {i : Nat}
    (hi : p.token.span.contains i = true) :
    d.index.tokenAt? i = some ⟨some p.origin, p.origin.span.shift p.line.span.start⟩ := by
  have hpos := Span.contains_iff.1 hi
  dsimp only [token, Token.offset, Span.offset] at hpos
  obtain ⟨hle, hlen⟩ := p.line_bounds h
  have hb := (p.inOrder h).bounds (List.mem_append_right _ List.mem_cons_self)
  unfold Span.length at hb
  have hat := (p.lineAt h).of_lt_stop (j := i) (by omega) (by omega)
  have hcol : p.origin.span.contains (i - p.line.span.start) = true :=
    Span.contains_iff.2 (by omega)
  have hlast : i < lastPosition := hf.lt_lastPosition (by omega)
  rw [LineIndex.tokenAt?_eq hlast, h.fresh.covers.lineHolding?_eq, if_pos (by omega),
    hat.lineNumber_eq, List.length_map]
  simp only [LineIndex.tokenInColumn?, Option.bind_some, p.line?_eq, p.info_eq,
    Option.bind_eq_bind, Option.pure_def, Option.getD_some, Option.some.injEq]
  exact LineIndex.findToken_eq p.line.span (p.inOrder h) hcol 0

theorem placedTokenAt?_eq (h : d.Current) (hf : Fits d.text) {i : Nat}
    (hi : p.token.span.contains i = true) : d.index.placedTokenAt? i = some p.token := by
  obtain ⟨hle, hlen⟩ := p.line_bounds h
  have hb := (p.inOrder h).bounds (List.mem_append_right _ List.mem_cons_self)
  have hshift : p.origin.shift p.line.span.start = p.token := by
    unfold Span.length at hb
    unfold Fits at hf
    exact shift_eq_offset (by omega) (by unfold lastPosition; omega)
  rw [LineIndex.placedTokenAt?, p.tokenAt?_eq h hf hi]
  exact congrArg some hshift

theorem exists_of_placedTokenAt? (h : d.Current) {i : Nat} {t : Token}
    (ht : d.index.placedTokenAt? i = some t) :
    ∃ p : TokenPlace d, p.token.span.contains i = true := by
  obtain ⟨above, line, below, hlines, hat⟩ := h.fresh.covers.exists_lineAt i
  have hs := hat.start_le
  obtain ⟨found, hfound, ht⟩ := Option.bind_eq_some_iff.1 ht
  obtain ⟨origin, ho, -⟩ := Option.bind_eq_some_iff.1 ht
  rw [LineIndex.tokenAt?_eq (LineIndex.lt_of_tokenAt? hfound), h.fresh.covers.lineHolding?_eq,
    hat.lineNumber_eq, List.length_map] at hfound
  split at hfound
  · simp only [LineIndex.tokenInColumn?, Option.bind_eq_bind, Option.bind_some,
      LineIndex.line?_length hlines] at hfound
    cases hinfo : line.info with
    | none =>
      rw [hinfo] at hfound
      cases hfound
      cases ho
    | some ts =>
      rw [hinfo] at hfound
      cases hfound
      obtain ⟨left, right, rfl, hc⟩ := LineIndex.exists_of_token_findToken ho
      refine ⟨⟨above, line, below, left, origin, right, hlines, hinfo⟩, ?_⟩
      rw [Span.contains_iff] at hc ⊢
      dsimp only [token, Token.offset, Span.offset]
      omega
  · cases hfound
    cases ho

end TokenPlace

namespace Document

/-- The token list and the tokens that the lines know are two views of the same tokens. -/
structure ViewsAgree (d : Document) : Prop where
  fresh : d.index.Fresh d.options d.text
  toList_eq : d.tokens.toList = d.index.lines.flatMap Line.placed
  ne_empty : ∀ t ∈ d.tokens.toList, t.span.start < t.span.stop
  pairwise : d.tokens.toList.Pairwise (·.span.stop ≤ ·.span.start)
  within : ∀ line ∈ d.index.lines, ∀ t ∈ line.placed,
    line.span.start ≤ t.span.start ∧ t.span.stop ≤ line.span.stop
  placedTokenAt?_iff : ∀ i t, d.index.placedTokenAt? i = some t ↔
    t ∈ d.tokens.toList ∧ t.span.start ≤ i ∧ i < t.span.stop

theorem Current.placedTokenAt?_iff {d : Document} (h : d.Current) (hf : Fits d.text) (i : Nat)
    (t : Token) : d.index.placedTokenAt? i = some t ↔
      t ∈ d.tokens.toList ∧ t.span.start ≤ i ∧ i < t.span.stop := by
  constructor
  · intro ht
    obtain ⟨p, hp⟩ := TokenPlace.exists_of_placedTokenAt? h ht
    obtain rfl : t = p.token := Option.some.inj (ht.symm.trans (p.placedTokenAt?_eq h hf hp))
    exact ⟨p.token_mem h, Span.contains_iff.1 hp⟩
  · rintro ⟨ht, hi⟩
    obtain ⟨p, rfl⟩ := TokenPlace.exists_of_mem h ht
    exact p.placedTokenAt?_eq h hf (Span.contains_iff.2 hi)

/-- Whatever was done to a document, its token list has the tokens of its lines, each moved to the
place of its line, one after the other and each within its line. The token at a position is the
one of the list that covers it. A line that cannot be scanned has no tokens in either view. -/
theorem viewsAgree_run (language : Language) (options : ScanOptions) (text : List Char)
    (ops : List Operation) (h : (openText language options text).FitsThrough ops) :
    ((openText language options text).run ops).ViewsAgree := by
  obtain ⟨hc, -, -, -, -, hf⟩ := (current_openText language options text).run h
  refine ⟨hc.fresh, hc.tokens, ?_, hc.inOrder.pairwise, ?_, hc.placedTokenAt?_iff hf⟩
  · intro t ht
    exact (hc.inOrder.bounds ht).2.1
  · intro line hl t ht
    have := (hc.fresh.inOrder_placed hl).bounds ht
    exact ⟨this.1, this.2.2⟩

/-- The tokens behind a line that cannot be scanned move with an insertion before it. -/
theorem viewsAgree_run_failed_line :
    let d := (openText .sql ⟨.empty, false, false⟩ ['a', '\n', '§', '\n', 'b']).run
      [.insert 0 ['x', ' ']]
    d.index.lines.map (·.info.isSome) = [true, false, true] ∧
      d.tokens.toList.map (·.span) = [⟨0, 1⟩, ⟨2, 3⟩, ⟨6, 7⟩] ∧ d.ViewsAgree := by
  refine ⟨?_, ?_, viewsAgree_run .sql _ _ _ ?_⟩ <;> decide +kernel

end Document

end SqlBuffer
