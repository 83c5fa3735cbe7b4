import SqlBuffer.Proofs.BracketPartner

/-
  Searching for a bracket in a window of lines.
  The walk over the lines of a window is the front of the walk over all lines, and what it leaves
  out lies on lines outside the window. So a window cuts a search off and never leads it to another
  bracket. With the brackets of SQL, a search from the partner that it finds leads back, in the
  same window and also in the one around the line of the partner.
-/

namespace SqlBuffer

/-! ## A search in the front of the tokens -/

section Search

variable {origin partner : TokenKind} {n : Nat} {ts us : List Token} {r : Span}

theorem exists_of_findPartner (h : findPartner origin partner n ts = some r) :
    ∃ t ∈ ts, t.span = r := by
  fun_induction findPartner origin partner n ts with
  | case1 => cases h
  | case2 n t ts ho ih =>
    obtain ⟨u, hu, hr⟩ := ih h
    exact ⟨u, List.mem_cons_of_mem _ hu, hr⟩
  | case3 t ts ho hp =>
    cases h
    exact ⟨t, List.mem_cons_self, rfl⟩
  | case4 t ts ho hp n ih =>
    obtain ⟨u, hu, hr⟩ := ih h
    exact ⟨u, List.mem_cons_of_mem _ hu, hr⟩
  | case5 n t ts ho hp ih =>
    obtain ⟨u, hu, hr⟩ := ih h
    exact ⟨u, List.mem_cons_of_mem _ hu, hr⟩

theorem findPartner_append (origin partner : TokenKind) (n : Nat) (ts us : List Token) :
    findPartner origin partner n (ts ++ us) = findPartner origin partner n ts ∨
      findPartner origin partner n ts = none ∧
        ∃ m, findPartner origin partner n (ts ++ us) = findPartner origin partner m us := by
  induction ts generalizing n with
  | nil => exact Or.inr ⟨by rw [findPartner], n, rfl⟩
  | cons t ts ih =>
    rw [List.cons_append]
    by_cases ho : t.kind.sameAs origin = true
    · rw [findPartner_cons_origin ho, findPartner_cons_origin ho]
      exact ih (n + 1)
    by_cases hp : t.kind.sameAs partner = true
    · cases n with
      | zero =>
        rw [findPartner_cons_partner_zero ho hp, findPartner_cons_partner_zero ho hp]
        exact Or.inl rfl
      | succ n =>
        rw [findPartner_cons_partner_succ ho hp, findPartner_cons_partner_succ ho hp]
        exact ih n
    · rw [findPartner_cons_other ho hp, findPartner_cons_other ho hp]
      exact ih n

/-- Where a property tells the tokens of the front from the others, a search in the front finds
what a search in all tokens finds with that property. -/
theorem findPartner_front_iff {P : Span → Prop} (ht : ∀ t ∈ ts, P t.span)
    (hu : ∀ t ∈ us, ¬ P t.span) :
    findPartner origin partner n ts = some r ↔
      findPartner origin partner n (ts ++ us) = some r ∧ P r := by
  constructor
  · intro h
    obtain ⟨t, hm, rfl⟩ := exists_of_findPartner h
    refine ⟨?_, ht t hm⟩
    rcases findPartner_append origin partner n ts us with ha | ⟨hnone, -⟩
    · rw [ha, h]
    · rw [h] at hnone
      cases hnone
  · rintro ⟨h, hP⟩
    rcases findPartner_append origin partner n ts us with ha | ⟨-, m, ha⟩
    · rw [← ha, h]
    · rw [h] at ha
      obtain ⟨t, hm, rfl⟩ := exists_of_findPartner ha.symm
      exact absurd hP (hu t hm)

end Search

/-! ## Lines of a window -/

/-- Every number from `n` to `m`, whichever is the greater, is in the span. -/
def Span.Connects (r : Span) (n m : Nat) : Prop :=
  ∀ k, min n m ≤ k → k ≤ max n m → r.contains k = true

theorem Span.connects_iff {r : Span} {n m : Nat} :
    r.Connects n m ↔ r.contains n = true ∧ r.contains m = true := by
  constructor
  · intro h
    exact ⟨h n (by omega) (by omega), h m (by omega) (by omega)⟩
  · rintro ⟨hn, hm⟩ k hlo hhi
    rw [Span.contains_iff] at hn hm ⊢
    omega

theorem Span.Connects.symm {r : Span} {n m : Nat} (h : r.Connects n m) : r.Connects m n :=
  Span.connects_iff.2 (Span.connects_iff.1 h).symm

namespace Document

variable {d : Document}

/-- A position is on a line of a window. -/
def OnLineOf (d : Document) (window : Span) (i : Nat) : Prop :=
  ∃ m, d.index.lineHolding? i = some m ∧ window.contains m = true

theorem onLineOf_iff {window : Span} {i m : Nat} (h : d.index.lineHolding? i = some m) :
    d.OnLineOf window i ↔ window.contains m = true := by
  constructor
  · rintro ⟨m', hm, hc⟩
    rw [h] at hm
    cases hm
    exact hc
  · intro hc
    exact ⟨m, h, hc⟩

theorem Current.lineHolding?_of_mem_placed (h : d.Current) {n : Nat} {line : Line (List Token)}
    (hl : d.index.line? n = some line) {t : Token} (ht : t ∈ line.placed) :
    d.index.lineHolding? t.span.start = some n := by
  have hb := (h.fresh.inOrder_placed (List.mem_of_getElem? hl)).bounds ht
  exact h.fresh.covers.lineHolding?_of_line? hl hb.1 (by omega)

theorem Current.exists_lineHolding? (h : d.Current) {above lines below : List (Line (List Token))}
    (hl : d.index.lines = above ++ lines ++ below) {t : Token}
    (ht : t ∈ lines.flatMap Line.placed) :
    ∃ m, d.index.lineHolding? t.span.start = some m ∧ above.length ≤ m ∧
      m < above.length + lines.length := by
  obtain ⟨line, hm, ht⟩ := List.mem_flatMap.1 ht
  obtain ⟨k, hk, rfl⟩ := List.getElem_of_mem hm
  refine ⟨above.length + k, h.lineHolding?_of_mem_placed ?_ ht, by omega, by omega⟩
  rw [LineIndex.line?, hl, List.append_assoc, List.getElem?_append_right (by omega),
    Nat.add_sub_cancel_left, List.getElem?_append_left hk, List.getElem?_eq_getElem hk]

end Document

/-! ## The walk in a window -/

namespace TokenPlace

variable {d : Document} (p : TokenPlace d)

theorem mem_placed_line {t : Token} (ht : t ∈ p.left ++ p.origin :: p.right) :
    t.offset p.line.span.start ∈ p.line.placed := by
  rw [Line.placed, p.info_eq, Option.getD_some]
  exact List.mem_map_of_mem ht

theorem lineHolding?_start (h : d.Current) :
    d.index.lineHolding? p.token.span.start = some p.above.length :=
  h.lineHolding?_of_mem_placed p.line?_eq
    (p.mem_placed_line (List.mem_append_right _ List.mem_cons_self))

theorem lineHolding?_last (h : d.Current) :
    d.index.lineHolding? (p.token.span.stop - 1) = some p.above.length := by
  have hb := (h.fresh.inOrder_placed p.line_mem).bounds
    (p.mem_placed_line (List.mem_append_right _ List.mem_cons_self))
  have htoken : p.origin.offset p.line.span.start = p.token := rfl
  rw [htoken] at hb
  exact h.fresh.covers.lineHolding?_of_line? p.line?_eq (by omega) (by omega)

/-- The walk forwards over all lines begins with the walk in the window, and goes on behind the
last line of the window. -/
theorem exists_after_append (h : d.Current) {window : Span}
    (hw : window.contains p.above.length = true) :
    ∃ rest, p.after = p.afterIn window ++ rest ∧
      (∀ t ∈ p.afterIn window, d.OnLineOf window t.span.start) ∧
      ∀ t ∈ rest, ¬ d.OnLineOf window t.span.start := by
  obtain ⟨hstart, hstop⟩ := Span.contains_iff.1 hw
  have hlines : d.index.lines = (p.above ++ [p.line]) ++ p.below := by
    rw [p.lines_eq, List.append_assoc, List.singleton_append]
  have hlength : (p.above ++ [p.line]).length = p.above.length + 1 := List.length_append
  have hcut := List.take_append_drop (window.stop - (p.above.length + 1)) p.below
  have htake := List.length_take_le (window.stop - (p.above.length + 1)) p.below
  generalize hx : p.below.take (window.stop - (p.above.length + 1)) = xs at *
  generalize hy : p.below.drop (window.stop - (p.above.length + 1)) = ys at *
  refine ⟨ys.flatMap Line.placed, ?_, ?_, ?_⟩
  · rw [after, afterIn, hx, ← hcut, List.flatMap_append, List.append_assoc]
  · intro t ht
    rw [afterIn, hx] at ht
    rcases List.mem_append.1 ht with ht | ht
    · obtain ⟨u, hu, rfl⟩ := List.mem_map.1 ht
      refine ⟨p.above.length, h.lineHolding?_of_mem_placed p.line?_eq (p.mem_placed_line ?_), hw⟩
      exact List.mem_append_right _ (List.mem_cons_of_mem _ hu)
    · have hparts : d.index.lines = (p.above ++ [p.line]) ++ xs ++ ys := by
        rw [hlines, ← hcut, List.append_assoc _ xs]
      obtain ⟨m, hm, hlo, hhi⟩ := h.exists_lineHolding? hparts ht
      exact ⟨m, hm, Span.contains_iff.2 (by omega)⟩
  · intro t ht
    have hne : ys ≠ [] := by
      rintro rfl
      cases ht
    have hlen : xs.length = window.stop - (p.above.length + 1) := by
      have := List.length_pos_iff.2 hne
      rw [← hx, List.length_take]
      rw [← hy, List.length_drop] at this
      omega
    have hparts : d.index.lines = (p.above ++ [p.line] ++ xs) ++ ys ++ [] := by
      rw [hlines, ← hcut, List.append_nil, List.append_assoc _ xs]
    obtain ⟨m, hm, hlo, -⟩ := h.exists_lineHolding? hparts ht
    rw [List.length_append, hlength, hlen] at hlo
    rw [Document.onLineOf_iff hm, Span.contains_iff]
    omega

theorem exists_before_append (h : d.Current) {window : Span}
    (hw : window.contains p.above.length = true) :
    ∃ rest, p.before.reverse = (p.beforeIn window).reverse ++ rest ∧
      (∀ t ∈ (p.beforeIn window).reverse, d.OnLineOf window t.span.start) ∧
      ∀ t ∈ rest, ¬ d.OnLineOf window t.span.start := by
  obtain ⟨hstart, hstop⟩ := Span.contains_iff.1 hw
  have hcut := List.take_append_drop window.start p.above
  have hlen : (p.above.take window.start).length = window.start := by
    rw [List.length_take, Nat.min_eq_left hstart]
  have hdrop : (p.above.drop window.start).length = p.above.length - window.start :=
    List.length_drop
  generalize hx : p.above.take window.start = xs at *
  generalize hy : p.above.drop window.start = ys at *
  refine ⟨(xs.flatMap Line.placed).reverse, ?_, ?_, ?_⟩
  · rw [← List.reverse_append, before, beforeIn, hy]
    conv => lhs; rw [← hcut]
    rw [List.flatMap_append, List.append_assoc]
  · intro t ht
    rw [List.mem_reverse, beforeIn, hy] at ht
    rcases List.mem_append.1 ht with ht | ht
    · have hparts : d.index.lines = xs ++ ys ++ (p.line :: p.below) := by
        rw [hcut, p.lines_eq]
      obtain ⟨m, hm, hlo, hhi⟩ := h.exists_lineHolding? hparts ht
      exact ⟨m, hm, Span.contains_iff.2 (by omega)⟩
    · obtain ⟨u, hu, rfl⟩ := List.mem_map.1 ht
      refine ⟨p.above.length, h.lineHolding?_of_mem_placed p.line?_eq (p.mem_placed_line ?_), hw⟩
      exact List.mem_append_left _ hu
  · intro t ht
    rw [List.mem_reverse] at ht
    have hparts : d.index.lines = [] ++ xs ++ (ys ++ p.line :: p.below) := by
      rw [List.nil_append, ← List.append_assoc, hcut, p.lines_eq]
    obtain ⟨m, hm, -, hhi⟩ := h.exists_lineHolding? hparts ht
    rw [List.length_nil, Nat.zero_add, hlen] at hhi
    rw [Document.onLineOf_iff hm, Span.contains_iff]
    omega

/-- The walk over all lines begins with the walk in a window that has the line of the place, and
goes on outside the window. -/
theorem exists_walk_append (h : d.Current) (language : Language) {window : Span}
    (hw : window.contains p.above.length = true) :
    ∃ rest, p.walk language ⟨0, d.index.size⟩ = p.walk language window ++ rest ∧
      (∀ t ∈ p.walk language window, d.OnLineOf window t.span.start) ∧
      ∀ t ∈ rest, ¬ d.OnLineOf window t.span.start := by
  unfold walk
  split
  · rw [p.afterIn_all]
    exact p.exists_after_append h hw
  · rw [p.beforeIn_all]
    exact p.exists_before_append h hw

end TokenPlace

/-! ## Windows cut a search -/

namespace Document

variable {d : Document}

theorem caretLine?_of_caretPlace? {α : Type} {index : LineIndex α} {i n column : Nat}
    (h : index.caretPlace? i = some (n, column)) : index.caretLine? i = some n := by
  simp only [LineIndex.caretPlace?, Option.bind_eq_bind, Option.bind_eq_some_iff, Option.pure_def,
    Option.some.injEq, Prod.mk.injEq] at h
  obtain ⟨n', hn, -, -, rfl, -⟩ := h
  exact hn

/-- From a place, a search in a window that has its line finds what the search over all lines
finds on a line of the window. -/
theorem Current.bracketPartner?_iff_of_contains (h : d.Current) (hf : Fits d.text)
    (language : Language) (p : TokenPlace d) {window r : Span}
    (hcaret : d.index.caretPlace? p.token.span.stop = some (p.above.length, p.origin.span.stop))
    (hw : window.contains p.above.length = true) :
    d.index.bracketPartner? language p.token.span.stop window = some r ↔
      d.index.bracketPartner? language p.token.span.stop ⟨0, d.index.size⟩ = some r ∧
        d.OnLineOf window r.start := by
  obtain ⟨rest, hwalk, hin, hout⟩ := p.exists_walk_append h language hw
  rw [p.bracketPartner?_eq h hf language hcaret hw,
    p.bracketPartner?_eq h hf language hcaret p.contains_all, hwalk]
  cases language.partner? p.origin.kind with
  | none => simp
  | some partner =>
    rw [Option.bind_some, Option.bind_some]
    exact findPartner_front_iff (P := fun s => d.OnLineOf window s.start) hin hout

/-- A search in a window finds what the search over all lines finds, if the window has the lines
from the one that the search starts on to the one of the bracket that it finds. -/
theorem Current.bracketPartner?_iff_connects (h : d.Current) (hf : Fits d.text)
    (language : Language) (i : Nat) (window r : Span) :
    d.index.bracketPartner? language i window = some r ↔
      d.index.bracketPartner? language i ⟨0, d.index.size⟩ = some r ∧
        ∃ n m, d.index.caretLine? i = some n ∧ d.index.lineHolding? r.start = some m ∧
          window.Connects n m := by
  constructor
  · intro hr
    obtain ⟨p, rfl, hcaret, hw, -⟩ := TokenPlace.exists_of_bracketPartner? hr
    obtain ⟨hall, m, hm, hc⟩ := (h.bracketPartner?_iff_of_contains hf language p hcaret hw).1 hr
    exact ⟨hall, p.above.length, m, caretLine?_of_caretPlace? hcaret, hm,
      Span.connects_iff.2 ⟨hw, hc⟩⟩
  · rintro ⟨hall, n, m, hn, hm, hc⟩
    obtain ⟨p, rfl, hcaret, -⟩ := TokenPlace.exists_of_bracketPartner? hall
    obtain rfl : n = p.above.length :=
      Option.some.inj (hn.symm.trans (caretLine?_of_caretPlace? hcaret))
    obtain ⟨hw, hmw⟩ := Span.connects_iff.1 hc
    exact (h.bracketPartner?_iff_of_contains hf language p hcaret hw).2 ⟨hall, m, hm, hmw⟩

theorem Current.lt_lastPosition (h : d.Current) (hf : Fits d.text) {i n : Nat}
    (hn : d.index.lineHolding? i = some n) : n < lastPosition := by
  rw [h.fresh.covers.lineHolding?_eq] at hn
  split at hn
  · next hi =>
    cases hn
    have := lineNumber_le d.text i
    unfold Fits at hf
    unfold lastPosition
    omega
  · cases hn

/-- The window around a line has the lines up to its width away. At the end of the positions it is
cut off, where no line is. -/
theorem contains_window_iff {n m w : Nat} (hn : n < lastPosition) (hm : m < lastPosition) :
    Span.contains ⟨n - w, advance (advance n w) 1⟩ n = true ∧
        Span.contains ⟨n - w, advance (advance n w) 1⟩ m = true ↔
      n ≤ m + w ∧ m ≤ n + w := by
  simp only [Span.contains_iff, advance]
  omega

/-- The search near a bracket finds what the search over all lines finds, if the two brackets are
at most the given number of lines apart. -/
theorem Current.nearPartner?_iff (h : d.Current) (hf : Fits d.text) (w i : Nat) (r : Span) :
    { d with bracketWindow := w }.nearPartner? i = some r ↔
      d.index.bracketPartner? d.language i ⟨0, d.index.size⟩ = some r ∧
        ∃ n m, d.index.lineHolding? (i - 1) = some n ∧ d.index.lineHolding? r.start = some m ∧
          n ≤ m + w ∧ m ≤ n + w := by
  have hnear : { d with bracketWindow := w }.nearPartner? i = some r ↔
      ∃ n, d.index.caretLine? i = some n ∧ d.index.bracketPartner? d.language i
        ⟨n - w, advance (advance n w) 1⟩ = some r := by
    simp only [nearPartner?, Option.bind_eq_bind, Option.bind_eq_some_iff]
  rw [hnear]
  constructor
  · rintro ⟨n, hn, hr⟩
    obtain ⟨hall, n', m, hn', hm, hc⟩ := (h.bracketPartner?_iff_connects hf _ i _ r).1 hr
    obtain rfl : n = n' := Option.some.inj (hn.symm.trans hn')
    obtain ⟨p, rfl, hcaret, -⟩ := TokenPlace.exists_of_bracketPartner? hall
    obtain rfl : n = p.above.length :=
      Option.some.inj (hn.symm.trans (caretLine?_of_caretPlace? hcaret))
    have hlast := p.lineHolding?_last h
    have hdist := (contains_window_iff (h.lt_lastPosition hf hlast) (h.lt_lastPosition hf hm)).1
      (Span.connects_iff.1 hc)
    exact ⟨hall, _, m, hlast, hm, hdist⟩
  · rintro ⟨hall, n, m, hn, hm, hdist⟩
    obtain ⟨p, rfl, hcaret, -⟩ := TokenPlace.exists_of_bracketPartner? hall
    obtain rfl : n = p.above.length := Option.some.inj (hn.symm.trans (p.lineHolding?_last h))
    have hline := caretLine?_of_caretPlace? hcaret
    have hc := (contains_window_iff (h.lt_lastPosition hf hn) (h.lt_lastPosition hf hm)).2 hdist
    exact ⟨_, hline, (h.bracketPartner?_iff_connects hf _ _ _ r).2
      ⟨hall, _, m, hline, hm, Span.connects_iff.2 hc⟩⟩

/-- Whatever was done to a document of any language, a search in a window of lines finds a span
exactly when the search over all lines finds it and the window has every line from the line of the
caret to the line of that span. So the search near a bracket finds what the search over all lines
finds, as far as the two brackets are at most the given number of lines apart. -/
theorem bracketPartner?_window (language : Language) (options : ScanOptions) (text : List Char)
    (ops : List Operation) (h : (openText language options text).FitsThrough ops) :
    let d := (openText language options text).run ops
    (∀ i window r, d.index.bracketPartner? d.language i window = some r ↔
      d.index.bracketPartner? d.language i ⟨0, d.index.size⟩ = some r ∧
        ∃ n m, d.index.caretLine? i = some n ∧ d.index.lineHolding? r.start = some m ∧
          ∀ k, min n m ≤ k → k ≤ max n m → window.contains k = true) ∧
    ∀ w i r, { d with bracketWindow := w }.nearPartner? i = some r ↔
      d.index.bracketPartner? d.language i ⟨0, d.index.size⟩ = some r ∧
        ∃ n m, d.index.lineHolding? (i - 1) = some n ∧ d.index.lineHolding? r.start = some m ∧
          n ≤ m + w ∧ m ≤ n + w := by
  intro d
  obtain ⟨hc, -, -, -, -, hf⟩ := (current_openText language options text).run h
  exact ⟨hc.bracketPartner?_iff_connects hf d.language, hc.nearPartner?_iff hf⟩

/-- Words that are brackets, in whatever letter case, two lines apart: a window of one line less
has no partner, and the widest one has the same as the search over all lines. -/
theorem bracketPartner?_window_words :
    let language : Language := ⟨fun _ => none, [(.identifier "do", .identifier "od")]⟩
    let d := (openText language ⟨.empty, false, false⟩ ['d', 'o', '\n', 'x', '\n', 'O', 'D']).run
      [.delete ⟨3, 4⟩]
    d.index.bracketPartner? d.language 2 ⟨0, 3⟩ = some ⟨4, 6⟩ ∧
      d.index.bracketPartner? d.language 2 ⟨0, 2⟩ = none ∧
      { d with bracketWindow := 1 }.nearPartner? 2 = none ∧
      { d with bracketWindow := lastPosition }.nearPartner? 2 = some ⟨4, 6⟩ := by
  intro language d
  obtain ⟨-, hnear⟩ := bracketPartner?_window language ⟨.empty, false, false⟩
    ['d', 'o', '\n', 'x', '\n', 'O', 'D'] [.delete ⟨3, 4⟩] (by decide +kernel)
  refine ⟨by decide +kernel, by decide +kernel, by decide +kernel, ?_⟩
  exact (hnear lastPosition 2 ⟨4, 6⟩).2
    ⟨by decide +kernel, 0, 2, by decide +kernel, by decide +kernel, by decide, by decide⟩

end Document

/-! ## The way back -/

theorem Paired.symm {ts : List Token} {t u : Token} (h : Paired ts t u) : Paired ts u t := by
  obtain ⟨o, c, hb, hpair⟩ := h
  exact ⟨o, c, hb, hpair.symm⟩

theorem Paired.exists_punctuation {ts : List Token} {t u : Token} (h : Paired ts t u) :
    t ∈ ts ∧ ∃ b, t.kind = .punctuation b := by
  obtain ⟨o, c, -, hpair | hpair⟩ := h
  · rcases (mem_of_mem_stackPairs hpair).1 with hs | ⟨ht, hk⟩
    · cases hs
    · exact ⟨ht, o, hk⟩
  · obtain ⟨-, ht, hk⟩ := mem_of_mem_stackPairs hpair
    exact ⟨ht, c, hk⟩

theorem Paired.exists_place {d : Document} {t u : Token} (hp : Paired d.tokens.toList t u)
    (h : d.Current) :
    ∃ p : TokenPlace d, p.token = t ∧ t.span.stop = t.span.start + 1 ∧
      d.index.caretLine? t.span.stop = some p.above.length := by
  obtain ⟨ht, b, hk⟩ := hp.exists_punctuation
  obtain ⟨p, rfl⟩ := TokenPlace.exists_of_mem h ht
  exact ⟨p, rfl, (p.text_punctuation h hk).1,
    Document.caretLine?_of_caretPlace? (p.caretPlace?_eq h hk)⟩

namespace Document

variable {d : Document}

/-- What the search over all lines finds, it finds from there, and the two brackets are on the
lines of the two carets. -/
theorem Current.exists_back (h : d.Current) (hf : Fits d.text) {i : Nat} {r : Span}
    (hr : d.index.bracketPartner? .sql i ⟨0, d.index.size⟩ = some r) :
    d.index.bracketPartner? .sql r.stop ⟨0, d.index.size⟩ = some ⟨i - 1, i⟩ ∧
      r.stop - 1 = r.start ∧ d.index.caretLine? i = d.index.lineHolding? (i - 1) ∧
      d.index.caretLine? r.stop = d.index.lineHolding? r.start := by
  obtain ⟨t, -, rfl, u, hpair, rfl⟩ := (h.bracketPartner?_iff hf i r).1 hr
  obtain ⟨p, rfl, htlen, htline⟩ := hpair.exists_place h
  obtain ⟨q, rfl, hulen, huline⟩ := hpair.symm.exists_place h
  have hspan : p.token.span = ⟨p.token.span.stop - 1, p.token.span.stop⟩ := by
    rw [htlen, Nat.add_sub_cancel, ← htlen]
  refine ⟨?_, by omega, ?_, ?_⟩
  · exact (h.bracketPartner?_iff hf _ _).2
      ⟨q.token, q.token_mem h, rfl, p.token, hpair.symm, hspan⟩
  · rw [htline, p.lineHolding?_last h]
  · rw [huline, q.lineHolding?_start h]

theorem Current.bracketPartner?_back (h : d.Current) (hf : Fits d.text) {i : Nat}
    {window r : Span} (hr : d.index.bracketPartner? .sql i window = some r) :
    d.index.bracketPartner? .sql r.stop window = some ⟨i - 1, i⟩ := by
  obtain ⟨hall, n, m, hn, hm, hc⟩ := (h.bracketPartner?_iff_connects hf .sql i window r).1 hr
  obtain ⟨hback, -, hi, hstop⟩ := h.exists_back hf hall
  refine (h.bracketPartner?_iff_connects hf .sql _ window _).2 ⟨hback, m, n, ?_, ?_, hc.symm⟩
  · rw [hstop, hm]
  · rw [← hi, hn]

theorem Current.nearPartner?_back (h : d.Current) (hf : Fits d.text) (hsql : d.language = .sql)
    {w i : Nat} {r : Span} (hr : { d with bracketWindow := w }.nearPartner? i = some r) :
    { d with bracketWindow := w }.nearPartner? r.stop = some ⟨i - 1, i⟩ := by
  obtain ⟨hall, n, m, hn, hm, hnm, hmn⟩ := (h.nearPartner?_iff hf w i r).1 hr
  rw [hsql] at hall
  obtain ⟨hback, hlen, -, -⟩ := h.exists_back hf hall
  refine (h.nearPartner?_iff hf w _ _).2 ⟨?_, m, n, ?_, hn, hmn, hnm⟩
  · rw [hsql]
    exact hback
  · rw [hlen, hm]

/-- Whatever was done to an SQL document, the search from the partner of a bracket finds that
bracket again, near it with every width and in every window of lines. -/
theorem nearPartner?_involutive (options : ScanOptions) (text : List Char) (ops : List Operation)
    (h : (openText .sql options text).FitsThrough ops) :
    let d := (openText .sql options text).run ops
    (∀ w i r, { d with bracketWindow := w }.nearPartner? i = some r →
      { d with bracketWindow := w }.nearPartner? r.stop = some ⟨i - 1, i⟩) ∧
    ∀ i window r, d.index.bracketPartner? d.language i window = some r →
      d.index.bracketPartner? d.language r.stop window = some ⟨i - 1, i⟩ := by
  intro d
  obtain ⟨hc, hlang, -, -, -, hf⟩ := (current_openText .sql options text).run h
  have hsql : d.language = .sql := hlang
  refine ⟨fun w i r hr => hc.nearPartner?_back hf hsql hr, fun i window r hr => ?_⟩
  rw [hsql] at hr ⊢
  exact hc.bracketPartner?_back hf hr

/-- Of two opening brackets the second is the partner of the bracket that ends the text, two lines
below and behind a line that cannot be scanned. -/
theorem nearPartner?_involutive_last :
    let d := (openText .sql ⟨.empty, false, false⟩ ['(', '(', '\n', '§', '\n']).run
      [.insert 5 [')']]
    { d with bracketWindow := 2 }.nearPartner? 6 = some ⟨1, 2⟩ ∧
      { d with bracketWindow := 2 }.nearPartner? 2 = some ⟨5, 6⟩ ∧
      d.index.bracketPartner? d.language 2 ⟨0, 3⟩ = some ⟨5, 6⟩ := by
  intro d
  obtain ⟨hnear, hwindow⟩ := nearPartner?_involutive ⟨.empty, false, false⟩
    ['(', '(', '\n', '§', '\n'] [.insert 5 [')']] (by decide +kernel)
  have h : { d with bracketWindow := 2 }.nearPartner? 6 = some ⟨1, 2⟩ := by decide +kernel
  have hw : d.index.bracketPartner? d.language 6 ⟨0, 3⟩ = some ⟨1, 2⟩ := by decide +kernel
  exact ⟨h, hnear 2 6 ⟨1, 2⟩ h, hwindow 6 ⟨0, 3⟩ ⟨1, 2⟩ hw⟩

end Document

end SqlBuffer
