import SqlBuffer.Highlight
import SqlBuffer.Proofs.TokenPlace

/-
  The colours of a line are those of its tokens.
  Two searches run over a line: one over its tokens, one over the coloured spans, which has no
  spans for plain text. Both stop early, the first at a token that starts behind the column, the
  second at such a span. On tokens in order neither misses the one that covers the column.
-/

namespace SqlBuffer

namespace Highlight

theorem ofTokens_cons (t : Token) (ts : List Token) :
    ofTokens (t :: ts) =
      if t.kind.colour = .text then ofTokens ts else ⟨t.span, t.kind.colour⟩ :: ofTokens ts := by
  unfold ofTokens
  rw [List.filterMap_cons]
  split <;> simp_all

theorem mem_ofTokens {ts : List Token} {x : Highlight} :
    x ∈ ofTokens ts ↔ ∃ t ∈ ts, t.kind.colour ≠ .text ∧ x = ⟨t.span, t.kind.colour⟩ := by
  unfold ofTokens
  rw [List.mem_filterMap]
  refine exists_congr fun t => and_congr_right fun _ => ?_
  split <;> simp_all [eq_comm]

/-- A column has a colour if and only if a token with this colour covers it. -/
theorem colourAt?_ofTokens_iff {a b : Nat} {ts : List Token} (h : InOrder a ts b) (column : Nat)
    (colour : Colour) :
    colourAt? column (ofTokens ts) = some colour ↔
      ∃ t ∈ ts, t.span.contains column = true ∧ t.kind.colour = colour ∧ colour ≠ .text := by
  induction ts generalizing a with
  | nil => simp [ofTokens, colourAt?]
  | cons t ts ih =>
    obtain ⟨-, hlt, hts⟩ := h
    have hrest := ih hts
    -- a column before the end of the token is in none of the tokens behind it
    have hbehind (hc : column < t.span.stop) : colourAt? column (ofTokens ts) ≠ some colour := by
      rw [Ne, hrest]
      rintro ⟨u, hu, hcu, -⟩
      have := (hts.bounds hu).1
      rw [Span.contains_iff] at hcu
      omega
    rw [ofTokens_cons, List.exists_mem_cons_iff, ← hrest]
    by_cases ht : t.kind.colour = .text
    · rw [if_pos ht, or_iff_right]
      rintro ⟨-, rfl, hne⟩
      exact hne ht
    · rw [if_neg ht, colourAt?]
      by_cases hc : t.span.contains column = true
      · rw [if_pos hc, or_iff_left (hbehind (Span.contains_iff.1 hc).2), Option.some.injEq]
        constructor
        · rintro rfl
          exact ⟨hc, rfl, ht⟩
        · rintro ⟨-, heq, -⟩
          exact heq
      · rw [if_neg hc, or_iff_right fun hcov => hc hcov.1]
        by_cases hstart : column < t.span.start
        · -- the search ends here, and nothing is missed
          rw [if_pos hstart]
          exact iff_of_false nofun (hbehind (Nat.lt_trans hstart hlt))
        · rw [if_neg hstart]

end Highlight

/-- The token that the lookup finds in a column is the one that covers it. -/
theorem LineIndex.token_findToken_iff {a b : Nat} {ts : List Token} (h : InOrder a ts b)
    (line : Span) (column done : Nat) (t : Token) :
    (findToken line column done ts).token = some t ↔
      t ∈ ts ∧ t.span.contains column = true := by
  constructor
  · intro hf
    obtain ⟨us, vs, rfl, hc⟩ := exists_of_token_findToken hf
    exact ⟨by simp, hc⟩
  · rintro ⟨hm, hc⟩
    obtain ⟨us, vs, rfl⟩ := List.append_of_mem hm
    rw [findToken_eq line h hc]

namespace Document

/-- Whatever was done to a document, a column of a scanned line has a colour if and only if the
lookup finds a token there that has this colour, other than that of plain text. No coloured span
of the line is hidden from the search. -/
theorem colourAt?_run (language : Language) (options : ScanOptions) (text : List Char)
    (ops : List Operation) (h : (openText language options text).FitsThrough ops) :
    let d := (openText language options text).run ops
    ∀ n ts, d.index.info? n = some ts → ∀ column colour,
      (Highlight.colourAt? column (Highlight.ofTokens ts) = some colour ↔
        ∃ found t, d.index.tokenInColumn? n column = some found ∧ found.token = some t ∧
          t.kind.colour = colour ∧ colour ≠ .text) ∧
      ∀ x ∈ Highlight.ofTokens ts, x.span.contains column = true →
        Highlight.colourAt? column (Highlight.ofTokens ts) = some x.colour := by
  intro d n ts hinfo column colour
  obtain ⟨hc, -⟩ := (current_openText language options text).run h
  obtain ⟨line, hline, hts⟩ := Option.bind_eq_some_iff.1 hinfo
  have hin := hc.fresh.inOrder_info (List.mem_of_getElem? hline) hts
  have hfound : d.index.tokenInColumn? n column =
      some (LineIndex.findToken line.span column 0 ts) := by
    unfold LineIndex.tokenInColumn?
    simp [hline, hts]
  constructor
  · rw [Highlight.colourAt?_ofTokens_iff hin, hfound]
    constructor
    · rintro ⟨t, ht, hcov, hcolour⟩
      exact ⟨_, t, rfl, (LineIndex.token_findToken_iff hin _ _ _ t).2 ⟨ht, hcov⟩, hcolour⟩
    · rintro ⟨found, t, heq, ht, hcolour⟩
      cases heq
      obtain ⟨hm, hcov⟩ := (LineIndex.token_findToken_iff hin _ _ _ t).1 ht
      exact ⟨t, hm, hcov, hcolour⟩
  · intro x hx hcov
    obtain ⟨t, ht, hne, rfl⟩ := Highlight.mem_ofTokens.1 hx
    exact (Highlight.colourAt?_ofTokens_iff hin _ _).2 ⟨t, ht, hcov, rfl, hne⟩

/-- The bracket and the blank have no colour, and the string behind them has its own. -/
theorem colourAt?_run_string :
    let d := (openText .sql ⟨.empty, false, false⟩ ['(', 'a', ' ', '\'', 'b', '\'']).run
      [.insert 0 ['\n']]
    let ts : List Token :=
      [⟨.punctuation .leftParen, ⟨0, 1⟩⟩, ⟨.identifier "a", ⟨1, 2⟩⟩, ⟨.string "b", ⟨3, 6⟩⟩]
    d.index.info? 1 = some ts ∧
      (Highlight.colourAt? 4 (Highlight.ofTokens ts) = some .string ↔
        ∃ found t, d.index.tokenInColumn? 1 4 = some found ∧ found.token = some t ∧
          t.kind.colour = .string ∧ Colour.string ≠ .text) ∧
      (List.range 7).map (Highlight.colourAt? · (Highlight.ofTokens ts)) =
        [none, some .identifier, none, some .string, some .string, some .string, none] := by
  intro d ts
  have hinfo : d.index.info? 1 = some ts := by decide +kernel
  have hrun := colourAt?_run .sql ⟨.empty, false, false⟩ ['(', 'a', ' ', '\'', 'b', '\'']
    [.insert 0 ['\n']] (by decide +kernel)
  exact ⟨hinfo, (hrun 1 ts hinfo 4 .string).1, by decide +kernel⟩

end Document

end SqlBuffer
