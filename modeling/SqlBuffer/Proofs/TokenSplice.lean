import SqlBuffer.Proofs.EditFrame

/-
  Splicing a list of tokens.
  The two searches of a splice need no more than the order of the starts. They cut the list where
  the span starts and where it ends, also if several tokens start there, if none starts in the span
  or if it lies behind all of them. The tokens behind the span cannot be moved below the new ones,
  hence not below the first position. They can be moved past the last one: a token whose start
  would lie there is held at the last position.
-/

namespace SqlBuffer

theorem Token.start_shift {t : Token} {delta : Int} (h : 0 ≤ t.span.start + delta) :
    ((t.shift delta).span.start : Int) = min (t.span.start + delta) lastPosition := by
  show ((min (t.span.start + delta).toNat lastPosition : Nat) : Int) = _
  omega

theorem Token.stop_shift (t : Token) (delta : Int) :
    (t.shift delta).span.stop = (t.shift delta).span.start + t.span.length :=
  rfl

/-- In a list in order the tokens fall into those that start before, in and behind a span. -/
theorem StartOrder.filter_span {ts : List Token} (h : StartOrder ts) {a b : Nat} (hab : a ≤ b) :
    ts.filter (·.span.start < a) ++ (ts.filter (·.span.start < b)).filter (a ≤ ·.span.start) ++
      ts.filter (b ≤ ·.span.start) = ts := by
  have hb : StartOrder (ts.filter (·.span.start < b)) := h.filter _
  have ha : (ts.filter (·.span.start < b)).filter (·.span.start < a) =
      ts.filter (·.span.start < a) := by
    rw [List.filter_filter]
    refine List.filter_congr fun t _ => ?_
    rw [← Bool.decide_and, decide_eq_decide]
    omega
  rw [← ha, hb.filter_append a, h.filter_append b]

namespace TokenList

/-- What a splice is made for. The ends of the spans are positions. The span and the change of
length leave room for the new tokens, and these start in it. -/
structure Spliceable (c : TokenList) (old : Span) (delta : Int) (tokens : List Token) : Prop where
  order : StartOrder c.toList
  bounds : ∀ t ∈ c.toList, t.span.start ≤ t.span.stop ∧ t.span.stop ≤ lastPosition
  old_le : old.start ≤ old.stop
  room : (old.start : Int) ≤ old.stop + delta
  tokens_order : StartOrder tokens
  tokens_start : ∀ t ∈ tokens, old.start ≤ t.span.start ∧
    (t.span.start : Int) ≤ old.stop + delta ∧ t.span.start ≤ lastPosition

/-- What a splice gives: the tokens before the span, the new ones and those behind the span. -/
structure Spliced (c d : TokenList) (old : Span) (delta : Int) (tokens : List Token) : Prop where
  toList_eq : d.toList = c.toList.filter (·.span.start < old.start) ++ tokens ++
    (c.toList.filter (old.stop ≤ ·.span.start)).map (·.shift delta)
  order : StartOrder d.toList
  /-- No start is cut off below, and one is cut off above only at the last position. -/
  start_eq : ∀ t ∈ c.toList, old.stop ≤ t.span.start →
    ((t.shift delta).span.start : Int) = min (t.span.start + delta) lastPosition
  /-- A token behind the span is moved with both ends if these stay within the positions. -/
  moved : ∀ t ∈ c.toList, old.stop ≤ t.span.start → t.span.stop + delta ≤ lastPosition →
    t.MovedBy delta (t.shift delta)
  /-- An empty token that would leave the positions is held at the last of them. -/
  held : ∀ t ∈ c.toList, old.stop ≤ t.span.start → t.span.start = t.span.stop →
    lastPosition < t.span.start + delta → t.shift delta = ⟨t.kind, ⟨lastPosition, lastPosition⟩⟩

namespace Spliceable

variable {c : TokenList} {old : Span} {delta : Int} {tokens : List Token}

theorem start_nonneg (h : Spliceable c old delta tokens) {t : Token}
    (ht : old.stop ≤ t.span.start) : 0 ≤ t.span.start + delta := by
  have := h.room
  omega

theorem le_start_shift (h : Spliceable c old delta tokens) {t : Token}
    (ht : old.stop ≤ t.span.start) {n : Nat} (hn : (n : Int) ≤ old.stop + delta)
    (hl : n ≤ lastPosition) : n ≤ (t.shift delta).span.start := by
  have := Token.start_shift (h.start_nonneg ht)
  omega

theorem toList_splice (h : Spliceable c old delta tokens) :
    (c.splice old delta tokens).toList = c.toList.filter (·.span.start < old.start) ++ tokens ++
      (c.toList.filter (old.stop ≤ ·.span.start)).map (·.shift delta) := by
  have hc : c = ⟨_⟩ := congrArg TokenList.mk (h.order.filter_span h.old_le).symm
  conv => lhs; rw [hc]
  refine splice_append delta h.old_le ?_ ?_ ?_
  · intro t ht
    simpa using (List.mem_filter.1 ht).2
  · intro t ht
    obtain ⟨ht, hs⟩ := List.mem_filter.1 ht
    exact ⟨by simpa using hs, by simpa using (List.mem_filter.1 ht).2⟩
  · intro t ht
    simpa using (List.mem_filter.1 ht).2

theorem startOrder_moved (h : Spliceable c old delta tokens) :
    StartOrder ((c.toList.filter (old.stop ≤ ·.span.start)).map (·.shift delta)) := by
  refine List.pairwise_map.2 ((h.order.filter _).imp_of_mem ?_)
  intro t u ht hu hle
  have ht : old.stop ≤ t.span.start := by simpa using (List.mem_filter.1 ht).2
  have := Token.start_shift (h.start_nonneg ht)
  have := Token.start_shift (h.start_nonneg (Nat.le_trans ht hle))
  omega

theorem startOrder_splice (h : Spliceable c old delta tokens) :
    StartOrder (c.splice old delta tokens).toList := by
  rw [h.toList_splice]
  refine List.pairwise_append.2 ⟨List.pairwise_append.2 ⟨h.order.filter _, h.tokens_order, ?_⟩,
    h.startOrder_moved, ?_⟩
  · intro t ht u hu
    have : t.span.start < old.start := by simpa using (List.mem_filter.1 ht).2
    have := (h.tokens_start u hu).1
    omega
  · intro t ht u hu
    obtain ⟨v, hv, rfl⟩ := List.mem_map.1 hu
    have hstop : old.stop ≤ v.span.start := by simpa using (List.mem_filter.1 hv).2
    rcases List.mem_append.1 ht with ht | ht
    · obtain ⟨ht, hs⟩ := List.mem_filter.1 ht
      have hs : t.span.start < old.start := by simpa using hs
      have := h.bounds t ht
      have := h.room
      exact h.le_start_shift hstop (by omega) (by omega)
    · obtain ⟨-, hroom, hlast⟩ := h.tokens_start t ht
      exact h.le_start_shift hstop hroom hlast

/-- A splice puts the new tokens in the place of those that start in the span and keeps the order.
It keeps the tokens before the span and moves those behind it, as far as the positions go. -/
theorem spliced_splice (h : Spliceable c old delta tokens) :
    Spliced c (c.splice old delta tokens) old delta tokens := by
  refine ⟨h.toList_splice, h.startOrder_splice, ?_, ?_, ?_⟩
  · intro t _ hs
    exact Token.start_shift (h.start_nonneg hs)
  · intro t ht hs hl
    have hle := (h.bounds t ht).1
    obtain ⟨start, hstart⟩ := Int.eq_ofNat_of_zero_le (h.start_nonneg hs)
    exact ⟨rfl, Span.movedBy_shift hle hstart (by omega)⟩
  · intro t _ hs hempty hl
    have hshift := Token.start_shift (h.start_nonneg hs)
    have hstart : (t.shift delta).span.start = lastPosition := by omega
    refine congrArg (Token.mk t.kind) ?_
    show Span.mk (t.shift delta).span.start (t.shift delta).span.stop = _
    rw [Token.stop_shift, hstart, Span.length, hempty, Nat.sub_self, Nat.add_zero]

/-- Two tokens start where the span does and both are replaced, by two that start at one place as
well. The token at the end of the positions stays there. -/
theorem spliced_splice_shared_start :
    let c : TokenList := ⟨[⟨.comment, ⟨0, 3⟩⟩, ⟨.newLine, ⟨4, 4⟩⟩, ⟨.comment, ⟨4, 8⟩⟩,
      ⟨.comment, ⟨9, 12⟩⟩, ⟨.newLine, ⟨lastPosition, lastPosition⟩⟩]⟩
    let tokens : List Token := [⟨.newLine, ⟨4, 5⟩⟩, ⟨.comment, ⟨4, 11⟩⟩]
    Spliced c (c.splice ⟨4, 9⟩ 2 tokens) ⟨4, 9⟩ 2 tokens ∧
      (c.splice ⟨4, 9⟩ 2 tokens).toList.map (·.span) =
        [⟨0, 3⟩, ⟨4, 5⟩, ⟨4, 11⟩, ⟨11, 14⟩, ⟨lastPosition, lastPosition⟩] := by
  intro c tokens
  have h : Spliceable c ⟨4, 9⟩ 2 tokens :=
    ⟨by decide, by decide, by decide, by decide, by decide, by decide⟩
  exact ⟨h.spliced_splice, by decide +kernel⟩

/-- A token at the last position is not moved by one place. -/
theorem not_movedBy_splice_last :
    let t : Token := ⟨.newLine, ⟨lastPosition, lastPosition⟩⟩
    Spliceable ⟨[t]⟩ ⟨0, 0⟩ 1 [] ∧ (splice ⟨[t]⟩ ⟨0, 0⟩ 1 []).toList = [t] ∧
      ¬ ∃ u, (splice ⟨[t]⟩ ⟨0, 0⟩ 1 []).toList = [u] ∧ t.MovedBy 1 u := by
  intro t
  have hsplice : (splice ⟨[t]⟩ ⟨0, 0⟩ 1 []).toList = [t] := by decide +kernel
  refine ⟨⟨by decide, by decide, by decide, by decide, by decide, by decide⟩, hsplice, ?_⟩
  rintro ⟨u, hu, -, hstart, -⟩
  rw [hsplice] at hu
  obtain rfl := (List.cons.inj hu).1
  omega

end Spliceable

end TokenList

end SqlBuffer
