import SqlBuffer.Proofs.EditFrame
import SqlBuffer.Proofs.LineQuery
import SqlBuffer.Proofs.TokenPlace

/-
  The lookup of tokens shares the text out.
  A column of a scanned line is in a token, or it parts the tokens of the line into those that stop
  at or before it and those that start after it. In both cases what the lookup finds depends on
  the token or on the two parts only, and not on the column: `findToken_eq` and `findToken_gap`. So
  every position in the span that is found has the same answer, and the spans are the tokens and
  the largest stretches of a line without one. A line that cannot be scanned is shared out position
  by position.
-/

namespace SqlBuffer

/-! ## Columns between tokens -/

/-- Where the last of some tokens stops, or column `done` if there is none. -/
def lastStop (done : Nat) : List Token → Nat
  | [] => done
  | t :: ts => lastStop t.span.stop ts

/-- Where the first of some tokens starts, or column `stop` if there is none. -/
def firstStart (stop : Nat) : List Token → Nat
  | [] => stop
  | t :: _ => t.span.start

theorem lastStop_eq (done : Nat) (ts : List Token) :
    lastStop done ts = done ∨ ∃ t ∈ ts, t.span.stop = lastStop done ts := by
  induction ts generalizing done with
  | nil => exact Or.inl rfl
  | cons t ts ih =>
    rcases ih t.span.stop with h | ⟨u, hu, h⟩
    · exact Or.inr ⟨t, List.mem_cons_self, h.symm⟩
    · exact Or.inr ⟨u, List.mem_cons_of_mem _ hu, h⟩

theorem firstStart_eq (stop : Nat) (ts : List Token) :
    firstStart stop ts = stop ∨ ∃ t ∈ ts, t.span.start = firstStart stop ts := by
  cases ts with
  | nil => exact Or.inl rfl
  | cons t ts => exact Or.inr ⟨t, List.mem_cons_self, rfl⟩

namespace InOrder

variable {a b : Nat} {ts us vs : List Token}

theorem to_lastStop (h : InOrder a ts b) : InOrder a ts (lastStop a ts) := by
  induction ts generalizing a with
  | nil => exact Nat.le_refl a
  | cons t ts ih => exact ⟨h.1, h.2.1, ih h.2.2⟩

theorem from_lastStop (h : InOrder a (us ++ vs) b) : InOrder (lastStop a us) vs b := by
  induction us generalizing a with
  | nil => exact h
  | cons u us ih => exact ih h.2.2

theorem firstStart_le (h : InOrder a ts b) :
    firstStart b ts ≤ b ∧ ∀ t ∈ ts, firstStart b ts ≤ t.span.start := by
  cases ts with
  | nil => exact ⟨Nat.le_refl b, fun t ht => absurd ht List.not_mem_nil⟩
  | cons t ts =>
    have hb := h.bounds List.mem_cons_self
    refine ⟨by dsimp only [firstStart]; omega, fun u hu => ?_⟩
    rcases List.mem_cons.1 hu with rfl | hu
    · exact Nat.le_refl _
    · have := (h.2.2.bounds hu).1
      dsimp only [firstStart]
      omega

theorem exists_split (h : InOrder a ts b) (column : Nat) :
    (∃ us t vs, ts = us ++ t :: vs ∧ t.span.contains column = true) ∨
      ∃ us vs, ts = us ++ vs ∧ (∀ u ∈ us, u.span.stop ≤ column) ∧
        ∀ v ∈ vs, column < v.span.start := by
  induction ts generalizing a with
  | nil => exact Or.inr ⟨[], [], rfl, by simp, by simp⟩
  | cons t ts ih =>
    obtain ⟨-, hlt, hts⟩ := h
    by_cases hstart : column < t.span.start
    · refine Or.inr ⟨[], t :: ts, rfl, by simp, fun v hv => ?_⟩
      rcases List.mem_cons.1 hv with rfl | hv
      · exact hstart
      · have := (hts.bounds hv).1
        omega
    · by_cases hstop : column < t.span.stop
      · exact Or.inl ⟨[], t, ts, rfl, Span.contains_iff.2 ⟨Nat.le_of_not_lt hstart, hstop⟩⟩
      · rcases ih hts with ⟨us, u, vs, rfl, hu⟩ | ⟨us, vs, rfl, hu, hv⟩
        · exact Or.inl ⟨t :: us, u, vs, rfl, hu⟩
        · refine Or.inr ⟨t :: us, vs, rfl, fun u hm => ?_, hv⟩
          rcases List.mem_cons.1 hm with rfl | hm
          · exact Nat.le_of_not_lt hstop
          · exact hu u hm

end InOrder

/-- Between two tokens of a line, or at one of its ends, the lookup finds the gap. -/
theorem LineIndex.findToken_gap {line : Span} {column done : Nat} {us vs : List Token}
    (hline : line.start ≤ line.stop) (h : InOrder done (us ++ vs) line.length)
    (hu : ∀ u ∈ us, u.span.stop ≤ column) (hv : ∀ v ∈ vs, column < v.span.start) :
    findToken line column done (us ++ vs) =
      ⟨none, line.start + lastStop done us, line.start + firstStart line.length vs⟩ := by
  induction us generalizing done with
  | nil =>
    have hdone : done ≤ line.length := h.le
    unfold Span.length at hdone
    rw [List.nil_append]
    cases vs with
    | nil =>
      rw [findToken, lastStop, firstStart, Nat.min_eq_left (by omega), Span.length,
        Nat.add_sub_cancel' hline]
    | cons v vs => rw [findToken, if_pos (hv v List.mem_cons_self), lastStop, firstStart]
  | cons u us ih =>
    have hstop := hu u List.mem_cons_self
    have hlt : u.span.start < u.span.stop := h.2.1
    have hout : ¬ u.span.contains column = true := by
      rw [Span.contains_iff]
      omega
    rw [List.cons_append, findToken, if_neg (by omega), if_neg hout, lastStop]
    exact ih h.2.2 fun w hw => hu w (List.mem_cons_of_mem _ hw)

/-! ## The lookup on a line -/

namespace Line

/-- A stretch of a line without a token. -/
structure Free (line : Line (List Token)) (r : Span) : Prop where
  start_le : line.span.start ≤ r.start
  stop_le : r.stop ≤ line.span.stop
  not_contains : ∀ t ∈ line.placed, ∀ i, r.contains i = true → ¬ t.span.contains i = true

/-- A largest stretch of a line without a token, from a token or the start of the line to a token
or the end of the line. -/
structure Gap (line : Line (List Token)) (r : Span) : Prop where
  free : line.Free r
  maximal : ∀ s, line.Free s → s.Meets r → r.start ≤ s.start ∧ s.stop ≤ r.stop
  start_eq : r.start = line.span.start ∨ ∃ t ∈ line.placed, r.start = t.span.stop
  stop_eq : r.stop = line.span.stop ∨ ∃ t ∈ line.placed, r.stop = t.span.start

/-- What is found at a position of a line is a token of it or a gap, around the position. Where the
tokens are not known it is the one position. -/
structure Finds (line : Line (List Token)) (i : Nat) (found : TokenAt) : Prop where
  contains : found.span.contains i = true
  within : line.span.start ≤ found.span.start ∧ found.span.stop ≤ line.span.stop
  token : ∀ t, found.token = some t →
    (∃ ts, line.info = some ts ∧ t ∈ ts) ∧ found.span = t.span.offset line.span.start
  gap : line.info.isSome = true → found.token = none → line.Gap found.span
  unknown : line.info = none → found = ⟨none, i, i + 1⟩

/-- The lookup at a position of a line finds what it should, and it finds the same at every
position of the span that it finds. -/
def Answers (line : Line (List Token)) (i : Nat) : Prop :=
  line.Finds i (line.tokenAt i) ∧
    ∀ j, (line.tokenAt i).span.contains j = true → line.tokenAt j = line.tokenAt i

/-- The stretch of a line behind some of its tokens and before the others. -/
def between (line : Span) (us vs : List Token) : Span :=
  ⟨line.start + lastStop 0 us, line.start + firstStart line.length vs⟩

section Tokens

variable {line : Line (List Token)} {ts us vs : List Token}

theorem placed_eq (hinfo : line.info = some ts) :
    line.placed = ts.map (·.offset line.span.start) := by
  rw [placed, hinfo, Option.getD_some]

theorem offset_mem_placed (hinfo : line.info = some ts) {t : Token} (ht : t ∈ ts) :
    t.offset line.span.start ∈ line.placed := by
  rw [placed_eq hinfo]
  exact List.mem_map_of_mem ht

theorem tokenAt_eq (hinfo : line.info = some ts) (i : Nat) :
    line.tokenAt i = LineIndex.findToken line.span (i - line.span.start) 0 ts := by
  rw [tokenAt, hinfo]
  rfl

theorem Free.not_column {r : Span} (hr : line.Free r) (hinfo : line.info = some ts) {t : Token}
    (ht : t ∈ ts) (column : Nat) (hs : r.start ≤ line.span.start + column)
    (hlt : line.span.start + column < r.stop) :
    ¬ (t.span.start ≤ column ∧ column < t.span.stop) := by
  have hnot := hr.not_contains _ (offset_mem_placed hinfo ht) _ (Span.contains_iff.2 ⟨hs, hlt⟩)
  rw [Span.contains_iff] at hnot
  dsimp only [Token.offset, Span.offset] at hnot
  omega

variable (hinfo : line.info = some (us ++ vs)) (hin : InOrder 0 (us ++ vs) line.span.length)
  (hle : line.span.start ≤ line.span.stop)
include hinfo hin hle

theorem free_between : line.Free (between line.span us vs) := by
  obtain ⟨m, hus, -⟩ := hin.exists_of_append
  obtain ⟨hlen, hstarts⟩ := hin.from_lastStop.firstStart_le
  unfold Span.length at hlen
  refine ⟨Nat.le_add_right _ _, ?_, ?_⟩
  · dsimp only [between, Span.length]
    omega
  · intro t ht i hi hc
    rw [placed_eq hinfo] at ht
    obtain ⟨u, hu, rfl⟩ := List.mem_map.1 ht
    rw [Span.contains_iff] at hi hc
    dsimp only [between, Token.offset, Span.offset] at hi hc
    rcases List.mem_append.1 hu with hu | hu
    · have := (hus.to_lastStop.bounds hu).2.2
      omega
    · have := hstarts u hu
      omega

/-- A larger stretch would have the last column of the token before it or the first column of the
token behind it. -/
theorem between_maximal {s : Span} (hs : line.Free s) (hm : s.Meets (between line.span us vs)) :
    (between line.span us vs).start ≤ s.start ∧ s.stop ≤ (between line.span us vs).stop := by
  obtain ⟨j, hj, hjr⟩ := hm
  obtain ⟨m, hus, -⟩ := hin.exists_of_append
  have hstart := hs.start_le
  have hstop := hs.stop_le
  rw [Span.contains_iff] at hj hjr
  dsimp only [between] at hjr ⊢
  constructor
  · refine Nat.le_of_not_lt fun hlt => ?_
    rcases lastStop_eq 0 us with hz | ⟨u, hu, hz⟩
    · omega
    · have hb := hus.to_lastStop.bounds hu
      exact hs.not_column hinfo (List.mem_append_left _ hu) (lastStop 0 us - 1) (by omega)
        (by omega) (by omega)
  · refine Nat.le_of_not_lt fun hlt => ?_
    rcases firstStart_eq line.span.length vs with hz | ⟨v, hv, hz⟩
    · have hlen : line.span.length = line.span.stop - line.span.start := rfl
      omega
    · have hb := hin.from_lastStop.bounds hv
      exact hs.not_column hinfo (List.mem_append_right _ hv) (firstStart line.span.length vs)
        (by omega) hlt (by omega)

theorem gap_between : line.Gap (between line.span us vs) := by
  refine ⟨free_between hinfo hin hle, fun s hs hm => between_maximal hinfo hin hle hs hm, ?_, ?_⟩
  · rcases lastStop_eq 0 us with hz | ⟨u, hu, hz⟩
    · refine Or.inl ?_
      rw [between, hz]
      rfl
    · refine Or.inr ⟨_, offset_mem_placed hinfo (List.mem_append_left _ hu), ?_⟩
      rw [between, ← hz]
      exact Nat.add_comm _ _
  · rcases firstStart_eq line.span.length vs with hz | ⟨v, hv, hz⟩
    · refine Or.inl ?_
      rw [between, hz]
      exact Nat.add_sub_cancel' hle
    · refine Or.inr ⟨_, offset_mem_placed hinfo (List.mem_append_right _ hv), ?_⟩
      rw [between, ← hz]
      exact Nat.add_comm _ _

theorem answers_between {i : Nat} (hi : line.span.contains i = true)
    (hu : ∀ u ∈ us, u.span.stop ≤ i - line.span.start)
    (hv : ∀ v ∈ vs, i - line.span.start < v.span.start) : line.Answers i := by
  obtain ⟨hs, hlt⟩ := Span.contains_iff.1 hi
  have hgap := gap_between hinfo hin hle
  have hfound : line.tokenAt i = ⟨none, between line.span us vs⟩ := by
    rw [tokenAt_eq hinfo]
    exact LineIndex.findToken_gap hle hin hu hv
  rw [Answers, hfound]
  refine ⟨⟨?_, ⟨hgap.free.start_le, hgap.free.stop_le⟩, ?_, fun _ _ => hgap, ?_⟩, ?_⟩
  · have hlast : lastStop 0 us ≤ i - line.span.start := by
      rcases lastStop_eq 0 us with hz | ⟨u, hm, hz⟩
      · omega
      · have := hu u hm
        omega
    have hfirst : i - line.span.start < firstStart line.span.length vs := by
      rcases firstStart_eq line.span.length vs with hz | ⟨v, hm, hz⟩
      · have hlen : line.span.length = line.span.stop - line.span.start := rfl
        omega
      · have := hv v hm
        omega
    rw [Span.contains_iff]
    dsimp only [between]
    omega
  · intro t ht
    cases ht
  · intro hnone
    rw [hinfo] at hnone
    cases hnone
  · intro j hj
    rw [Span.contains_iff] at hj
    dsimp only [between] at hj
    obtain ⟨m, hus, -⟩ := hin.exists_of_append
    obtain ⟨-, hstarts⟩ := hin.from_lastStop.firstStart_le
    rw [tokenAt_eq hinfo]
    refine LineIndex.findToken_gap hle hin (fun u hm => ?_) fun v hm => ?_
    · have := (hus.to_lastStop.bounds hm).2.2
      omega
    · have := hstarts v hm
      omega

end Tokens

theorem answers_token {line : Line (List Token)} {us vs : List Token} {t : Token} {i : Nat}
    (hinfo : line.info = some (us ++ t :: vs))
    (hin : InOrder 0 (us ++ t :: vs) line.span.length)
    (hle : line.span.start ≤ line.span.stop) (hlast : line.span.stop ≤ lastPosition)
    (hi : line.span.contains i = true) (ht : t.span.contains (i - line.span.start) = true) :
    line.Answers i := by
  have hmem : t ∈ us ++ t :: vs := List.mem_append_right _ List.mem_cons_self
  have hb := hin.bounds hmem
  unfold Span.length at hb
  have hspan : t.span.shift line.span.start = t.span.offset line.span.start :=
    congrArg Token.span (shift_eq_offset (by omega) (by omega))
  have hfound {j : Nat} (hj : t.span.contains (j - line.span.start) = true) :
      line.tokenAt j = ⟨some t, t.span.offset line.span.start⟩ := by
    rw [tokenAt_eq hinfo, LineIndex.findToken_eq line.span hin hj 0, hspan]
  rw [Span.contains_iff] at hi
  rw [Answers, hfound ht]
  refine ⟨⟨?_, ?_, ?_, ?_, ?_⟩, ?_⟩
  · rw [Span.contains_iff] at ht ⊢
    dsimp only [Span.offset]
    omega
  · dsimp only [Span.offset]
    omega
  · intro u hu
    cases hu
    exact ⟨⟨_, hinfo, hmem⟩, rfl⟩
  · intro _ hnone
    cases hnone
  · intro hnone
    rw [hinfo] at hnone
    cases hnone
  · intro j hj
    refine hfound ?_
    rw [Span.contains_iff] at hj ⊢
    dsimp only [Span.offset] at hj
    omega

end Line

/-! ## The lookup in a document -/

theorem LineIndex.Fresh.answers {index : LineIndex (List Token)} {o : ScanOptions}
    {text : List Char} {line : Line (List Token)} (h : index.Fresh o text) (hf : Fits text)
    (hl : line ∈ index.lines) {i : Nat} (hi : line.span.contains i = true) : line.Answers i := by
  obtain ⟨hle, hstop⟩ := h.bounds hl
  obtain ⟨hs, hlt⟩ := Span.contains_iff.1 hi
  have hlast : line.span.stop ≤ lastPosition := by
    unfold Fits at hf
    unfold lastPosition
    omega
  cases hinfo : line.info with
  | none =>
    have hfound (j : Nat) : line.tokenAt j = ⟨none, j, j + 1⟩ := by
      rw [Line.tokenAt, hinfo]
      rfl
    rw [Line.Answers, hfound i]
    refine ⟨⟨?_, ⟨hs, hlt⟩, ?_, ?_, fun _ => rfl⟩, ?_⟩
    · rw [Span.contains_iff]
      exact ⟨Nat.le_refl i, Nat.lt_succ_self i⟩
    · intro t ht
      cases ht
    · intro hsome
      rw [hinfo] at hsome
      cases hsome
    · intro j hj
      rw [Span.contains_iff] at hj
      dsimp only at hj
      rw [hfound j, show j = i by omega]
  | some ts =>
    have hin := h.inOrder_info hl hinfo
    rcases hin.exists_split (i - line.span.start) with ⟨us, t, vs, rfl, ht⟩ | ⟨us, vs, rfl, hu, hv⟩
    · exact Line.answers_token hinfo hin hle hlast hi ht
    · exact Line.answers_between hinfo hin hle hi hu hv

namespace Document

/-- The lookup of tokens parts the text of a document into spans within its lines, one answer for
each. -/
structure Partitioned (d : Document) : Prop where
  finds : ∀ i, i < d.text.length → ∃ n line, d.index.lineHolding? i = some n ∧
    d.index.line? n = some line ∧ line.span.contains i = true ∧
      ∃ found, d.index.tokenAt? i = some found ∧ line.Finds i found
  same : ∀ i found, i < d.text.length → d.index.tokenAt? i = some found →
    ∀ j, found.span.contains j = true → d.index.tokenAt? j = some found

theorem Current.partitioned {d : Document} (h : d.Current) (hf : Fits d.text) : d.Partitioned := by
  have hc := h.fresh.covers
  have hline {i : Nat} (hi : i < d.text.length) := hc.exists_contains hi
  have hat {line : Line (List Token)} (hl : line ∈ d.index.lines) {j : Nat}
      (hj : line.span.contains j = true) : d.index.tokenAt? j = some (line.tokenAt j) := by
    obtain ⟨hs, hstop⟩ := Span.contains_iff.1 hj
    have hlength := (h.fresh.bounds hl).2
    exact hc.tokenAt?_of_mem hl hs hstop (hf.lt_lastPosition (by omega))
  refine ⟨fun i hi => ?_, fun i found hi hfound j hj => ?_⟩
  · obtain ⟨line, hl, hcon⟩ := hline hi
    have hmem := List.mem_of_getElem? hl
    exact ⟨_, line, (hc.lineHolding?_iff _ _).2 ⟨line, hl, hcon⟩, hl, hcon, _, hat hmem hcon,
      (h.fresh.answers hf hmem hcon).1⟩
  · obtain ⟨line, hl, hcon⟩ := hline hi
    have hmem := List.mem_of_getElem? hl
    obtain ⟨hfinds, hsame⟩ := h.fresh.answers hf hmem hcon
    rw [hat hmem hcon] at hfound
    cases hfound
    -- the other position is on the same line
    have hjl : line.span.contains j = true := by
      obtain ⟨hs, hstop⟩ := hfinds.within
      rw [Span.contains_iff] at hj ⊢
      omega
    rw [hat hmem hjl, hsame j hj]

/-- Whatever was done to a document, what its lookup finds at a position is a token with the span
of the token in the text, or on a scanned line a largest stretch without one, within the line of
the position; and the lookup finds the same at every position of that span. -/
theorem partitioned_run (language : Language) (options : ScanOptions) (text : List Char)
    (ops : List Operation) (h : (openText language options text).FitsThrough ops) :
    ((openText language options text).run ops).Partitioned := by
  obtain ⟨hc, -, -, -, -, hf⟩ := (current_openText language options text).run h
  exact hc.partitioned hf

/-- Blanks at the start of a line, between two tokens and before the line break are gaps. The line
behind them cannot be scanned. -/
theorem partitioned_run_gaps :
    let d := (openText .sql ⟨.empty, true, false⟩ ['a', ' ', 'b', '\r', '\n', '§', '§']).run
      [.insert 0 [' ', ' ']]
    d.Partitioned ∧ (List.range 9).filterMap (fun i => (d.index.tokenAt? i).map (·.span)) =
      [⟨0, 2⟩, ⟨0, 2⟩, ⟨2, 3⟩, ⟨3, 4⟩, ⟨4, 5⟩, ⟨5, 6⟩, ⟨6, 7⟩, ⟨7, 8⟩, ⟨8, 9⟩] := by
  refine ⟨partitioned_run .sql _ _ _ ?_, ?_⟩ <;> decide +kernel

end Document

end SqlBuffer
