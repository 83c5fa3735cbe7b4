import SqlBuffer.Proofs.ScanRun
import SqlBuffer.Proofs.Search
import SqlBuffer.Token.Ordered

/-
  Tokens come in order.
  `InOrder` says that tokens stand one after the other between two positions and that none is
  empty. A run of the scanner gives such tokens. `StartOrder` is the weaker order by where tokens
  start, which is all that a search needs. A list that falls into the tokens before, in and after a
  span is spliced part by part.
-/

namespace SqlBuffer

/-- The tokens stand one after the other between two positions, and none of them is empty. -/
def InOrder (a : Nat) : List Token → Nat → Prop
  | [], b => a ≤ b
  | t :: ts, b => a ≤ t.span.start ∧ t.span.start < t.span.stop ∧ InOrder t.span.stop ts b

namespace InOrder

variable {a b : Nat} {ts us : List Token}

theorem le (h : InOrder a ts b) : a ≤ b := by
  induction ts generalizing a with
  | nil => exact h
  | cons t ts ih =>
    have := ih h.2.2
    have := h.1
    have := h.2.1
    omega

theorem bounds (h : InOrder a ts b) {t : Token} (ht : t ∈ ts) :
    a ≤ t.span.start ∧ t.span.start < t.span.stop ∧ t.span.stop ≤ b := by
  induction ts generalizing a with
  | nil => cases ht
  | cons u us ih =>
    obtain ⟨ha, hu, hr⟩ := h
    rcases List.mem_cons.1 ht with rfl | ht
    · exact ⟨ha, hu, hr.le⟩
    · have := ih hr ht
      omega

theorem mono {a' b' : Nat} (h : InOrder a ts b) (ha : a' ≤ a) (hb : b ≤ b') : InOrder a' ts b' := by
  induction ts generalizing a a' with
  | nil => exact Nat.le_trans ha (Nat.le_trans h hb)
  | cons t ts ih => exact ⟨Nat.le_trans ha h.1, h.2.1, ih h.2.2 (Nat.le_refl _)⟩

theorem append {m : Nat} (h : InOrder a ts m) (h' : InOrder m us b) : InOrder a (ts ++ us) b := by
  induction ts generalizing a with
  | nil => exact h'.mono h (Nat.le_refl _)
  | cons t ts ih => exact ⟨h.1, h.2.1, ih h.2.2⟩

theorem exists_of_append (h : InOrder a (ts ++ us) b) : ∃ m, InOrder a ts m ∧ InOrder m us b := by
  induction ts generalizing a with
  | nil => exact ⟨a, Nat.le_refl a, h⟩
  | cons t ts ih =>
    obtain ⟨m, ht, hu⟩ := ih h.2.2
    exact ⟨m, ⟨h.1, h.2.1, ht⟩, hu⟩

/-- Of two tokens the first ends before the second starts. -/
theorem pairwise (h : InOrder a ts b) : ts.Pairwise (·.span.stop ≤ ·.span.start) := by
  induction ts generalizing a with
  | nil => exact .nil
  | cons t ts ih =>
    refine List.pairwise_cons.2 ⟨?_, ih h.2.2⟩
    intro u hu
    exact (h.2.2.bounds hu).1

theorem nodup (h : InOrder a ts b) : ts.Nodup := by
  induction ts generalizing a with
  | nil => exact List.nodup_nil
  | cons t ts ih =>
    refine List.nodup_cons.2 ⟨fun ht => ?_, ih h.2.2⟩
    have := (h.2.2.bounds ht).1
    have := h.2.1
    omega

theorem filter (h : InOrder a ts b) (p : Token → Bool) : InOrder a (ts.filter p) b := by
  induction ts generalizing a with
  | nil => exact h
  | cons t ts ih =>
    by_cases hp : p t = true
    · rw [List.filter_cons_of_pos hp]
      exact ⟨h.1, h.2.1, ih h.2.2⟩
    · rw [List.filter_cons_of_neg hp]
      have := h.1
      have := h.2.1
      exact (ih h.2.2).mono (by omega) (Nat.le_refl _)

theorem offset (h : InOrder a ts b) (n : Nat) : InOrder (a + n) (ts.map (·.offset n)) (b + n) := by
  induction ts generalizing a with
  | nil => exact Nat.add_le_add_right h n
  | cons t ts ih =>
    exact ⟨Nat.add_le_add_right h.1 n, Nat.add_lt_add_right h.2.1 n, ih h.2.2⟩

end InOrder

/-- The tokens come in the order of their starts. Several may start at the same place. -/
def StartOrder (ts : List Token) : Prop :=
  ts.Pairwise (·.span.start ≤ ·.span.start)

instance : DecidablePred StartOrder :=
  fun ts => inferInstanceAs (Decidable (ts.Pairwise (·.span.start ≤ ·.span.start)))

theorem InOrder.startOrder {a b : Nat} {ts : List Token} (h : InOrder a ts b) : StartOrder ts := by
  refine h.pairwise.imp_of_mem ?_
  intro t u ht _ hle
  exact Nat.le_trans (Nat.le_of_lt (h.bounds ht).2.1) hle

/-- The tokens that start before a position come before the others. -/
theorem StartOrder.filter_append {ts : List Token} (h : StartOrder ts) (i : Nat) :
    ts.filter (·.span.start < i) ++ ts.filter (i ≤ ·.span.start) = ts := by
  induction ts with
  | nil => rfl
  | cons t ts ih =>
    obtain ⟨ht, hts⟩ := List.pairwise_cons.1 h
    by_cases hi : t.span.start < i
    · rw [List.filter_cons_of_pos (by simpa using hi), List.filter_cons_of_neg (by simpa using hi),
        List.cons_append, ih hts]
    · -- no token behind one that starts at or after the position starts before it
      have hlate : ∀ u ∈ t :: ts, i ≤ u.span.start := by
        intro u hu
        rcases List.mem_cons.1 hu with rfl | hu
        · omega
        · have := ht u hu
          omega
      rw [List.filter_eq_nil_iff.2 fun u hu => by simpa using hlate u hu,
        List.filter_eq_self.2 fun u hu => by simpa using hlate u hu, List.nil_append]

/-! ## Tokens of a run -/

namespace Scan

variable {k : Keywords} {o : ScanOptions} {c d : Cursor} {ts : List ScannedToken}

/-- A run moves both offsets over the text between its places. -/
theorem Run.exists_read (h : Run k c ts d) :
    ∃ read, c.rest = read ++ d.rest ∧ d.position = c.position + read.length ∧
      d.bytes = c.bytes + utf8Length read := by
  suffices h : ∃ read, c.rest = read ++ d.rest ∧ d = c.past read by
    obtain ⟨read, hr, hd⟩ := h
    exact ⟨read, hr, congrArg Cursor.position hd, congrArg Cursor.bytes hd⟩
  induction h with
  | stop c => exact ⟨[], rfl, c.past_nil.symm⟩
  | blank hs _ ih =>
    obtain ⟨b, -, hb⟩ := step_blank hs
    obtain ⟨read, hr, hd⟩ := ih
    rw [Cursor.rest_advance hb] at hr
    exact ⟨b :: read, by rw [hb, hr]; rfl, hd.trans (Cursor.past_advance hb read)⟩
  | @lexeme c d l ts hs _ ih =>
    obtain ⟨read, hr, hd⟩ := ih
    have hl := reads_step hs
    refine ⟨l.text ++ read, by rw [← hl.append, List.append_assoc, ← hr]; rfl, ?_⟩
    rw [hd, Cursor.after_eq_past hl, Cursor.past_past]

/-- A run to the end of the text it starts from stops behind its last character. -/
theorem Run.position_eq {text : List Char} (h : Run k (.start text) ts d) (hd : d.rest = []) :
    d.position = text.length ∧ d.bytes = utf8Length text := by
  obtain ⟨read, hread, hpos, hbytes⟩ := h.exists_read
  rw [hd, List.append_nil] at hread
  rw [hpos, hbytes, ← hread]
  exact ⟨Nat.zero_add _, Nat.zero_add _⟩

theorem Run.textTokens_eq {text : List Char} (h : Run o.keywords (.start text) ts d)
    (hd : d.rest = []) :
    textTokens o text = .ok (kept o ts ++ [endToken text.length (utf8Length text)]) := by
  rw [textTokens, textFrom_of_run_to_end h hd, (h.position_eq hd).1, (h.position_eq hd).2]

/-- A scan succeeds exactly with the kept tokens of a run to the end of the text. -/
theorem exists_run_of_textTokens_ok {text : List Char} {us : List ScannedToken}
    (h : textTokens o text = .ok us) :
    ∃ ts d, Run o.keywords (.start text) ts d ∧ d.rest = [] ∧
      us = kept o ts ++ [endToken text.length (utf8Length text)] := by
  obtain ⟨ts, d, hr, hd | ⟨ch, hd⟩⟩ := exists_run o.keywords (.start text)
  · rw [hr.textTokens_eq hd] at h
    cases h
    exact ⟨ts, d, hr, hd, rfl⟩
  · rw [textTokens, textFrom_of_run_unexpected hr hd] at h
    cases h

theorem Run.inOrder (h : Run k c ts d) :
    InOrder c.position (ts.map (·.toToken)) d.position := by
  induction h with
  | stop c => exact Nat.le_refl _
  | blank hs _ ih =>
    obtain ⟨b, -, hb⟩ := step_blank hs
    rw [Cursor.advance_eq_past hb] at ih
    exact ih.mono (Nat.le_succ _) (Nat.le_refl _)
  | lexeme hs _ ih =>
    have := List.length_pos_iff.2 (reads_step hs).ne_nil
    refine ⟨Nat.le_refl _, ?_, ih⟩
    dsimp only [Cursor.token, Cursor.tokenTo, Cursor.after]
    omega

theorem Run.bounds (h : Run k c ts d) {t : ScannedToken} (ht : t ∈ ts) :
    c.position ≤ t.span.start ∧ t.span.start < t.span.stop ∧ t.span.stop ≤ d.position :=
  h.inOrder.bounds (List.mem_map_of_mem ht)

/-- Every token of a run is the lexeme that a rule reads at its place. -/
theorem Run.exists_lexeme (h : Run k c ts d) {t : ScannedToken} (ht : t ∈ ts) :
    ∃ read l, c.rest = read ++ l.text ++ l.rest ∧ step k (l.text ++ l.rest) = .lexeme l ∧
      t = (c.past read).token l := by
  induction h with
  | stop c => cases ht
  | @blank c d rest ts hs _ ih =>
    obtain ⟨b, -, hb⟩ := step_blank hs
    obtain ⟨read, l, hr, hl, rfl⟩ := ih ht
    rw [Cursor.rest_advance hb] at hr
    exact ⟨b :: read, l, by rw [hb, hr]; rfl, hl, by rw [Cursor.past_advance hb]⟩
  | @lexeme c d l ts hs _ ih =>
    have ha := (reads_step hs).append
    rcases List.mem_cons.1 ht with rfl | ht
    · exact ⟨[], l, ha.symm, by rwa [ha], rfl⟩
    · obtain ⟨read, m, hr, hm, rfl⟩ := ih ht
      refine ⟨l.text ++ read, m, ?_, hm, ?_⟩
      · rw [← ha, List.append_assoc, List.append_assoc, ← List.append_assoc read, ← hr]
        rfl
      · rw [Cursor.after_eq_past (reads_step hs), Cursor.past_past]

theorem Run.ne_endOfText_of_mem (h : Run k c ts d) {t : ScannedToken} (ht : t ∈ ts) :
    t.kind ≠ .endOfText := by
  obtain ⟨read, l, -, hl, rfl⟩ := h.exists_lexeme ht
  exact kind_ne_endOfText hl

/-- The tokens of a line stand in it one after the other. -/
theorem inOrder_lineTokens {line : List Char} {us : List Token} (h : lineTokens o line = .ok us) :
    InOrder 0 us line.length := by
  obtain ⟨ts, d, hr, hd, rfl⟩ := exists_run_of_lineFrom_ok h
  have ho := hr.inOrder
  rw [(hr.position_eq hd).1] at ho
  rw [map_toToken_kept]
  exact ho.filter _

end Scan

/-! ## Splicing -/

namespace TokenList

theorem countBefore_append {xs ys : List Token} {i : Nat} (hx : ∀ t ∈ xs, t.span.start < i)
    (hy : ∀ t ∈ ys, i ≤ t.span.start) : countBefore ⟨xs ++ ys⟩ i = xs.length :=
  boundary_append (fun t ht => by simpa using hx t ht) fun t ht => by simpa using hy t ht

theorem firstIndex?_getD {c : TokenList} {i : Nat} (h : c.countBefore i ≤ c.size) :
    (c.firstIndex? i).getD c.size = c.countBefore i := by
  rw [firstIndex?]
  split
  · rfl
  · rw [Option.getD_none]
    omega

/-- A splice replaces the tokens that start in the span and moves those after it. -/
theorem splice_append {xs ys zs us : List Token} {a b : Nat} (delta : Int) (hab : a ≤ b)
    (hx : ∀ t ∈ xs, t.span.start < a)
    (hy : ∀ t ∈ ys, a ≤ t.span.start ∧ t.span.start < b)
    (hz : ∀ t ∈ zs, b ≤ t.span.start) :
    (splice ⟨xs ++ ys ++ zs⟩ ⟨a, b⟩ delta us).toList = xs ++ us ++ zs.map (·.shift delta) := by
  have hfirst : countBefore ⟨xs ++ ys ++ zs⟩ a = xs.length := by
    rw [List.append_assoc]
    refine countBefore_append hx fun t ht => ?_
    rcases List.mem_append.1 ht with ht | ht
    · exact (hy t ht).1
    · exact Nat.le_trans hab (hz t ht)
  have hafter : countBefore ⟨xs ++ ys ++ zs⟩ b = (xs ++ ys).length := by
    refine countBefore_append (fun t ht => ?_) hz
    rcases List.mem_append.1 ht with ht | ht
    · exact Nat.lt_of_lt_of_le (hx t ht) hab
    · exact (hy t ht).2
  have hsize : size ⟨xs ++ ys ++ zs⟩ = xs.length + ys.length + zs.length := by
    rw [size, List.length_append, List.length_append]
  rw [List.length_append] at hafter
  rw [splice, firstIndex?_getD (by rw [hfirst, hsize]; omega),
    firstIndex?_getD (by rw [hafter, hsize]; omega), hfirst, hafter, Nat.max_eq_left (by omega)]
  dsimp only
  rw [← List.length_append, List.drop_left, List.append_assoc xs ys zs, List.take_left]

end TokenList

end SqlBuffer
