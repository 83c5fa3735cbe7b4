import Mathlib.Logic.Function.Iterate
import SqlBuffer.Proofs.TokenOrder

/-
  Calls to one scanner.
  Each call for the next token starts where the one before it left the scanner. At a refused
  character and at the end of the text a call moves nothing, so that its answer comes again and
  again. The drivers of the scanner stop at this answer and differ only in what they make of the
  answers up to it.
-/

namespace SqlBuffer.Scan

/-- The answer to call number `n` to one scanner, which is at place `c` before call number zero. -/
def answerTo (o : ScanOptions) (c : Cursor) (n : Nat) : Except ScanError ScannedToken :=
  (next o ((fun c => (next o c).place)^[n] c)).answer

/-- The answers that end a scan. -/
def stops : Except ScanError ScannedToken → Bool
  | .ok t => t.kind == .endOfText
  | .error _ => true

variable {o : ScanOptions} {c d : Cursor}

/-! ## One call after the other -/

theorem answerTo_succ (n : Nat) : answerTo o c (n + 1) = answerTo o (next o c).place n := rfl

theorem answerTo_congr (h : next o c = next o d) (n : Nat) : answerTo o c n = answerTo o d n := by
  cases n with
  | zero => exact congrArg Scanned.answer h
  | succ n => rw [answerTo_succ, answerTo_succ, h]

theorem place_next_of_stuck (h : Stuck o.keywords c) : (next o c).place = c := by
  rcases h with h | ⟨ch, h⟩
  · rw [next_of_rest_nil h]
    rfl
  · rw [next_of_unexpected h]
    rfl

theorem answerTo_of_stuck (h : Stuck o.keywords c) (n : Nat) :
    answerTo o c n = (next o c).answer := by
  unfold answerTo
  rw [Function.iterate_fixed (place_next_of_stuck h)]

theorem results_eq_map (n : Nat) (c : Cursor) :
    results o n c = (List.range n).map (answerTo o c) := by
  induction n generalizing c with
  | zero => rfl
  | succ n ih =>
    rw [results, ih, List.range_succ_eq_map, List.map_cons, List.map_map]
    rfl

/-- Along a run the calls answer the tokens that the options keep, and then what they answer from
the end of the run on. -/
theorem answerTo_of_run {ts : List ScannedToken} (h : Run o.keywords c ts d) (n : Nat) :
    answerTo o c n =
      ((kept o ts)[n]?.map .ok).getD (answerTo o d (n - (kept o ts).length)) := by
  induction h generalizing n with
  | stop c => rfl
  | blank hs _ ih => rw [← ih, answerTo_congr (next_of_blank hs)]
  | @lexeme c d l ts hs _ ih =>
    have hnext := next_of_lexeme hs
    by_cases hk : o.skips l.kind = true
    · rw [if_pos hk] at hnext
      rw [kept_cons_of_skips hk, ← ih, answerTo_congr hnext]
    · rw [if_neg hk] at hnext
      rw [kept_cons_of_not_skips hk]
      cases n with
      | zero => exact congrArg Scanned.answer hnext
      | succ n => simp [answerTo_succ, hnext, Scanned.place, ih]

/-! ## The drivers -/

/-- Call number `n` to a scanner of a text is the first with an answer that ends a scan. This answer
comes again, and what the drivers give is made of the answers up to it. -/
structure LastCall (o : ScanOptions) (text : List Char) (n : Nat) : Prop where
  goes_on : ∀ i, i < n → stops (answerTo o (.start text) i) = false
  stops_eq : stops (answerTo o (.start text) n) = true
  same : ∀ i, n ≤ i → answerTo o (.start text) i = answerTo o (.start text) n
  results_eq : ∀ m, results o m (.start text) = (List.range m).map (answerTo o (.start text))
  stream_eq : stream o text = (List.range (n + 1)).map (answerTo o (.start text))
  /-- A scan to the end of the text gives its tokens, with the one at the end or without. -/
  ok : ∀ t, answerTo o (.start text) n = .ok t →
    ∃ ts, (List.range n).map (answerTo o (.start text)) = ts.map .ok ∧
      textTokens o text = .ok (ts ++ [t]) ∧ lineTokens o text = .ok (ts.map (·.toToken))
  error : ∀ e, answerTo o (.start text) n = .error e →
    textTokens o text = .error e ∧ lineTokens o text = .error e

theorem drivers_of_stuck (h : Stuck o.keywords c) :
    stops (next o c).answer = true ∧ streamFrom o c = [(next o c).answer] ∧
      textFrom o c = (next o c).answer.map ([·]) ∧
      lineFrom o c = (next o c).answer.map fun _ => [] := by
  rw [streamFrom_eq, textFrom_eq, lineFrom_eq]
  rcases h with h | ⟨ch, h⟩
  · rw [next_of_rest_nil h]
    exact ⟨rfl, rfl, rfl, rfl⟩
  · rw [next_of_unexpected h]
    exact ⟨rfl, rfl, rfl, rfl⟩

/-- All drivers stop at the same call to one scanner, which is the first that answers the end of the
text or an error, and give the answers up to it. -/
theorem exists_lastCall (o : ScanOptions) (text : List Char) : ∃ n, LastCall o text n := by
  obtain ⟨ts, d, hr, hd⟩ := exists_run o.keywords (.start text)
  obtain ⟨hstops, hstream, htext, hline⟩ := drivers_of_stuck (o := o) hd
  have hanswer (i : Nat) :
      answerTo o (.start text) i = ((kept o ts)[i]?.map .ok).getD (next o d).answer := by
    rw [answerTo_of_run hr, answerTo_of_stuck hd]
  have hlast {i : Nat} (hi : (kept o ts).length ≤ i) :
      answerTo o (.start text) i = (next o d).answer := by
    rw [hanswer, List.getElem?_eq_none hi]
    rfl
  have htokens : (List.range (kept o ts).length).map (answerTo o (.start text)) =
      (kept o ts).map .ok := by
    apply List.ext_getElem
    · simp
    · intro i hi _
      have hlt : i < (kept o ts).length := by simpa using hi
      simp [hanswer, hlt]
  refine ⟨(kept o ts).length, ?_, ?_, ?_, fun m => results_eq_map m _, ?_, ?_, ?_⟩
  · intro i hi
    have hne := hr.ne_endOfText_of_mem (List.mem_filter.1 (List.getElem_mem hi)).1
    rw [hanswer, List.getElem?_eq_getElem hi]
    simpa [stops] using hne
  · rw [hlast (Nat.le_refl _)]
    exact hstops
  · intro i hi
    rw [hlast hi, hlast (Nat.le_refl _)]
  · rw [List.range_succ, List.map_append, htokens, List.map_singleton, hlast (Nat.le_refl _),
      stream, streamFrom_of_run hr, hstream]
  · intro t ht
    rw [hlast (Nat.le_refl _)] at ht
    refine ⟨kept o ts, htokens, ?_, ?_⟩
    · rw [textTokens, textFrom_of_run hr, htext, ht]
      rfl
    · rw [lineTokens, lineFrom_of_run hr, hline, ht]
      exact congrArg Except.ok (List.append_nil _)
  · intro e he
    rw [hlast (Nat.le_refl _)] at he
    rw [textTokens, textFrom_of_run hr, htext, lineTokens, lineFrom_of_run hr, hline, he]
    exact ⟨rfl, rfl⟩

end SqlBuffer.Scan
