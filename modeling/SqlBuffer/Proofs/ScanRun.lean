import SqlBuffer.Proofs.CursorMove

/-
  Runs of the scanner.
  A run reads blanks and lexemes one after the other from one place of a text to another. What
  the options keep of its tokens does not steer it. From every place a run leads to the end of the
  text or to a character that no rule accepts; what the scanner answers is read off the run. So
  the options only leave tokens out of what a scan answers that keeps them all.
-/

namespace SqlBuffer.Scan

/-- The scanner reads the tokens from place `c` to place `d`, whatever it keeps of them. -/
inductive Run (k : Keywords) : Cursor → List ScannedToken → Cursor → Prop
  | stop (c : Cursor) : Run k c [] c
  | blank {c d : Cursor} {rest : List Char} {ts : List ScannedToken}
      (h : step k c.rest = .blank rest) (r : Run k c.advance ts d) : Run k c ts d
  | lexeme {c d : Cursor} {l : Lexeme} {ts : List ScannedToken} (h : step k c.rest = .lexeme l)
      (r : Run k (c.after l) ts d) : Run k c (c.token l :: ts) d

/-- The run can go no further: the text ends, or its next character is refused. -/
def Stuck (k : Keywords) (c : Cursor) : Prop :=
  c.rest = [] ∨ ∃ ch, step k c.rest = .unexpected ch

theorem exists_run (k : Keywords) (c : Cursor) : ∃ ts d, Run k c ts d ∧ Stuck k d := by
  induction hn : c.rest.length using Nat.strongRecOn generalizing c with
  | ind n ih =>
    subst hn
    cases hs : step k c.rest with
    | done => exact ⟨[], c, .stop c, Or.inl (step_eq_done hs)⟩
    | blank rest =>
      obtain ⟨b, -, hb⟩ := step_blank hs
      obtain ⟨ts, d, hr, hd⟩ := ih _ (Cursor.length_advance_lt hb) c.advance rfl
      exact ⟨ts, d, .blank hs hr, hd⟩
    | lexeme l =>
      obtain ⟨ts, d, hr, hd⟩ := ih l.rest.length (length_rest_lt hs) (c.after l) rfl
      exact ⟨c.token l :: ts, d, .lexeme hs hr, hd⟩
    | unexpected ch => exact ⟨[], c, .stop c, Or.inr ⟨ch, hs⟩⟩

/-! ## What the scanner answers -/

section Answer

variable {o : ScanOptions} {c d : Cursor} {ts : List ScannedToken}

/-- The tokens that the options keep. -/
def kept (o : ScanOptions) (ts : List ScannedToken) : List ScannedToken :=
  ts.filter fun t => !o.skips t.kind

theorem kept_cons_of_skips {t : ScannedToken} (h : o.skips t.kind = true) :
    kept o (t :: ts) = kept o ts :=
  List.filter_cons_of_neg (by simp [h])

theorem kept_cons_of_not_skips {t : ScannedToken} (h : ¬ o.skips t.kind = true) :
    kept o (t :: ts) = t :: kept o ts :=
  List.filter_cons_of_pos (by simpa using h)

theorem kept_all (k : Keywords) (ts : List ScannedToken) : kept ⟨k, true, true⟩ ts = ts := by
  refine List.filter_eq_self.2 fun t _ => ?_
  cases t.kind <;> rfl

/-- What is computed from the next token and from what comes after it is computed along a run from
the tokens that the options keep. -/
theorem foldr_of_run {β : Type} {f : Cursor → β} {g : ScannedToken → β → β}
    (hn : ∀ c d, next o c = next o d → f c = f d)
    (hg : ∀ c t after, next o c = .token t after → f c = g t (f after))
    (h : Run o.keywords c ts d) : f c = (kept o ts).foldr g (f d) := by
  induction h with
  | stop c => rfl
  | blank hs _ ih => rw [← ih, hn _ _ (next_of_blank hs)]
  | @lexeme c d l ts hs _ ih =>
    have hnext := next_of_lexeme hs
    by_cases hk : o.skips l.kind = true
    · rw [if_pos hk] at hnext
      rw [kept_cons_of_skips hk, ← ih, hn _ _ hnext]
    · rw [if_neg hk] at hnext
      rw [kept_cons_of_not_skips hk, List.foldr_cons, ← ih, hg _ _ _ hnext]

theorem foldr_map_cons {β : Type} (f : ScannedToken → β) (us : List ScannedToken)
    (r : Except ScanError (List β)) :
    us.foldr (fun t r => r.map (f t :: ·)) r = r.map (us.map f ++ ·) := by
  induction us with
  | nil =>
    show _ = Except.map id r
    cases r <;> rfl
  | cons u us ih =>
    rw [List.foldr_cons, ih]
    cases r <;> rfl

/-- Along a run the scanner of lines gives the tokens that the options keep. -/
theorem lineFrom_of_run (h : Run o.keywords c ts d) :
    lineFrom o c = (lineFrom o d).map ((kept o ts).map (·.toToken) ++ ·) := by
  rw [← foldr_map_cons]
  exact foldr_of_run (fun c d hn => by rw [lineFrom_eq, hn, ← lineFrom_eq])
    (fun c t after hn => by rw [lineFrom_eq, hn]) h

theorem textFrom_of_run (h : Run o.keywords c ts d) :
    textFrom o c = (textFrom o d).map (kept o ts ++ ·) := by
  have hid : (kept o ts).map id = kept o ts := List.map_id _
  rw [← hid, ← foldr_map_cons]
  exact foldr_of_run (fun c d hn => by rw [textFrom_eq, hn, ← textFrom_eq])
    (fun c t after hn => by rw [textFrom_eq, hn]; rfl) h

theorem streamFrom_of_run (h : Run o.keywords c ts d) :
    streamFrom o c = (kept o ts).map .ok ++ streamFrom o d := by
  rw [← List.foldr_cons_eq_append]
  exact foldr_of_run (fun c d hn => by rw [streamFrom_eq, hn, ← streamFrom_eq])
    (fun c t after hn => by rw [streamFrom_eq, hn]) h

theorem next_of_rest_nil (h : c.rest = []) : next o c = .finished c :=
  next_of_done (by rw [h]; rfl)

theorem lineFrom_of_run_to_end (h : Run o.keywords c ts d) (hd : d.rest = []) :
    lineFrom o c = .ok ((kept o ts).map (·.toToken)) := by
  rw [lineFrom_of_run h, lineFrom_eq, next_of_rest_nil hd]
  exact congrArg Except.ok (List.append_nil _)

theorem textFrom_of_run_to_end (h : Run o.keywords c ts d) (hd : d.rest = []) :
    textFrom o c = .ok (kept o ts ++ [endToken d.position d.bytes]) := by
  rw [textFrom_of_run h, textFrom_eq, next_of_rest_nil hd]
  rfl

theorem lineFrom_of_run_unexpected {ch : Char} (h : Run o.keywords c ts d)
    (hd : step o.keywords d.rest = .unexpected ch) : lineFrom o c = .error ⟨ch, d.position⟩ := by
  rw [lineFrom_of_run h, lineFrom_eq, next_of_unexpected hd]
  rfl

theorem textFrom_of_run_unexpected {ch : Char} (h : Run o.keywords c ts d)
    (hd : step o.keywords d.rest = .unexpected ch) : textFrom o c = .error ⟨ch, d.position⟩ := by
  rw [textFrom_of_run h, textFrom_eq, next_of_unexpected hd]
  rfl

theorem streamFrom_of_run_to_end (h : Run o.keywords c ts d) (hd : d.rest = []) :
    streamFrom o c = (kept o ts).map .ok ++ [.ok (endToken d.position d.bytes)] := by
  rw [streamFrom_of_run h, streamFrom_eq, next_of_rest_nil hd]

theorem streamFrom_of_run_unexpected {ch : Char} (h : Run o.keywords c ts d)
    (hd : step o.keywords d.rest = .unexpected ch) :
    streamFrom o c = (kept o ts).map .ok ++ [.error ⟨ch, d.position⟩] := by
  rw [streamFrom_of_run h, streamFrom_eq, next_of_unexpected hd]

/-- The scanner of lines succeeds exactly with the kept tokens of a run to the end. -/
theorem exists_run_of_lineFrom_ok {us : List Token} (h : lineFrom o c = .ok us) :
    ∃ ts d, Run o.keywords c ts d ∧ d.rest = [] ∧ us = (kept o ts).map (·.toToken) := by
  obtain ⟨ts, d, hr, hd | ⟨ch, hd⟩⟩ := exists_run o.keywords c
  · rw [lineFrom_of_run_to_end hr hd] at h
    cases h
    exact ⟨ts, d, hr, hd, rfl⟩
  · rw [lineFrom_of_run_unexpected hr hd] at h
    cases h

/-- The scanner of texts fails exactly at the refused character that a run leads to. -/
theorem exists_run_of_textFrom_error {e : ScanError} (h : textFrom o c = .error e) :
    ∃ ts d, Run o.keywords c ts d ∧ step o.keywords d.rest = .unexpected e.character ∧
      e.position = d.position := by
  obtain ⟨ts, d, hr, hd | ⟨ch, hd⟩⟩ := exists_run o.keywords c
  · rw [textFrom_of_run_to_end hr hd] at h
    cases h
  · rw [textFrom_of_run_unexpected hr hd] at h
    cases h
    exact ⟨ts, d, hr, hd, rfl⟩

/-- A call that answers no token leaves the scanner where the next one answers the same. -/
theorem next_of_failed {e : ScanError} (h : next o c = .failed e d) : next o d = .failed e d := by
  fun_induction next o c with
  | case1 => cases h
  | case2 c after hr ih => exact ih h
  | case3 c kind after hr hk ih => exact ih h
  | case4 => cases h
  | case5 c ch hr =>
    cases h
    rw [next]
    split <;> simp_all

theorem next_of_finished (h : next o c = .finished d) : next o d = .finished d := by
  fun_induction next o c with
  | case1 c hr =>
    cases h
    rw [next]
    split <;> simp_all
  | case2 c after hr ih => exact ih h
  | case3 c kind after hr hk ih => exact ih h
  | case4 => cases h
  | case5 => cases h

/-- What a scanner answers to any number of calls it also answers when it stops at the end of the
text or at an error. -/
theorem mem_streamFrom_of_mem_results {n : Nat} {r : Except ScanError ScannedToken}
    (h : r ∈ results o n c) : r ∈ streamFrom o c := by
  induction n generalizing c with
  | zero => simp [results] at h
  | succ n ih =>
    rw [streamFrom_eq]
    rcases List.mem_cons.1 h with rfl | h
    · cases next o c <;> exact List.mem_cons_self
    · have hlater := ih h
      cases hn : next o c with
      | token t after =>
        rw [hn] at hlater
        exact List.mem_cons_of_mem _ hlater
      | failed e d => rwa [hn, Scanned.place, streamFrom_eq, next_of_failed hn] at hlater
      | finished d => rwa [hn, Scanned.place, streamFrom_eq, next_of_finished hn] at hlater

end Answer

/-! ## What the options leave out -/

section Filter

variable (o : ScanOptions)

theorem kept_append (us vs : List ScannedToken) : kept o (us ++ vs) = kept o us ++ kept o vs :=
  List.filter_append us vs

theorem kept_append_endToken (ts : List ScannedToken) (p b : Nat) :
    kept o (ts ++ [endToken p b]) = kept o ts ++ [endToken p b] :=
  kept_append o ts [endToken p b]

theorem map_toToken_kept (ts : List ScannedToken) :
    (kept o ts).map (·.toToken) = (ts.map (·.toToken)).filter fun t => !o.skips t.kind := by
  rw [List.filter_map]
  rfl

/-- From every place, the scanner of lines gives what the options keep of all tokens. -/
theorem lineFrom_eq_map_filter (c : Cursor) :
    lineFrom o c =
      (lineFrom ⟨o.keywords, true, true⟩ c).map (·.filter fun t => !o.skips t.kind) := by
  obtain ⟨ts, d, hr, hd | ⟨ch, hd⟩⟩ := exists_run o.keywords c
  · rw [lineFrom_of_run_to_end hr hd, lineFrom_of_run_to_end (o := ⟨o.keywords, true, true⟩) hr hd,
      kept_all, map_toToken_kept]
    rfl
  · rw [lineFrom_of_run_unexpected hr hd,
      lineFrom_of_run_unexpected (o := ⟨o.keywords, true, true⟩) hr hd]
    rfl

theorem textFrom_eq_map_kept (c : Cursor) :
    textFrom o c = (textFrom ⟨o.keywords, true, true⟩ c).map (kept o) := by
  obtain ⟨ts, d, hr, hd | ⟨ch, hd⟩⟩ := exists_run o.keywords c
  · rw [textFrom_of_run_to_end hr hd, textFrom_of_run_to_end (o := ⟨o.keywords, true, true⟩) hr hd,
      kept_all, ← kept_append_endToken]
    rfl
  · rw [textFrom_of_run_unexpected hr hd,
      textFrom_of_run_unexpected (o := ⟨o.keywords, true, true⟩) hr hd]
    rfl

/-- Only comments and line breaks are left out, each kind by its own option. -/
theorem not_skips_eq (kind : TokenKind) :
    (!o.skips kind) =
      ((o.keepComments || kind != .comment) && (o.keepNewLines || kind != .newLine)) := by
  cases kind <;> simp [ScanOptions.skips]

/-- A scan that leaves out comments gives the other tokens of one that may keep them, and fails
where that one does. -/
theorem lineTokens_withoutComments (text : List Char) :
    lineTokens { o with keepComments := false } text =
      (lineTokens o text).map (·.filter (·.kind != .comment)) := by
  have hkept (ts : List Token) :
      ts.filter (fun t => !ScanOptions.skips { o with keepComments := false } t.kind) =
        (ts.filter fun t => !o.skips t.kind).filter (·.kind != .comment) := by
    rw [List.filter_filter]
    refine List.filter_congr fun t _ => ?_
    rw [not_skips_eq, not_skips_eq]
    cases t.kind != .comment <;> simp
  unfold lineTokens
  rw [lineFrom_eq_map_filter o, lineFrom_eq_map_filter { o with keepComments := false }]
  cases lineFrom ⟨o.keywords, true, true⟩ (.start text) with
  | error e => rfl
  | ok ts => exact congrArg Except.ok (hkept ts)

/-- A text and a line have the tokens of a scan that keeps all, without the comments and without
the line breaks where the options do not keep these; and they fail where that scan does. -/
theorem textTokens_eq_filter (text : List Char) :
    let all : ScanOptions := { o with keepNewLines := true, keepComments := true }
    let shown (kind : TokenKind) : Bool :=
      (o.keepComments || kind != .comment) && (o.keepNewLines || kind != .newLine)
    textTokens o text = (textTokens all text).map (·.filter fun t => shown t.kind) ∧
      lineTokens o text = (lineTokens all text).map (·.filter fun t => shown t.kind) := by
  intro all shown
  have hshown : (fun kind => !o.skips kind) = shown := funext (not_skips_eq o)
  rw [← hshown]
  exact ⟨textFrom_eq_map_kept o _, lineFrom_eq_map_filter o _⟩

end Filter

end SqlBuffer.Scan
