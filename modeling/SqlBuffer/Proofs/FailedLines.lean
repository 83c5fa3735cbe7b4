import SqlBuffer.Proofs.EditFrame

/-
  The lines that are rejected.
  A document keeps no list of the lines that cannot be scanned: a line without tokens is one. This
  is so after any operations, and scanning these lines again tells each with its number and the
  error of its text. An edit tells those that it scanned. They are the rejected lines within the
  span that it reports, since an empty line is never rejected and every other line at either side
  leaves the span.
-/

namespace SqlBuffer

/-! ## Rejected lines of a text -/

/-- What a line is rejected for. -/
def Scan.failure? (o : ScanOptions) (line : List Char) : Option ScanError :=
  match lineTokens o line with
  | .ok _ => none
  | .error e => some e

/-- The lines with the given spans that are rejected, numbered from `n` on, and what for. -/
def rejected (o : ScanOptions) (text : List Char) (n : Nat) (spans : List Span) : FailedLines :=
  (spans.zipIdx n).filterMap fun x => (Scan.failure? o (x.1.slice text)).map (x.2, ·)

section Rejected

variable {o : ScanOptions} {text : List Char} {n : Nat}

theorem Scan.failure?_eq_some_iff {line : List Char} {e : ScanError} :
    failure? o line = some e ↔ lineTokens o line = .error e := by
  unfold failure?
  cases lineTokens o line <;> simp

theorem Scan.lineTokens_nil : lineTokens o [] = .ok [] :=
  lineFrom_of_run_to_end (Run.stop _) rfl

theorem Scan.toOption_lineTokens_eq_none_iff {line : List Char} :
    (lineTokens o line).toOption = none ↔ ∃ e, lineTokens o line = .error e := by
  cases lineTokens o line <;> simp [Except.toOption]

theorem rejected_cons (r : Span) (spans : List Span) :
    rejected o text n (r :: spans) =
      ((Scan.failure? o (r.slice text)).map (n, ·)).toList ++ rejected o text (n + 1) spans := by
  unfold rejected
  rw [List.zipIdx_cons, List.filterMap_cons]
  cases Scan.failure? o (r.slice text) <;> rfl

theorem rejected_append (xs ys : List Span) :
    rejected o text n (xs ++ ys) = rejected o text n xs ++ rejected o text (n + xs.length) ys := by
  unfold rejected
  rw [List.zipIdx_append, List.filterMap_append]

theorem mem_rejected {spans : List Span} {k : Nat} {e : ScanError} :
    (k, e) ∈ rejected o text n spans ↔
      ∃ r, (r, k) ∈ spans.zipIdx n ∧ Scan.lineTokens o (r.slice text) = .error e := by
  simp [rejected, Scan.failure?_eq_some_iff]

theorem pairwise_rejected (o : ScanOptions) (text : List Char) (n : Nat) (spans : List Span) :
    (rejected o text n spans).Pairwise (fun x y => x.1 < y.1) := by
  have hnumbers : (spans.zipIdx n).Pairwise (fun x y => x.2 < y.2) := by
    rw [← List.pairwise_map, List.zipIdx_map_snd]
    exact List.pairwise_lt_range'
  refine hnumbers.filterMap _ fun x y hxy f hf g hg => ?_
  obtain ⟨-, -, rfl⟩ := Option.map_eq_some_iff.1 hf
  obtain ⟨-, -, rfl⟩ := Option.map_eq_some_iff.1 hg
  exact hxy

theorem exists_of_mem_rejected {all xs ys zs : List Span} {k : Nat} {e : ScanError}
    (hall : all = xs ++ ys ++ zs) (h : (k, e) ∈ rejected o text xs.length ys) :
    ∃ r ∈ ys, all[k]? = some r ∧ r.start < r.stop := by
  obtain ⟨r, hr, he⟩ := mem_rejected.1 h
  obtain ⟨hle, hr⟩ := List.mk_mem_zipIdx_iff_le_and_getElem?_sub.1 hr
  refine ⟨r, List.mem_of_getElem? hr, ?_, ?_⟩
  · rw [hall, List.append_assoc, List.getElem?_append_right hle, List.getElem?_append_left, hr]
    exact (List.getElem?_eq_some_iff.1 hr).1
  · by_contra hempty
    have hslice : r.slice text = [] := by
      rw [Span.slice, Span.length, Nat.sub_eq_zero_of_le (Nat.le_of_not_lt hempty), List.take_zero]
    rw [hslice, Scan.lineTokens_nil] at he
    cases he

theorem failed_scanLines (o : ScanOptions) (text : List Char) (n : Nat)
    (lines : List (Line (List Token))) :
    (scanLines o text n lines).failed = rejected o text n (lines.map (·.span)) := by
  induction lines generalizing n with
  | nil => rfl
  | cons line lines ih =>
    rw [scanLines, List.map_cons, rejected_cons, Scan.failure?]
    cases Scan.lineTokens o (line.span.slice text) with
    | ok ts => exact ih (n + 1)
    | error e => exact congrArg _ (ih (n + 1))

/-- One span lies in another. -/
def Span.within (r s : Span) : Bool :=
  s.start ≤ r.start && r.stop ≤ s.stop

theorem Span.within_iff {r s : Span} :
    r.within s = true ↔ s.start ≤ r.start ∧ r.stop ≤ s.stop := by
  simp [Span.within]

/-- Of the rejected lines in three parts of a text, those within the middle one are left. -/
theorem filter_rejected {xs ys zs : List Span} {a b c d : Nat} (hx : Contiguous a xs b)
    (hy : Contiguous b ys c) (hz : Contiguous c zs d) :
    (rejected o text 0 (xs ++ ys ++ zs)).filter
        (fun f => (xs ++ ys ++ zs)[f.1]?.any (·.within ⟨b, c⟩)) =
      rejected o text xs.length ys := by
  have hle := hy.le
  generalize hall : xs ++ ys ++ zs = all
  have hfirst : all = [] ++ xs ++ (ys ++ zs) := by rw [← hall, List.nil_append, List.append_assoc]
  have hlast : all = (xs ++ ys) ++ zs ++ [] := by rw [← hall, List.append_nil]
  -- a rejected line of a part has a character there, so it is within that part alone
  have hxs : (rejected o text 0 xs).filter (fun f => all[f.1]?.any (·.within ⟨b, c⟩)) = [] := by
    rw [List.filter_eq_nil_iff]
    rintro ⟨k, e⟩ hk
    obtain ⟨r, hr, hfound, hne⟩ := exists_of_mem_rejected hfirst hk
    have hb := hx.bounds hr
    simp only [hfound, Option.any_some, Span.within_iff]
    omega
  have hys : (rejected o text xs.length ys).filter (fun f => all[f.1]?.any (·.within ⟨b, c⟩)) =
      rejected o text xs.length ys := by
    rw [List.filter_eq_self]
    rintro ⟨k, e⟩ hk
    obtain ⟨r, hr, hfound, -⟩ := exists_of_mem_rejected hall.symm hk
    have hb := hy.bounds hr
    simp only [hfound, Option.any_some, Span.within_iff]
    omega
  have hzs : (rejected o text (xs ++ ys).length zs).filter
      (fun f => all[f.1]?.any (·.within ⟨b, c⟩)) = [] := by
    rw [List.filter_eq_nil_iff]
    rintro ⟨k, e⟩ hk
    obtain ⟨r, hr, hfound, hne⟩ := exists_of_mem_rejected hlast hk
    have hb := hz.bounds hr
    simp only [hfound, Option.any_some, Span.within_iff]
    omega
  rw [← hall] at hxs hys hzs ⊢
  rw [rejected_append, rejected_append, List.filter_append, List.filter_append, Nat.zero_add,
    Nat.zero_add, hxs, hys, hzs, List.nil_append, List.append_nil]

end Rejected

/-! ## Rejected lines of a document -/

namespace Document

/-- The lines of the text that are rejected, and what for. -/
def failures (d : Document) : FailedLines :=
  rejected d.options d.text 0 (lineSpans 0 d.text)

/-- The line of a number lies in a span. -/
def lineWithin (d : Document) (r : Span) (n : Nat) : Bool :=
  (lineSpans 0 d.text)[n]?.any (·.within r)

/-- What the line of a number is rejected for. -/
def failureAt? (d : Document) (n : Nat) : Option ScanError :=
  (lineSpans 0 d.text)[n]?.bind fun r => Scan.failure? d.options (r.slice d.text)

theorem failed_scan (d : Document) (lines : Span) : (d.scan lines).2.failed =
    rejected d.options d.text lines.start ((lines.slice d.index.lines).map (·.span)) :=
  failed_scanLines ..

variable {d : Document}

theorem Current.info_eq_none_iff (h : d.Current) {line : Line (List Token)}
    (hl : line ∈ d.index.lines) :
    line.info = none ↔ ∃ e, Scan.lineTokens d.options (line.span.slice d.text) = .error e := by
  rw [← h.fresh.freshLine_eq hl]
  exact Scan.toOption_lineTokens_eq_none_iff

theorem Current.failureAt?_eq (h : d.Current) (n : Nat) : d.failureAt? n =
    (d.index.line? n).bind fun line => Scan.failure? d.options (line.span.slice d.text) := by
  have hspans : lineSpans 0 d.text = d.index.lines.map (·.span) := h.fresh.covers.symm
  rw [failureAt?, hspans, List.getElem?_map, Option.bind_map]
  rfl

theorem Current.failureAt?_eq_none (h : d.Current) {n : Nat} (hn : d.index.info? n ≠ none) :
    d.failureAt? n = none := by
  rw [h.failureAt?_eq, Option.bind_eq_none_iff]
  intro line hl
  rw [Option.eq_none_iff_forall_ne_some]
  intro e he
  apply hn
  rw [LineIndex.info?, hl, Option.bind_some, h.info_eq_none_iff (List.mem_of_getElem? hl)]
  exact ⟨e, Scan.failure?_eq_some_iff.1 he⟩

theorem Current.failed_retryLine (h : d.Current) (n : Nat) :
    (d.retryLine n).2 = ((d.failureAt? n).map (n, ·)).toList := by
  show (d.scan ⟨n, n + 1⟩).2.failed = _
  rw [failed_scan, slice_succ, h.failureAt?_eq, LineIndex.line?]
  cases d.index.lines[n]? with
  | none => rfl
  | some line => exact (rejected_cons _ _).trans (List.append_nil _)

/-- Scanning the lines without tokens again tells the rejected lines and changes nothing. -/
theorem Current.retryPending_eq_failures (h : d.Current) : d.retryPending = (d, d.failures) := by
  have hlines : (lineSpans 0 d.text).zipIdx.map Prod.snd = List.range d.index.size := by
    rw [List.zipIdx_map_snd, h.fresh.covers.size_eq, List.range_eq_range']
  rw [h.retryPending_eq_flatMap]
  refine congrArg (Prod.mk d) ?_
  calc d.pendingLines.flatMap (fun n => (d.retryLine n).2)
      = d.pendingLines.filterMap (fun n => (d.failureAt? n).map (n, ·)) := by
        rw [List.filterMap_eq_flatMap_toList]
        exact List.flatMap_congr fun n _ => h.failed_retryLine n
    _ = (List.range d.index.size).filterMap (fun n => (d.failureAt? n).map (n, ·)) := by
        rw [pendingLines, List.filterMap_filter]
        refine List.filterMap_congr fun n _ => ?_
        split
        · rfl
        · next hn =>
          rw [h.failureAt?_eq_none (by simpa using hn), Option.map_none]
    _ = d.failures := by
        rw [← hlines, List.filterMap_map]
        refine List.filterMap_congr fun x hx => ?_
        rw [List.mem_zipIdx_iff_getElem?] at hx
        rw [Function.comp_apply, failureAt?, hx, Option.bind_some]

section Edit

variable {r : Span} {replacement : List Char}

theorem failed_edit {a m : Nat} (hi : d.index.Fresh d.options (d.change r replacement).old)
    (hal : LineIndex.Aligned d.index (d.change r replacement) (d.replacementOf r replacement) a m) :
    (d.edit r replacement).2.failed = rejected d.options (d.change r replacement).new
      (d.linesBefore r replacement).length ((d.linesScanned r replacement).map (·.span)) := by
  rw [report_edit, failed_scan, replaced_eq hi hal, lines_unscanned, linesScanned, List.length_map,
    slice_append_append, List.map_map]
  rfl

/-- They are the rejected lines of the new text within the span that the edit reports. -/
theorem Current.failed_edit_eq_filter (h : d.Current) (ho : Fits d.text)
    (hn : Fits (d.edit r replacement).1.text) :
    (d.edit r replacement).2.failed = (d.edit r replacement).1.failures.filter
      fun f => (d.edit r replacement).1.lineWithin (d.edit r replacement).2.invalidated f.1 := by
  obtain ⟨a, m, hi, hal⟩ := h.exists_aligned ho hn
  have hscanned := contiguous_linesScanned hi hal
  have hne := linesScanned_ne_nil hi hal
  have hspans := lineSpans_edit hi hal (h.edit ho hn)
  have hall := contiguous_lineSpans 0 (d.edit r replacement).1.text
  rw [hspans, contiguous_append] at hall
  obtain ⟨q, hfront, hz⟩ := hall
  obtain ⟨p, hx, hy⟩ := contiguous_append.1 hfront
  obtain rfl := hy.start_unique hscanned (mt List.map_eq_nil_iff.1 hne)
  obtain rfl := hy.stop_unique hscanned
  unfold failures lineWithin
  rw [failed_edit hi hal, invalidated_edit hi hal, hspans, filter_rejected hx hy hz, text_edit,
    options_edit, List.length_map]

end Edit

/-- After any operations, the lines without tokens are those that are rejected. Scanning them again
tells these lines in order, each with the error of its text, and leaves the document as it is. What
an edit tells are the rejected lines of the new text within the span that it reports. -/
theorem failures_run (language : Language) (options : ScanOptions) (text : List Char)
    (ops : List Operation) (h : (openText language options text).FitsThrough ops) :
    let d := (openText language options text).run ops
    (∀ line ∈ d.index.lines, line.info = none ↔
        ∃ e, Scan.lineTokens d.options (line.span.slice d.text) = .error e) ∧
      d.retryPending = (d, d.failures) ∧ d.failures.Pairwise (fun x y => x.1 < y.1) ∧
      ∀ r replacement, Fits (d.edit r replacement).1.text →
        (d.edit r replacement).2.failed = (d.edit r replacement).1.failures.filter fun f =>
          (d.edit r replacement).1.lineWithin (d.edit r replacement).2.invalidated f.1 := by
  intro d
  obtain ⟨hc, -, -, -, -, hf⟩ := (current_openText language options text).run h
  exact ⟨fun line hl => hc.info_eq_none_iff hl, hc.retryPending_eq_failures,
    pairwise_rejected _ _ _ _, fun r replacement hn => hc.failed_edit_eq_filter hf hn⟩

/-- An edit makes the second of three lines rejected like the other two, and tells it alone. -/
theorem failures_run_middle_line :
    let d := (openText .sql ⟨.empty, false, false⟩ ['§', '\n', 'a']).run [.insert 3 ['\n', '§']]
    d.retryPending.2 = [(0, ⟨'§', 0⟩), (2, ⟨'§', 0⟩)] ∧
      (d.edit ⟨3, 3⟩ ['§']).1.failures = [(0, ⟨'§', 0⟩), (1, ⟨'§', 1⟩), (2, ⟨'§', 0⟩)] ∧
      (d.edit ⟨3, 3⟩ ['§']).2.failed = [(1, ⟨'§', 1⟩)] := by
  intro d
  obtain ⟨-, hretry, -, hedit⟩ := failures_run .sql ⟨.empty, false, false⟩ ['§', '\n', 'a']
    [.insert 3 ['\n', '§']] (by decide +kernel)
  refine ⟨(congrArg Prod.snd hretry).trans (by decide +kernel), by decide +kernel, ?_⟩
  exact (hedit ⟨3, 3⟩ ['§'] (by decide +kernel)).trans (by decide +kernel)

end Document

end SqlBuffer
