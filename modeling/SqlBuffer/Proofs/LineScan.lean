import SqlBuffer.Proofs.DocumentRun
import SqlBuffer.Proofs.ScanSplit

/-
  Scanning a text line by line.
  A text without a token across the start of a line is scanned line by line with the same outcome
  as in one go, and no line fails: its run is split at one line start after the other. A return
  that ends a line is blank to the scanner, which makes no difference.
-/

namespace SqlBuffer

open Scan

theorem exists_lineTokens_of_run {o : ScanOptions} {line : List Char} {s b : Nat}
    {us : List ScannedToken} {d : Cursor} (h : Run o.keywords ⟨s, b, line⟩ us d)
    (hd : d.rest = []) :
    ∃ ws, lineTokens o line = .ok ws ∧ (kept o us).map (·.toToken) = ws.map (·.offset s) := by
  have hplace : Cursor.mk s b line = (Cursor.start line).offset s b := by
    rw [Cursor.offset, Cursor.start, Nat.zero_add, Nat.zero_add]
  rw [hplace] at h
  obtain ⟨vs, e, rfl, rfl, hr⟩ := h.exists_offset
  refine ⟨_, lineFrom_of_run_to_end hr hd, ?_⟩
  rw [kept, List.filter_map, List.map_map, List.map_map]
  rfl

/-- Lines that no token goes across have their tokens, and together these are the tokens of the
text. -/
theorem freshLine_of_run {o : ScanOptions} {text : List Char} {lines : List (List Char)} {s : Nat}
    {b : Nat} {ts : List ScannedToken} {d : Cursor}
    (hr : Run o.keywords ⟨s, b, lines.flatten⟩ ts d) (hd : d.rest = [])
    (htext : text.drop s = lines.flatten)
    (hcut : ∀ t ∈ ts, ∀ r ∈ spansFrom s lines, ¬ (t.span.start < r.start ∧ r.start < t.span.stop)) :
    (∀ r ∈ spansFrom s lines, (freshLine o text r).info.isSome = true) ∧
      ((spansFrom s lines).map (freshLine o text)).flatMap Line.placed =
        (kept o ts).map (·.toToken) := by
  induction lines generalizing s b ts with
  | nil =>
    refine ⟨fun r hm => absurd hm List.not_mem_nil, ?_⟩
    cases hr with
    | stop => rfl
    | blank hs => cases hs
    | lexeme hs => cases hs
  | cons line lines ih =>
    have hseam : ∀ t ∈ ts, ¬ (t.span.start < s + line.length ∧ s + line.length < t.span.stop) := by
      intro t ht
      cases lines with
      | nil =>
        obtain ⟨read, hread, hp, -⟩ := hr.exists_read
        have hstop := (hr.bounds ht).2.2
        rw [hd, List.append_nil, List.flatten_cons, List.flatten_nil, List.append_nil] at hread
        dsimp only at hread hp
        rw [hp, ← hread] at hstop
        omega
      | cons next lines => exact hcut t ht _ (List.mem_cons_of_mem _ List.mem_cons_self)
    obtain ⟨us, vs, rfl, hu, hv⟩ := hr.exists_cut hd List.flatten_cons hseam
    obtain ⟨ws, hline, hmoved⟩ := exists_lineTokens_of_run hu (List.drop_length ..)
    have hslice : Span.slice ⟨s, s + line.length⟩ text = line := by
      rw [Span.slice, Span.length, Nat.add_sub_cancel_left, htext, List.flatten_cons,
        List.take_left]
    have hfresh : freshLine o text ⟨s, s + line.length⟩ = ⟨⟨s, s + line.length⟩, some ws⟩ := by
      rw [freshLine, hslice, hline]
      rfl
    have hdrop : text.drop (s + line.length) = lines.flatten := by
      rw [← List.drop_drop, htext, List.flatten_cons, List.drop_left]
    have hnext : Cursor.past ⟨s, b, (line :: lines).flatten⟩ line =
        ⟨s + line.length, b + utf8Length line, lines.flatten⟩ := by
      rw [Cursor.past, List.flatten_cons, List.drop_left]
    rw [hnext] at hv
    obtain ⟨hsome, hplaced⟩ := ih hv hdrop fun t ht r hm =>
      hcut t (List.mem_append_right _ ht) r (List.mem_cons_of_mem _ hm)
    rw [spansFrom]
    constructor
    · intro r hm
      rcases List.mem_cons.1 hm with rfl | hm
      · rw [hfresh]
        rfl
      · exact hsome r hm
    · rw [List.map_cons, List.flatMap_cons, hplaced, hfresh, kept_append, List.map_append, hmoved]
      rfl

namespace Document

/-- If a text has no token across the start of a line, comments and line breaks among the tokens,
then every line of the opened text has its tokens, and the token list is what a scan of the whole
text keeps but for the end. -/
theorem textTokens_of_lines (language : Language) (o : ScanOptions) (text : List Char)
    {ts : List ScannedToken}
    (h : textTokens { o with keepNewLines := true, keepComments := true } text = .ok ts)
    (hcut : ∀ t ∈ ts, ∀ line ∈ (LineIndex.ofText text : LineIndex (List Token)).lines,
      ¬ (t.span.start < line.span.start ∧ line.span.start < t.span.stop)) :
    (∀ line ∈ (openText language o text).index.lines, line.info.isSome = true) ∧
      (textTokens o text).map (·.map (·.toToken)) =
        .ok ((openText language o text).tokens.toList ++
          [⟨.endOfText, ⟨text.length, text.length⟩⟩]) := by
  obtain ⟨us, d, hr, hd, rfl⟩ := exists_run_of_textTokens_ok h
  rw [kept_all] at hcut
  have hspans : ∀ t ∈ us, ∀ r ∈ lineSpans 0 text,
      ¬ (t.span.start < r.start ∧ r.start < t.span.stop) := fun t ht r hm =>
    hcut t (List.mem_append_left _ ht) (.fresh r) (List.mem_map_of_mem hm)
  have hflat := flatten_splitLines text
  have hrun : Run o.keywords ⟨0, 0, (splitLines text).flatten⟩ us d := by
    rw [hflat]
    exact hr
  obtain ⟨hsome, hplaced⟩ := freshLine_of_run hrun hd hflat.symm hspans
  have hopen := current_openText language o text
  have hlines : (openText language o text).index.lines =
      (lineSpans 0 text).map (freshLine o text) := hopen.fresh
  constructor
  · intro line hl
    rw [hlines] at hl
    obtain ⟨r, hm, rfl⟩ := List.mem_map.1 hl
    exact hsome r hm
  · have htokens : (openText language o text).tokens.toList = (kept o us).map (·.toToken) := by
      rw [hopen.tokens, hlines]
      exact hplaced
    rw [Run.textTokens_eq (o := o) hr hd, htokens]
    exact congrArg Except.ok List.map_append

/-- A return alone ends a line of the document and is blank to the scanner; the comment stays on
its line. -/
theorem textTokens_of_lines_return :
    let text := ['(', '\r', '-', '-', 'é', '\n', ')']
    textTokens ⟨.empty, true, true⟩ text =
        .ok [⟨⟨.punctuation .leftParen, ⟨0, 1⟩⟩, ⟨0, 1⟩⟩, ⟨⟨.comment, ⟨2, 5⟩⟩, ⟨2, 6⟩⟩,
          ⟨⟨.newLine, ⟨5, 6⟩⟩, ⟨6, 7⟩⟩, ⟨⟨.punctuation .rightParen, ⟨6, 7⟩⟩, ⟨7, 8⟩⟩,
          endToken 7 8] ∧
      (textTokens ⟨.empty, false, false⟩ text).map (·.map (·.toToken)) =
        .ok ((openText .sql ⟨.empty, false, false⟩ text).tokens.toList ++
          [⟨.endOfText, ⟨7, 7⟩⟩]) := by
  intro text
  have h : textTokens ⟨.empty, true, true⟩ text =
      .ok [⟨⟨.punctuation .leftParen, ⟨0, 1⟩⟩, ⟨0, 1⟩⟩, ⟨⟨.comment, ⟨2, 5⟩⟩, ⟨2, 6⟩⟩,
        ⟨⟨.newLine, ⟨5, 6⟩⟩, ⟨6, 7⟩⟩, ⟨⟨.punctuation .rightParen, ⟨6, 7⟩⟩, ⟨7, 8⟩⟩,
        endToken 7 8] := by
    decide +kernel
  exact ⟨h, (textTokens_of_lines .sql ⟨.empty, false, false⟩ text h (by decide +kernel)).2⟩

end Document

end SqlBuffer
