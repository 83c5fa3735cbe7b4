import SqlBuffer.Proofs.ScanSplit

/-
  Where a scan fails.
  Some characters begin a token or lie between tokens; `accepts` has them. The others stand only
  within tokens that take any character: strings, comments, identifiers in brackets and commands.
  A scan fails at the first of the others that no token covers. The text before that place is
  scanned by itself with the tokens that the scan gave until it failed.
-/

namespace SqlBuffer.Scan

/-- The character may stand where a token begins or between tokens. -/
def accepts (c : Char) : Bool :=
  isBlank c || isLineBreak c || isWordChar c || Punctuation.all.any (·.symbol == c) ||
    ['\\', '\'', '$', '['].contains c

theorem accepts_of_isBlank {c : Char} (h : isBlank c = true) : accepts c = true := by
  simp [accepts, h]

theorem accepts_of_step_unexpected {k : Keywords} {cs : List Char} {ch : Char}
    (h : step k cs = .unexpected ch) : accepts ch = false ∧ ∃ rest, cs = ch :: rest := by
  cases choice_of_step h with
  | unexpected rest hb hl hw hc hp =>
    have hsymbol : Punctuation.all.any (·.symbol == ch) = false := by
      rw [List.any_eq_false]
      exact List.find?_eq_none.1 hp
    have hother : ['\\', '\'', '$', '['].contains ch = false := by
      simpa using hc
    refine ⟨?_, rest, rfl⟩
    rw [accepts, hb, hl, hw, hsymbol, hother]
    rfl

section Failure

variable {o : ScanOptions} {text : List Char} {e : ScanError}

/-- The run of a scan that fails has read the text before the character that it fails at. -/
theorem exists_run_of_textTokens_error (h : textTokens o text = .error e) :
    ∃ ts read rest, text = read ++ e.character :: rest ∧ read.length = e.position ∧
      Run o.keywords (.start text) ts ⟨e.position, utf8Length read, e.character :: rest⟩ ∧
      step o.keywords (e.character :: rest) = .unexpected e.character := by
  obtain ⟨ts, ⟨p, b, cs⟩, hr, hd, hp⟩ := exists_run_of_textFrom_error h
  obtain ⟨read, hread, hpos, hbytes⟩ := hr.exists_read
  obtain ⟨-, rest, hrest⟩ := accepts_of_step_unexpected hd
  dsimp only [Cursor.start] at hread hpos hbytes hrest hp
  rw [Nat.zero_add] at hpos hbytes
  subst hrest hp hbytes
  exact ⟨ts, read, rest, hread, hpos.symm, hr, hd⟩

theorem character_of_textTokens_error (h : textTokens o text = .error e) :
    text[e.position]? = some e.character ∧ accepts e.character = false := by
  obtain ⟨ts, read, rest, htext, hlen, -, hd⟩ := exists_run_of_textTokens_error h
  refine ⟨?_, (accepts_of_step_unexpected hd).1⟩
  rw [← hlen, htext, List.getElem?_append_right (Nat.le_refl _), Nat.sub_self]
  rfl

theorem exists_textTokens_take (h : textTokens o text = .error e) :
    ∃ ts, textTokens o (text.take e.position) =
        .ok (ts ++ [endToken e.position (utf8Length (text.take e.position))]) ∧
      stream o text = ts.map .ok ++ [.error e] := by
  obtain ⟨ts, read, rest, htext, hlen, hr, hd⟩ := exists_run_of_textTokens_error h
  have htake : text.take e.position = read := by
    rw [← hlen, htext, List.take_left]
  have hfront := textFrom_of_run_to_end (hr.front htext) rfl
  rw [htake]
  exact ⟨kept o ts, hfront, streamFrom_of_run_unexpected hr hd⟩

theorem textTokens_error_iff (o : ScanOptions) (text : List Char) :
    (∃ e, textTokens o text = .error e) ↔
      ∃ i c, text[i]? = some c ∧ accepts c = false ∧
        ∀ t, .ok t ∈ stream ⟨o.keywords, true, true⟩ text →
          ¬ (t.span.start ≤ i ∧ i < t.span.stop) := by
  constructor
  · rintro ⟨e, h⟩
    obtain ⟨hc, hacc⟩ := character_of_textTokens_error h
    refine ⟨e.position, e.character, hc, hacc, fun t ht => ?_⟩
    obtain ⟨ts, read, rest, -, -, hr, hd⟩ := exists_run_of_textTokens_error h
    have hstream := streamFrom_of_run_unexpected (o := ⟨o.keywords, true, true⟩) hr hd
    rw [stream, hstream, kept_all] at ht
    have hmem : t ∈ ts := by simpa using ht
    have hstop : t.span.stop ≤ e.position := (hr.bounds hmem).2.2
    omega
  · rintro ⟨i, c, hc, hacc, hgap⟩
    obtain ⟨ts, d, hr, hd | ⟨ch, hd⟩⟩ := exists_run o.keywords (.start text)
    · -- a scan to the end leaves only blanks between the tokens
      have hstream := streamFrom_of_run_to_end (o := ⟨o.keywords, true, true⟩) hr hd
      rw [kept_all] at hstream
      have hi : i < d.position := by
        rw [(hr.position_eq hd).1]
        exact (List.getElem?_eq_some_iff.1 hc).1
      obtain ⟨b, hb, hblank⟩ := hr.tiles.isBlank_gap i hi fun t ht => hgap t (by
        rw [stream, hstream]
        exact List.mem_append_left _ (List.mem_map_of_mem ht))
      obtain rfl : c = b := Option.some.inj (hc.symm.trans hb)
      rw [accepts_of_isBlank hblank] at hacc
      cases hacc
    · exact ⟨_, textFrom_of_run_unexpected hr hd⟩

end Failure

/-- A scan that fails names a character at its place in the text which is not accepted. The text
before that place is scanned with the tokens that the scan gave before it failed. A text of accepted
characters is scanned, and so is any text whose other characters are all within tokens. -/
theorem textTokens_failure (o : ScanOptions) (text : List Char) :
    (∀ e, textTokens o text = .error e →
      text[e.position]? = some e.character ∧ accepts e.character = false ∧
        ∃ ts, textTokens o (text.take e.position) =
            .ok (ts ++ [endToken e.position (utf8Length (text.take e.position))]) ∧
          stream o text = ts.map .ok ++ [.error e]) ∧
    ((∀ c ∈ text, accepts c = true) → ∃ ts, textTokens o text = .ok ts) ∧
    ((∃ e, textTokens o text = .error e) ↔
      ∃ i c, text[i]? = some c ∧ accepts c = false ∧
        ∀ t, .ok t ∈ stream ⟨o.keywords, true, true⟩ text →
          ¬ (t.span.start ≤ i ∧ i < t.span.stop)) := by
  refine ⟨fun e h => ?_, fun hall => ?_, textTokens_error_iff o text⟩
  · obtain ⟨hc, hacc⟩ := character_of_textTokens_error h
    exact ⟨hc, hacc, exists_textTokens_take h⟩
  · cases h : textTokens o text with
    | ok ts => exact ⟨ts, rfl⟩
    | error e =>
      obtain ⟨hc, hacc⟩ := character_of_textTokens_error h
      rw [hall _ (List.mem_of_getElem? hc)] at hacc
      cases hacc

/-- The section sign in the string is no failure, and the one behind it is. The tag before it is an
identifier because it does not occur again, which the scan found out by looking past the failure. -/
theorem textTokens_failure_tag :
    let text := ['\'', '§', '\'', '$', 'a', '$', '§', '$', 'b', '$']
    let ts : List ScannedToken :=
      [⟨⟨.string "§", ⟨0, 3⟩⟩, ⟨0, 4⟩⟩, ⟨⟨.identifier "$a$", ⟨3, 6⟩⟩, ⟨4, 7⟩⟩]
    textTokens ⟨.empty, false, false⟩ text = .error ⟨'§', 6⟩ ∧ accepts '§' = false ∧
      textTokens ⟨.empty, false, false⟩ (text.take 6) = .ok (ts ++ [endToken 6 7]) ∧
      ∃ us, textTokens ⟨.empty, false, false⟩ (text.take 6) = .ok (us ++ [endToken 6 7]) ∧
        stream ⟨.empty, false, false⟩ text = us.map .ok ++ [.error ⟨'§', 6⟩] := by
  intro text ts
  have h : textTokens ⟨.empty, false, false⟩ text = .error ⟨'§', 6⟩ := by decide +kernel
  obtain ⟨-, hacc, htake⟩ := (textTokens_failure ⟨.empty, false, false⟩ text).1 _ h
  exact ⟨h, hacc, by decide +kernel, htake⟩

end SqlBuffer.Scan
