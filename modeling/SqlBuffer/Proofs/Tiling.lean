import SqlBuffer.Proofs.TokenOrder
import SqlBuffer.Scan.Location

/-
  The tokens of a text tile it.
  A scan that keeps comments and line breaks gives tokens one after the other, each with the text
  that its rule reads at its place, and nothing but blanks between them; if a character stops the
  scan, this holds of the text before it. The bytes that the scanner counts along the way are where
  the same text stands in the UTF-8 of the source, so that they cut no character in two.
-/

namespace SqlBuffer

/-! ## Bytes of a location -/

theorem utf8Length_eq_utf8ByteSize (cs : List Char) :
    utf8Length cs = (String.ofList cs).utf8ByteSize := by
  induction cs with
  | nil => rfl
  | cons c cs ih => simp [ih]

/-- Cutting the UTF-8 of a text by the lengths of its parts gives the UTF-8 of the parts. -/
theorem extract_toByteArray (before middle after : List Char) :
    (String.ofList (before ++ (middle ++ after))).toByteArray.extract (utf8Length before)
        (utf8Length (before ++ middle)) = (String.ofList middle).toByteArray := by
  have hsize (cs : List Char) : utf8Length cs = cs.utf8Encode.size := by
    rw [utf8Length_eq_utf8ByteSize, ← String.size_toByteArray, String.toByteArray_ofList]
  rw [utf8Length_append, hsize before, hsize middle]
  simp only [String.toByteArray_ofList, List.utf8Encode_append]
  refine (ByteArray.extract_append_size_add (i := 0)).trans ?_
  exact ByteArray.extract_append_eq_left rfl

theorem take_append_slice {α : Type} {xs : List α} {a b : Nat} (h : a ≤ b) :
    xs.take a ++ Span.slice ⟨a, b⟩ xs = xs.take b := by
  rw [Span.slice, Span.length, ← List.take_add, Nat.add_sub_cancel' h]

namespace Location

variable {p : Location}

/-- The bytes of a location are those of its characters. -/
structure Coherent (p : Location) : Prop where
  start_le : p.span.start ≤ p.span.stop
  start_eq : p.bytes.start = utf8Length (p.source.take p.span.start)
  stop_eq : p.bytes.stop = utf8Length (p.source.take p.span.stop)

namespace Coherent

theorem before_eq (h : p.Coherent) : p.before = p.source.take p.span.start := by
  have hcut := takeBytes_append (p.source.take p.span.start) (p.source.drop p.span.start)
  rw [List.take_append_drop, ← h.start_eq] at hcut
  exact hcut

theorem rest_eq (h : p.Coherent) : p.rest = p.source.drop p.span.stop := by
  have hcut := dropBytes_append (p.source.take p.span.stop) (p.source.drop p.span.stop)
  rw [List.take_append_drop, ← h.stop_eq] at hcut
  exact hcut

theorem length_eq (h : p.Coherent) : p.bytes.length = utf8Length (p.span.slice p.source) := by
  rw [Span.length, h.start_eq, h.stop_eq, ← take_append_slice h.start_le, utf8Length_append,
    Nat.add_sub_cancel_left]

/-- What is cut out by bytes is what stands between the characters. -/
theorem text_eq (h : p.Coherent) : p.text = p.span.slice p.source := by
  have hdrop := dropBytes_append (p.source.take p.span.start) (p.source.drop p.span.start)
  rw [List.take_append_drop, ← h.start_eq] at hdrop
  have hslice : p.source.drop p.span.start =
      p.span.slice p.source ++ (p.source.drop p.span.start).drop p.span.length :=
    (List.take_append_drop _ _).symm
  rw [text, hdrop, h.length_eq, hslice, takeBytes_append]

end Coherent

theorem coherent_of_append (front text rest : List Char) :
    Coherent ⟨front ++ text ++ rest, ⟨front.length, front.length + text.length⟩,
      ⟨utf8Length front, utf8Length front + utf8Length text⟩⟩ where
  start_le := Nat.le_add_right _ _
  start_eq := by rw [List.append_assoc, List.take_left]
  stop_eq := by rw [← List.length_append, List.take_left, utf8Length_append]

/-- The bytes of a location are where its text stands in the UTF-8 of the source. -/
structure Encoded (p : Location) : Prop where
  /-- The text that is cut out by bytes is that of the characters. -/
  text_eq : p.text = p.span.slice p.source
  start_eq : p.bytes.start = (String.ofList (p.source.take p.span.start)).utf8ByteSize
  stop_eq : p.bytes.stop = (String.ofList (p.source.take p.span.stop)).utf8ByteSize
  /-- Both ends lie between two characters. -/
  isValid_start : String.Pos.Raw.IsValid (String.ofList p.source) ⟨p.bytes.start⟩
  isValid_stop : String.Pos.Raw.IsValid (String.ofList p.source) ⟨p.bytes.stop⟩
  extract_eq : (String.ofList p.source).toByteArray.extract p.bytes.start p.bytes.stop =
    (String.ofList p.text).toByteArray

theorem Coherent.encoded (h : p.Coherent) : p.Encoded := by
  have hstart := h.start_eq
  have hstop := h.stop_eq
  rw [utf8Length_eq_utf8ByteSize] at hstart hstop
  refine ⟨h.text_eq, hstart, hstop, ?_, ?_, ?_⟩
  · exact String.Pos.Raw.isValid_ofList.2 ⟨p.span.start, hstart⟩
  · exact String.Pos.Raw.isValid_ofList.2 ⟨p.span.stop, hstop⟩
  · have hparts : p.source =
        p.source.take p.span.start ++ (p.span.slice p.source ++ p.source.drop p.span.stop) := by
      rw [← List.append_assoc, take_append_slice h.start_le, List.take_append_drop]
    have hcut := extract_toByteArray (p.source.take p.span.start) (p.span.slice p.source)
      (p.source.drop p.span.stop)
    rw [← hparts, take_append_slice h.start_le, ← h.start_eq, ← h.stop_eq] at hcut
    rw [h.text_eq]
    exact hcut

end Location

namespace Scan

/-- The tokens tile the text up to position `n`. -/
structure Tiles (k : Keywords) (text : List Char) (ts : List ScannedToken) (n : Nat) : Prop where
  le_length : n ≤ text.length
  ne_empty : ∀ t ∈ ts, t.span.start < t.span.stop ∧ t.span.stop ≤ n
  pairwise : ts.Pairwise (·.span.stop ≤ ·.span.start)
  /-- What is in no token is blank. -/
  isBlank_gap : ∀ i, i < n → (∀ t ∈ ts, ¬ (t.span.start ≤ i ∧ i < t.span.stop)) →
    ∃ ch, text[i]? = some ch ∧ isBlank ch = true
  /-- At its start a token is read with its kind and the text of its location. -/
  step_eq : ∀ t ∈ ts, step k (text.drop t.span.start) =
    .lexeme ⟨t.kind, (t.location text).text, (t.location text).rest⟩
  encoded : ∀ t ∈ ts, (t.location text).Encoded
  ne_endOfText : ∀ t ∈ ts, t.kind ≠ .endOfText

variable {k : Keywords} {c d : Cursor} {ts : List ScannedToken} {text : List Char}

/-- A run passes over a character outside its tokens only if it is blank. -/
theorem Run.isBlank_of_gap (h : Run k c ts d) {i : Nat} (hi : c.position + i < d.position)
    (hgap : ∀ t ∈ ts, ¬ (t.span.start ≤ c.position + i ∧ c.position + i < t.span.stop)) :
    ∃ ch, c.rest[i]? = some ch ∧ isBlank ch = true := by
  induction h generalizing i with
  | stop c => omega
  | @blank c d rest ts hs _ ih =>
    obtain ⟨b, hb, hc⟩ := step_blank hs
    cases i with
    | zero => exact ⟨b, by rw [hc]; rfl, hb⟩
    | succ i =>
      have hpos : c.position + (i + 1) = c.advance.position + i := by
        rw [Cursor.advance_eq_past hc, Nat.add_comm i 1, ← Nat.add_assoc]
        rfl
      rw [hpos] at hi hgap
      rw [hc, List.getElem?_cons_succ, ← Cursor.rest_advance hc]
      exact ih hi hgap
  | @lexeme c d l ts hs _ ih =>
    -- the character is in none of the tokens, so it stands behind the first one
    have hfirst := hgap _ List.mem_cons_self
    dsimp only [Cursor.token, Cursor.tokenTo, Cursor.after] at hfirst
    obtain ⟨j, rfl⟩ : ∃ j, i = l.text.length + j := ⟨i - l.text.length, by omega⟩
    have hpos : c.position + (l.text.length + j) = (c.after l).position + j := by
      rw [← Nat.add_assoc]
      rfl
    rw [hpos] at hi hgap
    rw [← (reads_step hs).append, List.getElem?_append_right (Nat.le_add_right _ _),
      Nat.add_sub_cancel_left]
    exact ih hi fun t ht => hgap t (List.mem_cons_of_mem _ ht)

/-- The two offsets of a token stay together along a run. -/
theorem Run.coherent (h : Run k (.start text) ts d) {t : ScannedToken} (ht : t ∈ ts) :
    (t.location text).Coherent := by
  obtain ⟨read, l, hrest, -, rfl⟩ := h.exists_lexeme ht
  have htext : text = read ++ l.text ++ l.rest := hrest
  have hparts := Location.coherent_of_append read l.text l.rest
  simpa [ScannedToken.location, Cursor.token, Cursor.tokenTo, Cursor.after, Cursor.past,
    Cursor.start, ← htext] using hparts

theorem Run.step_eq (h : Run k (.start text) ts d) {t : ScannedToken} (ht : t ∈ ts) :
    step k (text.drop t.span.start) =
      .lexeme ⟨t.kind, (t.location text).text, (t.location text).rest⟩ := by
  rw [(h.coherent ht).text_eq, (h.coherent ht).rest_eq]
  obtain ⟨read, l, hrest, hl, rfl⟩ := h.exists_lexeme ht
  have htext : text = read ++ (l.text ++ l.rest) := by
    rw [← List.append_assoc]
    exact hrest
  have hstart : (Cursor.start text).position + read.length = read.length := Nat.zero_add _
  simp only [ScannedToken.location, Cursor.token, Cursor.tokenTo, Cursor.after, Cursor.past,
    hstart, Span.slice, Span.length, Nat.add_sub_cancel_left]
  rw [htext, List.drop_left, hl, List.take_left, ← List.length_append, ← List.append_assoc,
    List.drop_left]

theorem coherent_endToken (text : List Char) :
    ((endToken text.length (utf8Length text)).location text).Coherent where
  start_le := Nat.le_refl _
  start_eq := by rw [ScannedToken.location, endToken, List.take_length]
  stop_eq := by rw [ScannedToken.location, endToken, List.take_length]

/-- A token that a scanner answers is the one at the end of the text, or a rule reads it at its
place. -/
theorem mem_results_cases {o : ScanOptions} {n : Nat} {t : ScannedToken}
    (h : .ok t ∈ results o n (.start text)) :
    t = endToken text.length (utf8Length text) ∨
      ∃ ts d, Run o.keywords (.start text) ts d ∧ t ∈ ts := by
  have hs := mem_streamFrom_of_mem_results h
  obtain ⟨ts, d, hr, hd | ⟨ch, hd⟩⟩ := exists_run o.keywords (.start text)
  · rw [streamFrom_of_run_to_end hr hd, (hr.position_eq hd).1, (hr.position_eq hd).2] at hs
    have hmem : t ∈ kept o ts ∨ t = endToken text.length (utf8Length text) := by simpa using hs
    exact hmem.symm.imp_right fun ht => ⟨ts, d, hr, (List.mem_filter.1 ht).1⟩
  · rw [streamFrom_of_run_unexpected hr hd] at hs
    have hmem : t ∈ kept o ts := by simpa using hs
    exact Or.inr ⟨ts, d, hr, (List.mem_filter.1 hmem).1⟩

theorem step_of_mem_results {o : ScanOptions} {n : Nat} {t : ScannedToken}
    (h : .ok t ∈ results o n (.start text)) :
    t = endToken text.length (utf8Length text) ∨
      step o.keywords (text.drop t.span.start) =
        .lexeme ⟨t.kind, (t.location text).text, (t.location text).rest⟩ := by
  refine (mem_results_cases h).imp_right ?_
  rintro ⟨ts, d, hr, ht⟩
  exact hr.step_eq ht

theorem Reads.exists_cons {l : Lexeme} {cs : List Char} {ch : Char} (h : Reads l cs)
    (hc : l.text.head? = some ch) : ∃ tail, cs = ch :: tail := by
  obtain ⟨tail, ht⟩ := List.head?_eq_some_iff.1 hc
  refine ⟨tail ++ l.rest, ?_⟩
  rw [← h.append, ht]
  rfl

/-- A token that is not empty is read at its place by the rule for its first character. -/
theorem exists_step_of_mem_results {o : ScanOptions} {n : Nat} {t : ScannedToken} {ch : Char}
    (h : .ok t ∈ results o n (.start text)) (hc : (t.location text).text.head? = some ch) :
    ∃ cs, text.drop t.span.start = ch :: cs ∧ step o.keywords (ch :: cs) =
      .lexeme ⟨t.kind, (t.location text).text, (t.location text).rest⟩ := by
  rcases step_of_mem_results h with rfl | hs
  · rw [(coherent_endToken text).text_eq] at hc
    simp [Span.slice, ScannedToken.location, endToken] at hc
  · obtain ⟨tail, ht⟩ := (reads_step hs).exists_cons hc
    rw [ht] at hs
    exact ⟨tail, ht, hs⟩

theorem Run.tiles (h : Run k (.start text) ts d) : Tiles k text ts d.position := by
  obtain ⟨read, hread, hpos, -⟩ := h.exists_read
  have hzero (i : Nat) : (Cursor.start text).position + i = i := Nat.zero_add i
  refine ⟨?_, ?_, List.pairwise_map.1 h.inOrder.pairwise, ?_, ?_, ?_, ?_⟩
  · have hlen : text.length = read.length + d.rest.length := by
      rw [← List.length_append, ← hread]
      rfl
    rw [hpos, hzero]
    omega
  · intro t ht
    exact (h.bounds ht).2
  · intro i hi hgap
    apply h.isBlank_of_gap
    · rw [hzero]
      exact hi
    · rw [hzero]
      exact hgap
  · intro t ht
    exact h.step_eq ht
  · intro t ht
    exact (h.coherent ht).encoded
  · intro t ht
    exact h.ne_endOfText_of_mem ht

/-- A scan that keeps every token tiles the text, and ends with the one token at the end of the
text. A scan that fails gives tokens that tile the text up to the character that it fails at. -/
theorem tiles_textTokens (k : Keywords) (text : List Char) :
    match textTokens ⟨k, true, true⟩ text with
    | .ok ts => ∃ us, ts = us ++ [endToken text.length (utf8Length text)] ∧
        Tiles k text us text.length ∧
        ((endToken text.length (utf8Length text)).location text).Encoded
    | .error e => ∃ us, stream ⟨k, true, true⟩ text = us.map .ok ++ [.error e] ∧
        Tiles k text us e.position := by
  obtain ⟨us, d, hr, hd | ⟨ch, hd⟩⟩ := exists_run k (.start text)
  · have htiles := hr.tiles
    rw [(hr.position_eq hd).1] at htiles
    rw [Run.textTokens_eq (o := ⟨k, true, true⟩) hr hd, kept_all]
    exact ⟨us, rfl, htiles, (coherent_endToken text).encoded⟩
  · have herror := textFrom_of_run_unexpected (o := ⟨k, true, true⟩) hr hd
    have hstream := streamFrom_of_run_unexpected (o := ⟨k, true, true⟩) hr hd
    rw [kept_all] at hstream
    rw [textTokens, herror]
    exact ⟨us, hstream, hr.tiles⟩

/-- The letters take two and three bytes, so that the bytes run ahead of the characters. -/
example : (textTokens ⟨.empty, true, true⟩ ['é', ' ', '/', '*', '√', '*', '/', ';']).toOption =
    some [⟨⟨.identifier "é", ⟨0, 1⟩⟩, ⟨0, 2⟩⟩, ⟨⟨.comment, ⟨2, 7⟩⟩, ⟨3, 10⟩⟩,
      ⟨⟨.punctuation .semicolon, ⟨7, 8⟩⟩, ⟨10, 11⟩⟩, endToken 8 11] := by
  decide +kernel

end Scan

end SqlBuffer
