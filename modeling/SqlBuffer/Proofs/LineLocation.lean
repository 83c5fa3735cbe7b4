import Mathlib.Data.List.Basic
import SqlBuffer.Proofs.Extent
import SqlBuffer.Proofs.LineQuery
import SqlBuffer.Proofs.Tiling

/-
  The lines of the scanner are those of the line index.
  The scanner counts line breaks before a token and looks for the breaks around it; a return is no
  break to it. In a text where each return is followed by a line feed, a line starts exactly behind
  a break of the scanner. Then the breaks before a position count its line, the characters back to
  the last break are its column, and the next break ends its line. So a location has the line, the
  column and the text that the index gives for its span.
-/

namespace SqlBuffer

/-! ## Parts of a list -/

section Slice

variable {α : Type} {xs : List α} {a b c : Nat}

theorem slice_append_slice (hab : a ≤ b) (hbc : b ≤ c) :
    Span.slice ⟨a, b⟩ xs ++ Span.slice ⟨b, c⟩ xs = Span.slice ⟨a, c⟩ xs := by
  unfold Span.slice Span.length
  dsimp only
  rw [show c - a = (b - a) + (c - b) by omega, List.take_add, List.drop_drop,
    Nat.add_sub_cancel' hab]

theorem getElem?_slice {i : Nat} (hi : i < b - a) :
    (Span.slice ⟨a, b⟩ xs)[i]? = xs[a + i]? := by
  unfold Span.slice Span.length
  dsimp only
  rw [List.getElem?_take_of_lt hi, List.getElem?_drop]

theorem exists_of_mem_slice {x : α} (h : x ∈ Span.slice ⟨a, b⟩ xs) :
    ∃ i, a ≤ i ∧ i < b ∧ xs[i]? = some x := by
  obtain ⟨i, hi⟩ := List.getElem?_of_mem h
  have hlt : i < b - a := by
    have := (List.getElem?_eq_some_iff.1 hi).1
    unfold Span.slice Span.length at this
    rw [List.length_take] at this
    dsimp only at this
    omega
  rw [getElem?_slice hlt] at hi
  exact ⟨a + i, Nat.le_add_right _ _, by omega, hi⟩

theorem getLast?_slice (hab : a < b) (hb : b ≤ xs.length) :
    (Span.slice ⟨a, b⟩ xs).getLast? = xs[b - 1]? := by
  rw [List.getLast?_eq_getElem?, length_slice hb, getElem?_slice (by omega)]
  congr 1
  omega

end Slice

/-! ## Line starts and breaks of the scanner -/

/-- Each return is followed by a line feed. -/
def ReturnsJoined (text : List Char) : Prop :=
  ∀ i, i < text.length → text[i]? = some '\r' → text[i + 1]? = some '\n'

instance (text : List Char) : Decidable (ReturnsJoined text) :=
  inferInstanceAs (Decidable (∀ i, i < _ → _))

theorem endsLine_eq (c : Char) : endsLine c = (c == '\r' || isLineBreak c) := by
  unfold endsLine isLineBreak
  cases c == '\n' <;> cases c == '\r' <;> rfl

variable {text : List Char} {i : Nat}

theorem startsLine_succ_iff (h : ReturnsJoined text) (i : Nat) :
    StartsLine text (i + 1) ↔ text[i]?.any isLineBreak = true := by
  rw [StartsLine]
  cases hc : text[i]? with
  | none => simp
  | some c =>
    have hi : i < text.length := (List.getElem?_eq_some_iff.1 hc).1
    rw [Option.any_some, Option.any_some, endsLine_eq]
    by_cases hr : c = '\r'
    · subst hr
      simp [h i hi hc, isLineBreak]
    · simp [hr]

theorem lineNumber_eq_countP (h : ReturnsJoined text) (i : Nat) :
    lineNumber text i = (text.take i).countP isLineBreak := by
  induction i with
  | zero => rw [lineNumber_zero, List.take_zero, List.countP_nil]
  | succ i ih =>
    rw [lineNumber_succ, ih, List.take_add_one, List.countP_append]
    congr 1
    simp only [startsLine_succ_iff h]
    cases text[i]? with
    | none => rfl
    | some c => simp [List.countP_cons]

namespace LineAt

variable {before after : List Span} {r : Span}

theorem isLineBreak_eq_false (h : LineAt text i before r after) (hj : ReturnsJoined text) {p : Nat}
    {c : Char} (hs : r.start ≤ p) (hp : p < i ∨ p + 1 < r.stop) (hc : text[p]? = some c) :
    isLineBreak c = false := by
  have hn := h.not_startsLine (p := p + 1) (by omega) (by omega)
  rw [startsLine_succ_iff hj, hc] at hn
  exact Bool.eq_false_iff.2 hn

/-- The characters of a line before a position, found backwards from it. -/
theorem takeWhile_reverse (h : LineAt text i before r after) (hj : ReturnsJoined text) :
    (text.take i).reverse.takeWhile (!isLineBreak ·) = (Span.slice ⟨r.start, i⟩ text).reverse := by
  have hsplit : text.take r.start ++ Span.slice ⟨r.start, i⟩ text = text.take i :=
    take_append_slice h.start_le
  rw [← hsplit, List.reverse_append]
  refine MaximalRun.takeWhile_eq ⟨fun c hc => ?_, fun c hc => ?_⟩
  · obtain ⟨p, hs, hp, hc⟩ := exists_of_mem_slice (List.mem_reverse.1 hc)
    rw [h.isLineBreak_eq_false hj hs (Or.inl hp) hc]
    rfl
  · rw [List.head?_reverse] at hc
    cases hr : r.start with
    | zero =>
      rw [hr, List.take_zero] at hc
      cases hc
    | succ p =>
      -- a line that does not start the text starts behind a break
      have hstart := h.startsLine
      rw [hr] at hc hstart
      have hle := startsLine_le hstart
      rw [startsLine_succ_iff hj] at hstart
      rw [List.getLast?_eq_getElem?, List.length_take, Nat.min_eq_left hle, Nat.add_sub_cancel,
        List.getElem?_take_of_lt (Nat.lt_succ_self p)] at hc
      rw [hc, Option.any_some] at hstart
      rw [hstart]
      rfl

/-- The last character of a line before another is a break, and no other character is. -/
theorem exists_break (h : LineAt text i before r after) (hj : ReturnsJoined text) {b : Nat}
    (hs : r.start ≤ b) (hb : b ≤ r.stop) (hne : after = [] ∨ b < r.stop) :
    ∃ m, b ≤ m ∧ Span.slice ⟨b, r.stop⟩ text = Span.slice ⟨b, m⟩ text ++ (text.drop m).take 1 ∧
      MaximalRun (!isLineBreak ·) (Span.slice ⟨b, m⟩ text) (text.drop m) := by
  cases after with
  | nil =>
    have hstop := h.stop_eq
    have hend : LineAt text r.stop before r [] :=
      ⟨h.spans, by omega, fun x hx => absurd hx List.not_mem_nil⟩
    refine ⟨r.stop, hb, ?_, fun c hc => ?_, fun c hc => ?_⟩
    · rw [hstop, List.drop_length, List.take_nil, List.append_nil]
    · obtain ⟨p, hp, hlt, hc⟩ := exists_of_mem_slice hc
      rw [hend.isLineBreak_eq_false hj (by omega) (Or.inl hlt) hc]
      rfl
    · rw [hstop, List.drop_length] at hc
      cases hc
  | cons x xs =>
    have hlt : b < r.stop := hne.resolve_left (List.cons_ne_nil x xs)
    obtain ⟨m, hm⟩ : ∃ m, r.stop = m + 1 := ⟨r.stop - 1, by omega⟩
    have hbreak := h.startsLine_stop
    rw [hm, startsLine_succ_iff hj] at hbreak
    refine ⟨m, by omega, ?_, fun c hc => ?_, fun c hc => ?_⟩
    · rw [hm, ← slice_append_slice (by omega : b ≤ m) (Nat.le_add_right m 1)]
      congr 1
      rw [Span.slice, Span.length, Nat.add_sub_cancel_left]
    · obtain ⟨p, hp, hlt, hc⟩ := exists_of_mem_slice hc
      rw [h.isLineBreak_eq_false hj (by omega) (Or.inr (by omega)) hc]
      rfl
    · rw [List.head?_drop] at hc
      rw [hc, Option.any_some] at hbreak
      rw [hbreak]
      rfl

end LineAt

/-! ## Locations -/

namespace Location

variable {p : Location}

theorem lineHead_eq (h : p.Coherent) (hj : ReturnsJoined p.source) :
    p.lineHead = Span.slice ⟨lineStart p.source p.span.start, p.span.start⟩ p.source := by
  obtain ⟨before, r, after, hat⟩ := exists_lineAt p.source p.span.start
  rw [hat.lineStart_eq, lineHead, h.before_eq, hat.takeWhile_reverse hj, List.reverse_reverse]

/-- A span that ends with a break ends its line; any other line goes on to its break. -/
theorem lineTail_eq (h : p.Coherent) (hj : ReturnsJoined p.source)
    (hb : p.span.stop ≤ p.source.length) :
    p.lineTail =
      Span.slice ⟨p.span.stop, lineStop p.source (max p.span.start (p.span.stop - 1))⟩
        p.source := by
  have hab := h.start_le
  obtain ⟨before, r, after, hat⟩ :=
    exists_lineAt p.source (max p.span.start (p.span.stop - 1))
  have hstart := hat.start_le
  have hle := stop_le_lineStop hab hb
  rw [hat.lineStop_eq] at hle ⊢
  -- a span with a character ends its line if and only if that character is a break
  have hlast (hlt : p.span.start < p.span.stop) : p.text.getLast?.any isLineBreak = true ↔
      after ≠ [] ∧ r.stop = p.span.stop := by
    have hiff := hat.startsLine_next_iff
    rw [Nat.max_eq_right (by omega), startsLine_succ_iff hj, Nat.sub_add_cancel (by omega)] at hiff
    rw [← hiff, ← getLast?_slice hlt hb, h.text_eq]
  unfold lineTail
  split
  · next hbreak =>
    have hlt : p.span.start < p.span.stop := by
      refine Nat.lt_of_not_le fun hle => ?_
      rw [h.text_eq, Span.slice, Span.length, Nat.sub_eq_zero_of_le hle, List.take_zero] at hbreak
      cases hbreak
    rw [((hlast hlt).1 hbreak).2, Span.slice, Span.length, Nat.sub_self, List.take_zero]
  · next hbreak =>
    have hne : after = [] ∨ p.span.stop < r.stop := by
      cases after with
      | nil => exact Or.inl rfl
      | cons x xs =>
        refine Or.inr (Nat.lt_of_le_of_ne hle fun he => hbreak ?_)
        have := hat.lt_stop_of_cons
        exact (hlast (by omega)).2 ⟨List.cons_ne_nil x xs, he.symm⟩
    obtain ⟨m, hbm, hslice, hrun⟩ := hat.exists_break hj (by omega) hle hne
    rw [h.rest_eq, ← slice_append_drop hbm, hrun.takeWhile_eq, hrun.dropWhile_eq, hslice]

/-- A location has the line, the column and the text that an index of the text gives. -/
theorem agrees {α : Type} {index : LineIndex α} (h : p.Coherent) (hi : index.Covers p.source)
    (hj : ReturnsJoined p.source) (hb : p.span.stop ≤ p.source.length) :
    index.caretPlace? p.span.start = some (p.lineNumber, p.column) ∧
      p.lineText = (index.charSpan (index.linesHolding p.span)).slice p.source := by
  have hab := h.start_le
  have hstart := lineStart_le p.source p.span.start
  constructor
  · rw [hi.caretPlace?_eq (by omega), lineNumber_eq_countP hj, lineNumber, h.before_eq, column,
      lineHead_eq h hj, length_slice (by omega)]
  · rw [hi.charSpan_linesHolding hab hb, lineText, lineHead_eq h hj, lineTail_eq h hj hb,
      h.text_eq]
    rw [slice_append_slice hstart hab]
    exact slice_append_slice (by omega) (stop_le_lineStop hab hb)

end Location

namespace Scan

/-- The tokens of a text lie in it, the one at its end included, and their bytes are those of their
characters. -/
theorem coherent_of_textTokens {o : ScanOptions} {ts : List ScannedToken}
    (h : textTokens o text = .ok ts) {t : ScannedToken} (ht : t ∈ ts) :
    (t.location text).Coherent ∧ t.span.stop ≤ text.length := by
  obtain ⟨us, d, hr, hd, rfl⟩ := exists_run_of_textTokens_ok h
  rcases List.mem_append.1 ht with ht | ht
  · have hmem := (List.mem_filter.1 ht).1
    exact ⟨hr.coherent hmem, (hr.position_eq hd).1 ▸ (hr.bounds hmem).2.2⟩
  · rw [List.mem_singleton.1 ht]
    exact ⟨coherent_endToken text, Nat.le_refl _⟩

/-- In a text where each return is followed by a line feed, every token of a scan, the one at the
end included, has the line and the column that the line index of the text gives for its start, and
its lines have the text of the lines that hold its span. -/
theorem locations_textTokens (α : Type) (o : ScanOptions) (text : List Char)
    (hj : ReturnsJoined text) {ts : List ScannedToken} (h : textTokens o text = .ok ts) :
    ∀ t ∈ ts,
      let p := t.location text
      let index : LineIndex α := .ofText text
      index.caretPlace? t.span.start = some (p.lineNumber, p.column) ∧
        p.lineText = (index.charSpan (index.linesHolding t.span)).slice text := by
  intro t ht
  obtain ⟨hcoherent, hb⟩ := coherent_of_textTokens h ht
  exact Location.agrees hcoherent (LineIndex.covers_ofText text) hj hb

/-- The line feed of the first line is the second character of its break. The string goes over the
end of the second line, and the break of the third is a token of its own. -/
theorem locations_textTokens_lines :
    let text := ['é', '\r', '\n', ' ', '$', '$', '\n', '$', '$', '\n']
    let index : LineIndex Nat := .ofText text
    let t : ScannedToken := ⟨⟨.string "\n", ⟨4, 9⟩⟩, ⟨5, 10⟩⟩
    let p := t.location text
    ReturnsJoined text ∧
      textTokens ⟨.empty, true, false⟩ text =
        .ok [⟨⟨.identifier "é", ⟨0, 1⟩⟩, ⟨0, 2⟩⟩, ⟨⟨.newLine, ⟨2, 3⟩⟩, ⟨3, 4⟩⟩, t,
          ⟨⟨.newLine, ⟨9, 10⟩⟩, ⟨10, 11⟩⟩, endToken 10 11] ∧
      index.caretPlace? 4 = some (p.lineNumber, p.column) ∧
      p.lineText = (index.charSpan (index.linesHolding ⟨4, 9⟩)).slice text ∧
      p.lineText = text.drop 3 := by
  intro text index t p
  have h : textTokens ⟨.empty, true, false⟩ text =
      .ok [⟨⟨.identifier "é", ⟨0, 1⟩⟩, ⟨0, 2⟩⟩, ⟨⟨.newLine, ⟨2, 3⟩⟩, ⟨3, 4⟩⟩, t,
        ⟨⟨.newLine, ⟨9, 10⟩⟩, ⟨10, 11⟩⟩, endToken 10 11] := by
    decide +kernel
  have hj : ReturnsJoined text := by decide
  obtain ⟨hplace, hlines⟩ := locations_textTokens Nat _ text hj h t (by simp)
  exact ⟨hj, h, hplace, hlines, by decide⟩

end Scan

end SqlBuffer
