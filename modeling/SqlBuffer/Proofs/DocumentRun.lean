import Mathlib.Data.List.Basic
import Mathlib.Data.Option.Basic
import SqlBuffer.Document.Edit
import SqlBuffer.Proofs.LineUpdate
import SqlBuffer.Proofs.TokenOrder

/-
  Editing a document is opening it again.
  A document is current when each line has the tokens that a scan of it gives and the token list
  has these tokens at their places in the text. An opened document is current. An edit keeps the
  lines before and after the region that it scans again: these have the same characters in the
  old and in the new text, hence the same tokens. So a document stays current whatever is done to
  it, and a current document is the one that opening its text gives.
-/

namespace SqlBuffer

/-- A line of a text with the tokens that a scan of it gives. -/
def freshLine (o : ScanOptions) (text : List Char) (r : Span) : Line (List Token) :=
  ⟨r, (Scan.lineTokens o (r.slice text)).toOption⟩

/-- The tokens of a line at their places in the text. -/
def Line.placed (line : Line (List Token)) : List Token :=
  (line.info.getD []).map (·.offset line.span.start)

/-! ## Scanning lines -/

theorem lines_scanLines (o : ScanOptions) (text : List Char) (n : Nat)
    (lines : List (Line (List Token))) :
    (scanLines o text n lines).lines = lines.map fun line => freshLine o text line.span := by
  induction lines generalizing n with
  | nil => rfl
  | cons line lines ih =>
    rw [scanLines, List.map_cons, freshLine]
    cases Scan.lineTokens o (line.span.slice text) with
    | ok ts => exact congrArg _ (ih (n + 1))
    | error e => exact congrArg _ (ih (n + 1))

theorem tokens_scanLines (o : ScanOptions) (text : List Char) (n : Nat)
    (lines : List (Line (List Token))) :
    (scanLines o text n lines).tokens = (scanLines o text n lines).lines.flatMap Line.placed := by
  induction lines generalizing n with
  | nil => rfl
  | cons line lines ih =>
    rw [scanLines]
    cases Scan.lineTokens o (line.span.slice text) with
    | ok ts => exact congrArg _ (ih (n + 1))
    | error e => exact ih (n + 1)

theorem inOrder_placed {o : ScanOptions} {text : List Char} {r : Span} (hr : r.start ≤ r.stop)
    (hl : r.stop ≤ text.length) : InOrder r.start (freshLine o text r).placed r.stop := by
  rw [Line.placed, freshLine]
  cases hs : Scan.lineTokens o (r.slice text) with
  | error e => exact hr
  | ok ts =>
    have ho := (Scan.inOrder_lineTokens hs).offset r.start
    rw [length_slice hl] at ho
    exact ho.mono (by omega) (by omega)

/-- The tokens of consecutive lines stand in the text of these lines. -/
theorem inOrder_flatMap_placed {o : ScanOptions} {text : List Char}
    {lines : List (Line (List Token))} {a b : Nat}
    (hl : ∀ line ∈ lines, freshLine o text line.span = line)
    (hc : Contiguous a (lines.map (·.span)) b) (hb : b ≤ text.length) :
    InOrder a (lines.flatMap Line.placed) b := by
  induction lines generalizing a with
  | nil => exact Nat.le_of_eq hc
  | cons line lines ih =>
    obtain ⟨rfl, hr, hc⟩ := hc
    have hle : line.span.stop ≤ b := hc.le
    have hin : InOrder line.span.start (freshLine o text line.span).placed line.span.stop :=
      inOrder_placed hr (by omega)
    rw [hl line List.mem_cons_self] at hin
    rw [List.flatMap_cons]
    exact hin.append (ih (fun line hm => hl line (List.mem_cons_of_mem _ hm)) hc)

/-! ## Indexes that are up to date -/

namespace LineIndex

/-- The lines are those of the text, each with the tokens that a scan of it gives. -/
def Fresh (index : LineIndex (List Token)) (o : ScanOptions) (text : List Char) : Prop :=
  index.lines = (lineSpans 0 text).map (freshLine o text)

namespace Fresh

variable {index : LineIndex (List Token)} {o : ScanOptions} {text : List Char}
  {line : Line (List Token)}

theorem covers (h : index.Fresh o text) : index.Covers text := by
  rw [Covers, h, List.map_map]
  exact List.map_id _

theorem freshLine_eq (h : index.Fresh o text) (hl : line ∈ index.lines) :
    freshLine o text line.span = line := by
  rw [h] at hl
  obtain ⟨r, -, rfl⟩ := List.mem_map.1 hl
  rfl

theorem bounds (h : index.Fresh o text) (hl : line ∈ index.lines) :
    line.span.start ≤ line.span.stop ∧ line.span.stop ≤ text.length :=
  (h.covers.contiguous.bounds (List.mem_map_of_mem hl)).2

theorem lineTokens_eq (h : index.Fresh o text) (hl : line ∈ index.lines) {ts : List Token}
    (hi : line.info = some ts) : Scan.lineTokens o (line.span.slice text) = .ok ts := by
  rw [← h.freshLine_eq hl, freshLine] at hi
  dsimp only at hi
  cases hs : Scan.lineTokens o (line.span.slice text) with
  | error e =>
    rw [hs] at hi
    cases hi
  | ok us =>
    rw [hs] at hi
    exact congrArg Except.ok (Option.some.inj hi)

theorem inOrder_info (h : index.Fresh o text) (hl : line ∈ index.lines) {ts : List Token}
    (hi : line.info = some ts) : InOrder 0 ts line.span.length := by
  have hin := Scan.inOrder_lineTokens (h.lineTokens_eq hl hi)
  rwa [length_slice (h.bounds hl).2] at hin

theorem inOrder_placed (h : index.Fresh o text) (hl : line ∈ index.lines) :
    InOrder line.span.start line.placed line.span.stop := by
  obtain ⟨hle, hstop⟩ := h.bounds hl
  have hin : InOrder line.span.start (freshLine o text line.span).placed line.span.stop :=
    SqlBuffer.inOrder_placed hle hstop
  rwa [h.freshLine_eq hl] at hin

end Fresh

end LineIndex

/-! ## Lines that an edit keeps -/

theorem shift_offset {t : Token} {n start : Nat} {delta : Int} (ht : t.span.start ≤ t.span.stop)
    (h : n + delta = start) (hs : t.span.start + start ≤ lastPosition) :
    (t.offset n).shift delta = t.offset start := by
  have hn : ((t.span.offset n).start : Int) + delta = ((t.span.start + start : Nat) : Int) := by
    simp only [Span.offset]
    omega
  have : (t.span.offset n).shift delta = t.span.offset start := by
    rw [Span.shift_eq hn hs]
    simp only [Span.offset, Span.length, Span.mk.injEq, true_and]
    omega
  rw [Token.shift, Token.offset, Token.offset]
  exact congrArg _ this

namespace LineIndex.Aligned

variable {index : LineIndex (List Token)} {c : Change} {r : Replacement} {a m : Nat}
  {o : ScanOptions}

theorem freshLine_take (h : Aligned index c r a m)
    (hi : index.Fresh o c.old) {line : Line (List Token)}
    (hl : line ∈ index.lines.take r.lines.start) : freshLine o c.new line.span = line := by
  rw [freshLine, h.slice_of_mem_take hi.covers hl]
  exact hi.freshLine_eq (List.mem_of_mem_take hl)

theorem freshLine_drop (h : Aligned index c r a m) (hn : Fits c.new)
    (hi : index.Fresh o c.old) {line : Line (List Token)}
    (hl : line ∈ index.lines.drop r.lines.stop) :
    freshLine o c.new (line.span.shift c.delta) =
      { line with span := line.span.shift c.delta } := by
  obtain ⟨-, -, -, -, hslice⟩ := h.exists_shift_eq hi.covers hn hl
  rw [freshLine, hslice]
  exact congrArg (Line.mk _) (congrArg Line.info (hi.freshLine_eq (List.mem_of_mem_drop hl)))

theorem placed_drop (h : Aligned index c r a m) (hn : Fits c.new)
    (hi : index.Fresh o c.old) {line : Line (List Token)}
    (hl : line ∈ index.lines.drop r.lines.stop) :
    Line.placed { line with span := line.span.shift c.delta } =
      line.placed.map (·.shift c.delta) := by
  obtain ⟨start, hs, hd, hle, -⟩ := h.exists_shift_eq hi.covers hn hl
  have hm := List.mem_of_mem_drop hl
  unfold Fits at hn
  rw [Line.placed, Line.placed, List.map_map, hs]
  apply List.map_congr_left
  intro t ht
  have hin := (hi.inOrder_placed hm).bounds (List.mem_map_of_mem ht)
  dsimp only [Token.offset, Span.offset] at hin
  refine (shift_offset (by omega) hd ?_).symm
  unfold Span.length at hle
  unfold lastPosition
  omega

/-- With the lines of the region scanned again, the updated index is up to date. -/
theorem lines_eq (h : Aligned index c (index.replacement c.new c.edited c.delta) a m)
    (ho : Fits c.old) (hn : Fits c.new)
    (hi : index.Fresh o c.old) :
    index.lines.take (index.replacement c.new c.edited c.delta).lines.start ++
        (index.newLines c.new (index.replacement c.new c.edited c.delta)).map
          (fun line => freshLine o c.new line.span) ++
        (index.lines.drop (index.replacement c.new c.edited c.delta).lines.stop).map
          (fun line => { line with span := line.span.shift c.delta }) =
      (lineSpans 0 c.new).map (freshLine o c.new) := by
  have hc := covers_update hi.covers ho hn
  rw [Covers, update] at hc
  generalize index.replacement c.new c.edited c.delta = r at *
  have hx : (index.lines.take r.lines.start).map (fun line => freshLine o c.new line.span) =
      index.lines.take r.lines.start := by
    conv => rhs; rw [← List.map_id (index.lines.take r.lines.start)]
    exact List.map_congr_left fun line hl => h.freshLine_take hi hl
  have hz : ((index.lines.drop r.lines.stop).map
        fun line => { line with span := line.span.shift c.delta }).map
        (fun line => freshLine o c.new line.span) =
      (index.lines.drop r.lines.stop).map
        fun line => { line with span := line.span.shift c.delta } := by
    rw [List.map_map]
    exact List.map_congr_left fun line hl => h.freshLine_drop hn hi hl
  rw [← hc, List.map_map]
  show _ = List.map (fun line : Line (List Token) => freshLine o c.new line.span) _
  rw [List.map_append, List.map_append, hx, hz]

/-- The tokens of the lines before the region, of those to replace and of those behind it lie
before, in and after the old text of the region. -/
theorem placed_parts (h : Aligned index c r a m) (hi : index.Fresh o c.old) :
    InOrder 0 ((index.lines.take r.lines.start).flatMap Line.placed) a ∧
      InOrder a ((r.lines.slice index.lines).flatMap Line.placed)
        (c.before.length + c.removed.length + m) ∧
      ∀ t ∈ (index.lines.drop r.lines.stop).flatMap Line.placed,
        c.before.length + c.removed.length + m ≤ t.span.start := by
  have hc := hi.covers
  have hlo := c.length_old
  have hm := h.le_after
  refine ⟨?_, ?_, ?_⟩
  · exact inOrder_flatMap_placed (fun line hl => hi.freshLine_eq (List.mem_of_mem_take hl))
      (h.contiguous_take hc) (startsLine_le h.startsLine_old)
  · exact inOrder_flatMap_placed
      (fun line hl => hi.freshLine_eq (List.mem_of_mem_drop (List.mem_of_mem_take hl)))
      (h.contiguous_lines hc) (by omega)
  · intro t ht
    obtain ⟨line, hl, ht⟩ := List.mem_flatMap.1 ht
    have hin := (hi.inOrder_placed (List.mem_of_mem_drop hl)).bounds ht
    exact Nat.le_trans (h.start_of_mem_drop hc hl).1 hin.1

theorem flatMap_placed_drop (h : Aligned index c r a m) (hn : Fits c.new)
    (hi : index.Fresh o c.old) :
    ((index.lines.drop r.lines.stop).map fun line =>
        { line with span := line.span.shift c.delta }).flatMap Line.placed =
      ((index.lines.drop r.lines.stop).flatMap Line.placed).map (·.shift c.delta) := by
  rw [List.map_flatMap, List.flatMap_map]
  exact List.flatMap_congr fun line hl => h.placed_drop hn hi hl

/-- The tokens of the lines that stay are spliced with those of the region. -/
theorem splice_eq (h : Aligned index c r a m) (hn : Fits c.new)
    (hi : index.Fresh o c.old) (us : List Token) :
    (TokenList.splice ⟨index.lines.flatMap Line.placed⟩ (index.charSpan r.lines) c.delta
        us).toList =
      (index.lines.take r.lines.start).flatMap Line.placed ++ us ++
        ((index.lines.drop r.lines.stop).map fun line =>
          { line with span := line.span.shift c.delta }).flatMap Line.placed := by
  have hsplit := h.split_lines hi.covers
  obtain ⟨hx, hy, hz⟩ := h.placed_parts hi
  conv => lhs; rw [h.charSpan_lines hi.covers, hsplit, List.flatMap_append, List.flatMap_append]
  rw [TokenList.splice_append _ hy.le (fun t ht => by have := hx.bounds ht; omega)
    (fun t ht => by have := hy.bounds ht; omega) hz, h.flatMap_placed_drop hn hi]

end LineIndex.Aligned

namespace Document

/-- Every line has the tokens that a scan of it gives, and the token list has those of all
lines. -/
structure Current (d : Document) : Prop where
  fresh : d.index.Fresh d.options d.text
  tokens : d.tokens.toList = d.index.lines.flatMap Line.placed

theorem Current.inOrder {d : Document} (h : d.Current) :
    InOrder 0 d.tokens.toList d.text.length := by
  rw [h.tokens]
  exact inOrder_flatMap_placed (fun line hl => h.fresh.freshLine_eq hl) h.fresh.covers.contiguous
    (Nat.le_refl _)

theorem lines_scan (d : Document) (lines : Span) :
    (d.scan lines).1.index.lines = d.index.lines.take lines.start ++
      (lines.slice d.index.lines).map (fun line => freshLine d.options d.text line.span) ++
      d.index.lines.drop lines.stop := by
  rw [← lines_scanLines d.options d.text lines.start]
  rfl

theorem tokens_scan (d : Document) (lines : Span) :
    (d.scan lines).2.tokens = ((lines.slice d.index.lines).map
      fun line => freshLine d.options d.text line.span).flatMap Line.placed := by
  rw [← lines_scanLines d.options d.text lines.start, ← tokens_scanLines]
  rfl

theorem slice_zero_length {α : Type} (xs : List α) : Span.slice ⟨0, xs.length⟩ xs = xs := by
  rw [Span.slice, Span.length, List.drop_zero, Nat.sub_zero, List.take_length]

theorem current_openText (language : Language) (options : ScanOptions) (text : List Char) :
    (openText language options text).Current := by
  let d : Document := { text, index := .ofText text, tokens := .empty, language, options }
  have hall : Span.slice ⟨0, d.index.size⟩ d.index.lines = d.index.lines := slice_zero_length _
  have hfresh : d.index.lines.map (fun line => freshLine options text line.span) =
      (lineSpans 0 text).map (freshLine options text) :=
    List.map_map
  have hlines : (openText language options text).index.lines =
      (lineSpans 0 text).map (freshLine options text) := by
    have := lines_scan d ⟨0, d.index.size⟩
    rw [hall, List.take_zero, List.nil_append, LineIndex.size, List.drop_length, List.append_nil,
      hfresh] at this
    exact this
  refine ⟨hlines, ?_⟩
  have := tokens_scan d ⟨0, d.index.size⟩
  rw [hall, hfresh] at this
  rw [hlines]
  exact this

/-- A current document has the lines and tokens that opening its text gives. -/
theorem Current.eq_openText {d : Document} (h : d.Current) (language : Language) :
    d.index = (openText language d.options d.text).index ∧
      d.tokens = (openText language d.options d.text).tokens := by
  have ho := current_openText language d.options d.text
  have hl : d.index.lines = (openText language d.options d.text).index.lines :=
    h.fresh.trans ho.fresh.symm
  have ht : d.tokens.toList = (openText language d.options d.text).tokens.toList := by
    rw [h.tokens, ho.tokens, hl]
  exact ⟨congrArg LineIndex.mk hl, congrArg TokenList.mk ht⟩

/-! ## One edit -/

/-- The span that an edit replaces: the one asked for within the text, or the bracket pair that
goes with it. -/
def applied (d : Document) (r : Span) (replacement : List Char) : Span :=
  (d.index.pairDeletion? d.language d.length (d.clamp r) replacement).getD (d.clamp r)

/-- The change of the text that an edit makes. -/
def change (d : Document) (r : Span) (replacement : List Char) : Change where
  before := d.text.take (d.applied r replacement).start
  removed := (d.applied r replacement).slice d.text
  inserted := replacement
  after := d.text.drop (d.applied r replacement).stop

theorem pairDeletion?_bounds {index : LineIndex (List Token)} {language : Language} {n : Nat}
    {r s : Span} {replacement : List Char}
    (h : index.pairDeletion? language n r replacement = some s) :
    s = ⟨r.start, r.start + 2⟩ ∧ r.start + 2 ≤ n := by
  simp only [LineIndex.pairDeletion?, Option.bind_eq_bind, Option.bind_eq_some_iff,
    Option.guard_eq_some', Option.pure_def] at h
  obtain ⟨-, -, -, -, -, -, -, -, -, hlt, -, -, -, -, -, -, -, -, -, -, hs⟩ := h
  cases hs
  exact ⟨rfl, hlt⟩

theorem applied_bounds (d : Document) (r : Span) (replacement : List Char) :
    (d.applied r replacement).start ≤ (d.applied r replacement).stop ∧
      (d.applied r replacement).stop ≤ d.text.length := by
  unfold applied
  cases h : d.index.pairDeletion? d.language d.length (d.clamp r) replacement with
  | some s =>
    obtain ⟨rfl, hs⟩ := pairDeletion?_bounds h
    exact ⟨Nat.le_add_right _ _, hs⟩
  | none =>
    simp only [Option.getD_none, clamp, length]
    omega

variable (d : Document) (r : Span) (replacement : List Char)

theorem old_change : (d.change r replacement).old = d.text := by
  obtain ⟨hle, -⟩ := d.applied_bounds r replacement
  rw [change, Change.old]
  dsimp only
  rw [List.append_assoc, slice_append_drop hle, List.take_append_drop]

theorem edited_change : (d.change r replacement).edited =
    ⟨(d.applied r replacement).start, (d.applied r replacement).start + replacement.length⟩ := by
  obtain ⟨hle, hs⟩ := d.applied_bounds r replacement
  rw [change, Change.edited]
  dsimp only
  rw [List.length_take, Nat.min_eq_left (by omega)]

theorem delta_change : (d.change r replacement).delta =
    replacement.length - (d.applied r replacement).length := by
  obtain ⟨hle, hs⟩ := d.applied_bounds r replacement
  rw [change, Change.delta]
  dsimp only
  rw [length_slice hs, Span.length]

/-- The document between the update of its index and the scan of the new lines. -/
def unscanned : Document :=
  { d with
    text := (d.change r replacement).new
    index := (d.index.update (d.change r replacement).new (d.change r replacement).edited
      (d.change r replacement).delta).1
    revision := d.revision + 1 }

/-- The lines that an edit scans. -/
def replaced : Span :=
  (d.index.update (d.change r replacement).new (d.change r replacement).edited
    (d.change r replacement).delta).2

/-- What an edit replaces in the line index. -/
def replacementOf : LineIndex.Replacement :=
  d.index.replacement (d.change r replacement).new (d.change r replacement).edited
    (d.change r replacement).delta

theorem edit_eq : (d.edit r replacement).1 =
    { ((d.unscanned r replacement).scan (d.replaced r replacement)).1 with
      tokens := d.tokens.splice (d.index.charSpan (d.replacementOf r replacement).lines)
        (d.change r replacement).delta
        ((d.unscanned r replacement).scan (d.replaced r replacement)).2.tokens } := by
  unfold unscanned replaced replacementOf
  rw [edited_change, delta_change]
  rfl

@[simp] theorem text_edit : (d.edit r replacement).1.text = (d.change r replacement).new := by
  rw [edit_eq]
  rfl

@[simp] theorem options_edit : (d.edit r replacement).1.options = d.options := by
  rw [edit_eq]
  rfl

@[simp] theorem language_edit : (d.edit r replacement).1.language = d.language := by
  rw [edit_eq]
  rfl

@[simp] theorem revision_edit : (d.edit r replacement).1.revision = d.revision + 1 := by
  rw [edit_eq]
  rfl

theorem scan_append {d : Document} {xs ys zs : List (Line (List Token))}
    (h : d.index.lines = xs ++ ys ++ zs) :
    (d.scan ⟨xs.length, xs.length + ys.length⟩).1.index.lines =
        xs ++ ys.map (fun line => freshLine d.options d.text line.span) ++ zs ∧
      (d.scan ⟨xs.length, xs.length + ys.length⟩).2.tokens =
        (ys.map fun line => freshLine d.options d.text line.span).flatMap Line.placed := by
  rw [lines_scan, tokens_scan, h, slice_append_append]
  refine ⟨?_, rfl⟩
  dsimp only
  rw [← List.length_append, List.drop_left, List.append_assoc xs ys, List.take_left]

/-- The lines before those that an edit replaces. -/
def linesBefore : List (Line (List Token)) :=
  d.index.lines.take (d.replacementOf r replacement).lines.start

/-- The lines that an edit puts in, with their tokens. -/
def linesScanned : List (Line (List Token)) :=
  (d.index.newLines (d.change r replacement).new (d.replacementOf r replacement)).map
    fun line => freshLine d.options (d.change r replacement).new line.span

/-- The lines behind those that an edit replaces, where the edit moves them. -/
def linesMoved : List (Line (List Token)) :=
  (d.index.lines.drop (d.replacementOf r replacement).lines.stop).map
    fun line => { line with span := line.span.shift (d.change r replacement).delta }

theorem lines_unscanned : (d.unscanned r replacement).index.lines =
    d.linesBefore r replacement ++
      d.index.newLines (d.change r replacement).new (d.replacementOf r replacement) ++
      d.linesMoved r replacement := rfl

variable {d r replacement}

/-- What an edit of a current document replaces is aligned with both texts. -/
theorem Current.exists_aligned (h : d.Current) (ho : Fits d.text)
    (hn : Fits (d.edit r replacement).1.text) :
    ∃ a m, d.index.Fresh d.options (d.change r replacement).old ∧
      LineIndex.Aligned d.index (d.change r replacement) (d.replacementOf r replacement) a m := by
  have hold := d.old_change r replacement
  have hi : d.index.Fresh d.options (d.change r replacement).old := by
    rw [hold]
    exact h.fresh
  rw [text_edit] at hn
  rw [← hold] at ho
  obtain ⟨a, m, hal⟩ := LineIndex.exists_aligned hi.covers ho hn
  exact ⟨a, m, hi, hal⟩

section Parts

variable {a m : Nat} (hi : d.index.Fresh d.options (d.change r replacement).old)
  (hal : LineIndex.Aligned d.index (d.change r replacement) (d.replacementOf r replacement) a m)
include hi hal

theorem length_linesBefore :
    (d.linesBefore r replacement).length = (d.replacementOf r replacement).lines.start :=
  hal.length_take hi.covers

theorem replaced_eq : d.replaced r replacement = ⟨(d.linesBefore r replacement).length,
    (d.linesBefore r replacement).length + (d.linesScanned r replacement).length⟩ := by
  rw [length_linesBefore hi hal, linesScanned, List.length_map]
  rfl

/-- The scan gives the new lines their tokens and leaves the others as they are. -/
theorem scan_unscanned :
    ((d.unscanned r replacement).scan (d.replaced r replacement)).1.index.lines =
        d.linesBefore r replacement ++ d.linesScanned r replacement ++
          d.linesMoved r replacement ∧
      ((d.unscanned r replacement).scan (d.replaced r replacement)).2.tokens =
        (d.linesScanned r replacement).flatMap Line.placed := by
  have hscan := scan_append (d.lines_unscanned r replacement)
  rw [length_linesBefore hi hal] at hscan
  exact hscan

theorem lines_edit : (d.edit r replacement).1.index.lines =
    d.linesBefore r replacement ++ d.linesScanned r replacement ++ d.linesMoved r replacement := by
  rw [edit_eq]
  exact (scan_unscanned hi hal).1

theorem tokens_edit (h : d.Current) (hn : Fits (d.change r replacement).new) :
    (d.edit r replacement).1.tokens.toList =
      (d.linesBefore r replacement).flatMap Line.placed ++
        (d.linesScanned r replacement).flatMap Line.placed ++
        (d.linesMoved r replacement).flatMap Line.placed := by
  have htokens : d.tokens = ⟨d.index.lines.flatMap Line.placed⟩ := congrArg TokenList.mk h.tokens
  rw [edit_eq, htokens]
  dsimp only
  rw [(scan_unscanned hi hal).2]
  exact hal.splice_eq hn hi _

end Parts

theorem Current.edit (h : d.Current) (ho : Fits d.text)
    (hn : Fits (d.edit r replacement).1.text) : (d.edit r replacement).1.Current := by
  obtain ⟨a, m, hi, hal⟩ := h.exists_aligned ho hn
  rw [← d.old_change r replacement] at ho
  rw [text_edit] at hn
  refine ⟨?_, ?_⟩
  · rw [LineIndex.Fresh, lines_edit hi hal, options_edit, text_edit]
    exact hal.lines_eq ho hn hi
  · rw [tokens_edit hi hal h hn, lines_edit hi hal, List.flatMap_append, List.flatMap_append]

/-! ## Scanning again what is up to date -/

/-- To scan lines of a current document changes nothing. -/
theorem Current.scan_eq {d : Document} (h : d.Current) {a b : Nat} (hab : a ≤ b) :
    (d.scan ⟨a, b⟩).1 = d := by
  have hl : (d.scan ⟨a, b⟩).1.index.lines = d.index.lines := by
    rw [lines_scan]
    have hself : (Span.slice ⟨a, b⟩ d.index.lines).map
        (fun line => freshLine d.options d.text line.span) = Span.slice ⟨a, b⟩ d.index.lines := by
      conv => rhs; rw [← List.map_id (Span.slice ⟨a, b⟩ d.index.lines)]
      exact List.map_congr_left fun line hm =>
        h.fresh.freshLine_eq (List.mem_of_mem_drop (List.mem_of_mem_take hm))
    rw [hself, List.append_assoc, slice_append_drop hab, List.take_append_drop]
  have hi : (d.scan ⟨a, b⟩).1.index = d.index := congrArg LineIndex.mk hl
  calc (d.scan ⟨a, b⟩).1 = { d with index := (d.scan ⟨a, b⟩).1.index } := rfl
    _ = d := by rw [hi]

theorem Current.failed_ne_nil {d : Document} (h : d.Current) {n : Nat} (hn : n ∈ d.pendingLines) :
    (d.scan ⟨n, n + 1⟩).2.failed ≠ [] := by
  simp only [pendingLines, List.mem_filter, List.mem_range, LineIndex.size, LineIndex.info?,
    LineIndex.line?] at hn
  obtain ⟨hlt, hnone⟩ := hn
  have hslice : Span.slice ⟨n, n + 1⟩ d.index.lines = [d.index.lines[n]] := by
    rw [slice_succ, List.getElem?_eq_getElem hlt, Option.toList_some]
  have hfresh := h.fresh.freshLine_eq (List.getElem_mem hlt)
  rw [List.getElem?_eq_getElem hlt, Option.bind_some, ← hfresh, freshLine] at hnone
  rw [scan, hslice, scanLines]
  cases hs : Scan.lineTokens d.options (d.index.lines[n].span.slice d.text) with
  | ok ts =>
    rw [hs] at hnone
    cases hnone
  | error e => exact List.cons_ne_nil _ _

theorem Current.retryLine_eq {d : Document} (h : d.Current) {n : Nat} (hn : n ∈ d.pendingLines) :
    (d.retryLine n).1 = d := by
  have hf : (d.scan ⟨n, n + 1⟩).2.failed.isEmpty = false := by
    rw [List.isEmpty_eq_false_iff]
    exact h.failed_ne_nil hn
  simp only [retryLine, hf, Bool.false_eq_true, if_false, h.scan_eq (Nat.le_succ n)]

/-- Each line without tokens is scanned again by itself, and none of these scans changes a current
document. -/
theorem Current.retryPending_eq_flatMap {d : Document} (h : d.Current) :
    d.retryPending = (d, d.pendingLines.flatMap fun n => (d.retryLine n).2) := by
  have key (ns : List Nat) (hns : ∀ n ∈ ns, n ∈ d.pendingLines) (failed : FailedLines) :
      ns.foldl (fun (s : Document × FailedLines) n =>
        ((s.1.retryLine n).1, s.2 ++ (s.1.retryLine n).2)) (d, failed) =
      (d, failed ++ ns.flatMap fun n => (d.retryLine n).2) := by
    induction ns generalizing failed with
    | nil => rw [List.foldl_nil, List.flatMap_nil, List.append_nil]
    | cons n ns ih =>
      rw [List.foldl_cons, List.flatMap_cons, ← List.append_assoc]
      dsimp only
      rw [h.retryLine_eq (hns n List.mem_cons_self)]
      exact ih (fun m hm => hns m (List.mem_cons_of_mem _ hm)) _
  exact key d.pendingLines (fun _ hn => hn) []

theorem Current.retryPending_eq {d : Document} (h : d.Current) : d.retryPending.1 = d :=
  congrArg Prod.fst h.retryPending_eq_flatMap

end Document

/-! ## Runs -/

/-- What can be done to a document. -/
inductive Operation where
  | edit (r : Span) (replacement : List Char)
  | insert (i : Nat) (text : List Char)
  | delete (r : Span)
  | retryPending

/-- The span that an operation replaces and the text that it puts there. -/
def Operation.edit? : Operation → Option (Span × List Char)
  | edit r replacement => some (r, replacement)
  | insert i text => some (⟨i, i⟩, text)
  | delete r => some (r, [])
  | retryPending => none

def Operation.isEdit (op : Operation) : Bool :=
  op.edit?.isSome

namespace Document

def perform (d : Document) : Operation → Document
  | .edit r replacement => (d.edit r replacement).1
  | .insert i text => (d.insert i text).1
  | .delete r => (d.delete r).1
  | .retryPending => d.retryPending.1

def run (d : Document) (ops : List Operation) : Document :=
  ops.foldl perform d

/-- Every text of a run has fewer characters than half of the positions, as a text in memory
has. -/
def FitsThrough (d : Document) : List Operation → Prop
  | [] => Fits d.text
  | op :: ops => Fits d.text ∧ (d.perform op).FitsThrough ops

instance : (d : Document) → (ops : List Operation) → Decidable (d.FitsThrough ops)
  | d, [] => inferInstanceAs (Decidable (Fits d.text))
  | d, op :: ops =>
    have := instDecidableFitsThrough (d.perform op) ops
    inferInstanceAs (Decidable (Fits d.text ∧ (d.perform op).FitsThrough ops))

theorem FitsThrough.fits {d : Document} {ops : List Operation} (h : d.FitsThrough ops) :
    Fits d.text := by
  cases ops with
  | nil => exact h
  | cons op ops => exact h.1

/-- The text that an operation makes of a text just opened. -/
def rewrite (language : Language) (options : ScanOptions) (text : List Char) (op : Operation) :
    List Char :=
  match op.edit? with
  | some (r, replacement) => ((openText language options text).change r replacement).new
  | none => text

/-- An operation is an edit, or it leaves a current document as it is. -/
theorem Current.perform_eq {d : Document} (h : d.Current) (op : Operation) :
    d.perform op = match op.edit? with
      | some (r, replacement) => (d.edit r replacement).1
      | none => d := by
  cases op with
  | edit r replacement => rfl
  | insert i text => rfl
  | delete r => rfl
  | retryPending => exact h.retryPending_eq

theorem Current.change_eq {d : Document} (h : d.Current) (r : Span) (replacement : List Char) :
    d.change r replacement = (openText d.language d.options d.text).change r replacement := by
  have happlied : d.applied r replacement =
      (openText d.language d.options d.text).applied r replacement := by
    rw [applied, (h.eq_openText d.language).1]
    rfl
  rw [change, change, happlied]
  rfl

theorem Current.perform {d : Document} (h : d.Current) {op : Operation} (ho : Fits d.text)
    (hn : Fits (d.perform op).text) :
    (d.perform op).Current ∧ (d.perform op).language = d.language ∧
      (d.perform op).options = d.options ∧
      (d.perform op).text = rewrite d.language d.options d.text op ∧
      (d.perform op).revision = d.revision + if op.isEdit then 1 else 0 := by
  rw [h.perform_eq] at hn ⊢
  unfold rewrite Operation.isEdit
  cases hop : op.edit? with
  | none => exact ⟨h, rfl, rfl, rfl, rfl⟩
  | some e =>
    obtain ⟨r, replacement⟩ := e
    simp only [hop] at hn
    refine ⟨h.edit ho hn, language_edit .., options_edit .., ?_, revision_edit ..⟩
    rw [text_edit, h.change_eq]

theorem Current.run {d : Document} (h : d.Current) {ops : List Operation}
    (hf : d.FitsThrough ops) :
    (d.run ops).Current ∧ (d.run ops).language = d.language ∧ (d.run ops).options = d.options ∧
      (d.run ops).text = ops.foldl (rewrite d.language d.options) d.text ∧
      (d.run ops).revision = d.revision + ops.countP Operation.isEdit ∧ Fits (d.run ops).text := by
  induction ops generalizing d with
  | nil => exact ⟨h, rfl, rfl, rfl, rfl, hf⟩
  | cons op ops ih =>
    obtain ⟨hcur, hlang, hopts, htext, hrev⟩ := h.perform hf.1 hf.2.fits
    obtain ⟨hc, hl, ho, ht, hr, hfits⟩ := ih hcur hf.2
    rw [hlang, hopts, htext] at ht
    rw [hlang] at hl
    rw [hopts] at ho
    rw [hrev] at hr
    refine ⟨hc, hl, ho, ht, hr.trans ?_, hfits⟩
    rw [List.countP_cons]
    omega

/-- A document after any operations has the lines, the tokens of each line and the token list of
its text just opened, and it counts its edits. Its text is the one that the same operations make
when the document is opened again after each of them. -/
theorem run_openText (language : Language) (options : ScanOptions) (text : List Char)
    (ops : List Operation) (h : (openText language options text).FitsThrough ops) :
    let d := (openText language options text).run ops
    d.index = (openText language options d.text).index ∧
      d.tokens = (openText language options d.text).tokens ∧
      d.text = ops.foldl (rewrite language options) text ∧
      d.revision = ops.countP Operation.isEdit := by
  obtain ⟨hc, -, ho, ht, hr, -⟩ := (current_openText language options text).run h
  have heq := hc.eq_openText language
  rw [ho] at heq
  refine ⟨heq.1, heq.2, ht, hr.trans ?_⟩
  exact Nat.zero_add _

/-- The run puts a line feed after a return, deletes a pair of brackets by the opening one, and
tries again the last line, which no rule accepts. -/
theorem run_openText_pair :
    let d := (openText .sql ⟨.empty, true, false⟩ ['(', ')', '\r', '€']).run
      [.insert 3 ['\n'], .delete ⟨0, 1⟩, .retryPending]
    d.text = ['\r', '\n', '€'] ∧ d.pendingLines = [1] ∧
      d.index = (openText .sql ⟨.empty, true, false⟩ d.text).index ∧
      d.tokens = (openText .sql ⟨.empty, true, false⟩ d.text).tokens ∧ d.revision = 2 := by
  have h := run_openText .sql ⟨.empty, true, false⟩ ['(', ')', '\r', '€']
    [.insert 3 ['\n'], .delete ⟨0, 1⟩, .retryPending] (by decide +kernel)
  exact ⟨by decide +kernel, by decide +kernel, h.1, h.2.1, h.2.2.2⟩

end Document

end SqlBuffer
