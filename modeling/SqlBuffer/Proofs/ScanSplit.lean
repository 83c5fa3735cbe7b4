import Mathlib.Data.List.Basic
import SqlBuffer.Proofs.LineLookup
import SqlBuffer.Proofs.RuleCut
import SqlBuffer.Proofs.Tiling

/-
  Splitting a text between tokens.
  A run over `x ++ y` that has no token across the seam is a run over `x` and one over `y`: a rule
  that ends in `x` reads the same without `y`, and what was read before `y` does not matter to the
  rules behind it. So a text can be scanned in parts, down to the text of a single token.
-/

namespace SqlBuffer

/-- The token with its characters and its bytes moved right. -/
def ScannedToken.offset (t : ScannedToken) (n m : Nat) : ScannedToken :=
  ⟨t.toToken.offset n, t.bytes.offset m⟩

namespace Cursor

variable {c : Cursor} {ch : Char} {cs : List Char}

/-- The same place before another text. -/
def before (c : Cursor) (text : List Char) : Cursor :=
  { c with rest := text }

/-- The same place further right. -/
def offset (c : Cursor) (n m : Nat) : Cursor :=
  ⟨c.position + n, c.bytes + m, c.rest⟩

theorem advance_before (h : c.rest = ch :: cs) (text : List Char) :
    (c.before (ch :: text)).advance = c.advance.before text := by
  rw [advance, advance, h]
  rfl

theorem advance_offset (h : c.rest = ch :: cs) (n m : Nat) :
    (c.offset n m).advance = c.advance.offset n m := by
  rw [advance, advance, offset, h]
  simp only [offset, mk.injEq, and_true]
  omega

theorem after_offset (c : Cursor) (l : Lexeme) (n m : Nat) :
    (c.offset n m).after l = (c.after l).offset n m := by
  simp only [after, offset, mk.injEq, and_true]
  omega

theorem token_offset (c : Cursor) (l : Lexeme) (n m : Nat) :
    (c.offset n m).token l = (c.token l).offset n m := by
  rw [token, after_offset]
  rfl

end Cursor

namespace Scan

variable {k : Keywords} {o : ScanOptions} {c d : Cursor} {ts : List ScannedToken}

/-- A run falls into two at a place on its way that no token goes across. -/
theorem Run.exists_split (h : Run k c ts d) {x y : List Char} (hc : c.rest = x ++ y)
    (hle : (c.past x).position ≤ d.position)
    (hcut : ∀ t ∈ ts, ¬ (t.span.start < (c.past x).position ∧
      (c.past x).position < t.span.stop)) :
    ∃ us vs, ts = us ++ vs ∧ Run k (c.before x) us ((c.before x).past x) ∧
      Run k (c.past x) vs d := by
  have hnil {c : Cursor} {ts : List ScannedToken} (h : Run k c ts d) :
      ∃ us vs, ts = us ++ vs ∧ Run k (c.before []) us ((c.before []).past []) ∧
        Run k (c.past []) vs d :=
    ⟨[], ts, rfl, .stop _, h⟩
  induction h generalizing x with
  | stop c =>
    obtain rfl : x = [] := List.eq_nil_of_length_eq_zero (by dsimp only [Cursor.past] at hle; omega)
    exact hnil (.stop c)
  | @blank c d rest ts hs hr ih =>
    by_cases hx : x = []
    · subst hx
      exact hnil (.blank hs hr)
    rw [hc] at hs
    obtain ⟨b, front, rfl, hrest, hb⟩ := step_blank_of_append hs hx
    have hbefore := Cursor.advance_before hc front
    have hpast : (c.before (b :: front)).past (b :: front) =
        (c.advance.before front).past front := by
      rw [← hbefore, Cursor.past_advance rfl]
    rw [← Cursor.past_advance hc] at hle hcut ⊢
    obtain ⟨us, vs, rfl, hu, hv⟩ := ih (Cursor.rest_advance hc) hle hcut hnil
    rw [← hbefore] at hu
    rw [hpast]
    exact ⟨us, vs, rfl, .blank hb (hbefore ▸ hu), hv⟩
  | @lexeme c d l ts hs hr ih =>
    by_cases hx : x = []
    · subst hx
      exact hnil (.lexeme hs hr)
    -- the first token starts before the seam, and so it ends there at the latest
    have hpos := List.length_pos_iff.2 hx
    have hfirst : l.text.length ≤ x.length := by
      have := hcut _ List.mem_cons_self
      dsimp only [Cursor.token, Cursor.tokenTo, Cursor.after, Cursor.past] at this
      omega
    have hafter := Cursor.after_eq_past (reads_step hs)
    rw [hc] at hs
    obtain ⟨m, hm, rfl⟩ := step_of_append hs hfirst
    have hx := (reads_step hm).append
    have hpast : c.past x = (c.after (m.followedBy y)).past m.rest := by
      rw [hafter, Cursor.past_past, ← hx]
      rfl
    have hbefore : (c.before x).past x = ((c.before x).after m).past m.rest := by
      rw [Cursor.after_eq_past (reads_step hm), Cursor.past_past, hx]
    rw [hpast] at hle hcut ⊢
    rw [hbefore]
    obtain ⟨us, vs, rfl, hu, hv⟩ :=
      ih rfl hle (fun t ht => hcut t (List.mem_cons_of_mem _ ht)) hnil
    exact ⟨(c.before x).token m :: us, vs, rfl, .lexeme hm hu, hv⟩

theorem Run.exists_cut (h : Run k c ts d) (hd : d.rest = []) {x y : List Char}
    (hc : c.rest = x ++ y)
    (hcut : ∀ t ∈ ts, ¬ (t.span.start < (c.past x).position ∧
      (c.past x).position < t.span.stop)) :
    ∃ us vs, ts = us ++ vs ∧ Run k (c.before x) us ((c.before x).past x) ∧
      Run k (c.past x) vs d := by
  obtain ⟨read, hread, hpos, -⟩ := h.exists_read
  have hlen : read.length = x.length + y.length := by
    rw [← List.length_append, ← hc, hread, hd, List.append_nil]
  refine h.exists_split hc ?_ hcut
  dsimp only [Cursor.past]
  omega

/-- What a run has read is read by itself with the same tokens: no rule looked at what follows in a
way that mattered. -/
theorem Run.front (h : Run k c ts d) {x : List Char} (hc : c.rest = x ++ d.rest) :
    Run k (c.before x) ts (d.before []) := by
  obtain ⟨read, hread, hpos, hbytes⟩ := h.exists_read
  obtain rfl : read = x := List.append_cancel_right (hread.symm.trans hc)
  have hend : (c.before read).past read = d.before [] := by
    rw [Cursor.past, Cursor.before, Cursor.before, hpos, hbytes, List.drop_length]
  have hcut : ∀ t ∈ ts, ¬ (t.span.start < (c.past read).position ∧
      (c.past read).position < t.span.stop) := by
    intro t ht
    have := (h.bounds ht).2.2
    dsimp only [Cursor.past]
    omega
  obtain ⟨us, vs, rfl, hu, hv⟩ := h.exists_split hc (Nat.le_of_eq hpos.symm) hcut
  -- behind the front there is no room for a token
  have hvs : vs = [] := by
    refine List.eq_nil_iff_forall_not_mem.2 fun t ht => ?_
    have hb := hv.bounds ht
    dsimp only [Cursor.past] at hb
    omega
  rw [hvs, List.append_nil, ← hend]
  exact hu

theorem Run.exists_offset {n m : Nat} (h : Run k (c.offset n m) ts d) :
    ∃ us e, ts = us.map (·.offset n m) ∧ d = e.offset n m ∧ Run k c us e := by
  generalize hc : c.offset n m = c' at h
  induction h generalizing c with
  | stop c' => exact ⟨[], c, rfl, hc.symm, .stop c⟩
  | @blank c' d rest ts hs _ ih =>
    subst hc
    obtain ⟨b, -, hb⟩ := step_blank hs
    obtain ⟨us, e, rfl, rfl, hr⟩ := ih (Cursor.advance_offset (c := c) hb n m).symm
    exact ⟨us, e, rfl, rfl, .blank hs hr⟩
  | @lexeme c' d l ts hs _ ih =>
    subst hc
    obtain ⟨us, e, rfl, rfl, hr⟩ := ih (c.after_offset l n m).symm
    refine ⟨c.token l :: us, e, ?_, rfl, .lexeme hs hr⟩
    rw [c.token_offset, List.map_cons]

theorem step_text {cs : List Char} {l : Lexeme} (h : step k cs = .lexeme l) :
    step k l.text = .lexeme ⟨l.kind, l.text, []⟩ := by
  rw [← (reads_step h).append] at h
  obtain ⟨m, hm, hl⟩ := step_of_append h (Nat.le_refl _)
  have hkind : m.kind = l.kind := (congrArg Lexeme.kind hl).symm
  have htext : m.text = l.text := (congrArg Lexeme.text hl).symm
  have hrest : m.rest = [] := List.self_eq_append_left.1 (congrArg Lexeme.rest hl)
  rw [hm, ← hkind, ← htext, ← hrest]

theorem textTokens_of_step {cs : List Char} {kind : TokenKind}
    (h : step k cs = .lexeme ⟨kind, cs, []⟩) :
    textTokens ⟨k, true, true⟩ cs = .ok [⟨⟨kind, ⟨0, cs.length⟩⟩, ⟨0, utf8Length cs⟩⟩,
      endToken cs.length (utf8Length cs)] := by
  have hrun : Run k (.start cs) _ _ := .lexeme h (.stop _)
  obtain ⟨hposition, hbytes⟩ := hrun.position_eq rfl
  rw [Run.textTokens_eq (o := ⟨k, true, true⟩) hrun rfl, kept_all, Cursor.token, Cursor.tokenTo,
    hposition, hbytes]
  rfl

theorem Run.textTokens_slice {text : List Char} (h : Run k (.start text) ts d) {t : ScannedToken}
    (ht : t ∈ ts) :
    textTokens ⟨k, true, true⟩ (t.span.slice text) =
      .ok [⟨⟨t.kind, ⟨0, t.span.length⟩⟩, ⟨0, t.bytes.length⟩⟩,
        endToken t.span.length t.bytes.length] := by
  have htiles := h.tiles
  have hcoherent := h.coherent ht
  have hlen : (t.span.slice text).length = t.span.length :=
    length_slice (Nat.le_trans (htiles.ne_empty t ht).2 htiles.le_length)
  have hbytes : utf8Length (t.span.slice text) = t.bytes.length := hcoherent.length_eq.symm
  have hstep := step_text (htiles.step_eq t ht)
  rw [hcoherent.text_eq] at hstep
  rw [← hlen, ← hbytes]
  exact textTokens_of_step hstep

/-- A text whose tokens are all kept can be scanned in two parts at each place that is inside no
token: the tokens are those of the front and then those of the rest, moved behind it. The text of
a token alone is scanned as that token. -/
theorem textTokens_split (k : Keywords) (text : List Char) {ts : List ScannedToken}
    (h : textTokens ⟨k, true, true⟩ text = .ok ts) :
    (∀ p, p ≤ text.length → (∀ t ∈ ts, ¬ (t.span.start < p ∧ p < t.span.stop)) →
      ∃ us vs, textTokens ⟨k, true, true⟩ (text.take p) =
          .ok (us ++ [endToken p (utf8Length (text.take p))]) ∧
        textTokens ⟨k, true, true⟩ (text.drop p) =
          .ok (vs ++ [endToken (text.length - p) (utf8Length (text.drop p))]) ∧
        ts = us ++ vs.map (·.offset p (utf8Length (text.take p))) ++
          [endToken text.length (utf8Length text)]) ∧
    ∀ t ∈ ts, t.kind ≠ .endOfText →
      textTokens ⟨k, true, true⟩ (t.span.slice text) =
        .ok [⟨⟨t.kind, ⟨0, t.span.length⟩⟩, ⟨0, t.bytes.length⟩⟩,
          endToken t.span.length t.bytes.length] := by
  obtain ⟨all, d, hr, hd, rfl⟩ := exists_run_of_textTokens_ok h
  rw [kept_all]
  constructor
  · intro p hp hgap
    have hlen : (text.take p).length = p := by rw [List.length_take, Nat.min_eq_left hp]
    have hplace : (Cursor.start text).past (text.take p) =
        (Cursor.start (text.drop p)).offset p (utf8Length (text.take p)) := by
      rw [Cursor.past, hlen]
      rfl
    have hfront : ((Cursor.start text).past (text.take p)).position = p := by
      rw [hplace]
      exact Nat.zero_add p
    obtain ⟨us, vs, rfl, hu, hv⟩ := hr.exists_cut hd (List.take_append_drop p text).symm (by
      intro t ht
      rw [hfront]
      exact hgap t (List.mem_append_left _ ht))
    rw [hplace] at hv
    obtain ⟨ws, e, rfl, rfl, hw⟩ := hv.exists_offset
    have hus := Run.textTokens_eq (o := ⟨k, true, true⟩) hu (List.drop_length ..)
    have hws := Run.textTokens_eq (o := ⟨k, true, true⟩) hw hd
    rw [kept_all, hlen] at hus
    rw [kept_all, List.length_drop] at hws
    exact ⟨us, ws, hus, hws, rfl⟩
  · intro t ht hk
    rcases List.mem_append.1 ht with ht | ht
    · exact hr.textTokens_slice ht
    · exact absurd (congrArg (·.kind) (List.mem_singleton.1 ht)) hk

/-- A letter and a sign make an exponent only with a digit, so that the sign, which is the last
character of the front, is a token by itself. The letter behind it takes two bytes. -/
theorem textTokens_split_exponent :
    let text := ['1', '.', '5', 'e', '-', 'é']
    let ts : List ScannedToken := [⟨⟨.number "1.5", ⟨0, 3⟩⟩, ⟨0, 3⟩⟩,
      ⟨⟨.identifier "e", ⟨3, 4⟩⟩, ⟨3, 4⟩⟩, ⟨⟨.punctuation .minus, ⟨4, 5⟩⟩, ⟨4, 5⟩⟩,
      ⟨⟨.identifier "é", ⟨5, 6⟩⟩, ⟨5, 7⟩⟩, endToken 6 7]
    textTokens ⟨.empty, true, true⟩ text = .ok ts ∧
      (∃ us vs, textTokens ⟨.empty, true, true⟩ ['1', '.', '5', 'e', '-'] =
          .ok (us ++ [endToken 5 5]) ∧
        textTokens ⟨.empty, true, true⟩ ['é'] = .ok (vs ++ [endToken 1 2]) ∧
        ts = us ++ vs.map (·.offset 5 5) ++ [endToken 6 7]) ∧
      textTokens ⟨.empty, true, true⟩ ['1', '.', '5'] =
        .ok [⟨⟨.number "1.5", ⟨0, 3⟩⟩, ⟨0, 3⟩⟩, endToken 3 3] := by
  intro text ts
  have h : textTokens ⟨.empty, true, true⟩ text = .ok ts := by decide +kernel
  obtain ⟨hsplit, hslice⟩ := textTokens_split .empty text h
  refine ⟨h, hsplit 5 (by decide) (by decide), ?_⟩
  exact hslice ⟨⟨.number "1.5", ⟨0, 3⟩⟩, ⟨0, 3⟩⟩ (by decide) (by decide)

end Scan

end SqlBuffer
