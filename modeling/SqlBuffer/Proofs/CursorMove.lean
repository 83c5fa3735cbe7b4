import SqlBuffer.Proofs.Extent
import SqlBuffer.Proofs.RuleChoice
import SqlBuffer.Scan.Basic

/-
  The moves of the scanner.
  However a rule moves, character by character or up to a byte that it has searched for, it moves
  both offsets over the text that it reads: by its characters the one and by its bytes the other.
  `read_eq` has all rules. So what the scanner does at a place is told by the text that follows.
-/

namespace SqlBuffer

namespace Cursor

/-- The place after a text that stands here. -/
def past (c : Cursor) (text : List Char) : Cursor :=
  ⟨c.position + text.length, c.bytes + utf8Length text, c.rest.drop text.length⟩

/-- The place after a token. -/
def after (c : Cursor) (l : Lexeme) : Cursor :=
  ⟨c.position + l.text.length, c.bytes + utf8Length l.text, l.rest⟩

/-- The token that a lexeme is at this place. -/
def token (c : Cursor) (l : Lexeme) : ScannedToken :=
  c.tokenTo (c.after l) l.kind

variable {c : Cursor} {ch : Char} {cs text rest : List Char}

@[simp]
theorem past_nil (c : Cursor) : c.past [] = c :=
  rfl

theorem past_past (c : Cursor) (front text : List Char) :
    (c.past front).past text = c.past (front ++ text) := by
  simp [past, Nat.add_assoc]

theorem rest_past (h : c.rest = text ++ rest) : (c.past text).rest = rest := by
  rw [past, h, List.drop_left]

theorem advance_eq_past (h : c.rest = ch :: cs) : c.advance = c.past [ch] := by
  rw [advance, past, h]
  rfl

theorem past_advance (h : c.rest = ch :: cs) (text : List Char) :
    c.advance.past text = c.past (ch :: text) := by
  rw [advance_eq_past h, past_past, List.singleton_append]

theorem rest_advance (h : c.rest = ch :: cs) : c.advance.rest = cs := by
  rw [advance, h]

theorem advance_of_nil (h : c.rest = []) : c.advance = c := by
  rw [advance, h]

theorem textTo_past (h : c.rest = text ++ rest) : c.textTo (c.past text) = text := by
  rw [textTo, past, h]
  dsimp only
  rw [Nat.add_sub_cancel_left, takeBytes_append]

theorem after_eq_past {l : Lexeme} (h : Scan.Reads l c.rest) : c.after l = c.past l.text := by
  rw [after, past, ← h.append, List.drop_left]

theorem eatWhile_eq (p : Char → Bool) (c : Cursor) :
    c.eatWhile p = c.past (c.rest.takeWhile p) := by
  fun_induction eatWhile p c with
  | case1 c ch cs h hp ih =>
    rw [ih, past_advance h, rest_advance h, h, List.takeWhile_cons_of_pos hp]
  | case2 c ch cs h hp => rw [h, List.takeWhile_cons_of_neg hp, past_nil]
  | case3 c h => rw [h, List.takeWhile_nil, past_nil]

/-- A move to the byte behind a text is one over its characters. -/
theorem advanceTo_eq (h : c.rest = text ++ rest) :
    c.advanceTo (c.bytes + utf8Length text) = c.past text := by
  induction text generalizing c with
  | nil =>
    rw [advanceTo]
    split
    · exact if_neg (Nat.lt_irrefl _)
    · rfl
  | cons ch text ih =>
    have hlt : c.bytes < c.bytes + utf8Length (ch :: text) := by
      have := ch.utf8Size_pos
      rw [utf8Length_cons]
      omega
    have hbytes : c.bytes + utf8Length (ch :: text) = c.advance.bytes + utf8Length text := by
      rw [advance_eq_past h, past, utf8Length_cons, utf8Length_cons, utf8Length_nil]
      dsimp only
      omega
    rw [advanceTo]
    split
    · rw [if_pos hlt, hbytes, ih (rest_advance h), past_advance h]
    · next hnil => cases h.symm.trans hnil

/-! ## Strings and comments -/

theorem blockComment_eq (h : c.rest = '/' :: '*' :: cs) :
    c.blockComment = c.past (Scan.blockComment cs).text := by
  have hopen : c.advance.advance = c.past ['/', '*'] := by
    rw [advance_eq_past (rest_advance h), past_advance h]
  have hrest : (c.past ['/', '*']).rest = cs := rest_past h
  unfold blockComment
  dsimp only
  rw [hopen, hrest, findBytes?_eq]
  unfold Scan.blockComment
  cases hcut : cutAt? ['*', '/'] cs with
  | some cut =>
    obtain ⟨inner, after⟩ := cut
    -- the closing takes two bytes
    have hclose : (c.past ['/', '*']).bytes + utf8Length inner + 2 =
        (c.past ['/', '*']).bytes + utf8Length (inner ++ ['*', '/']) := by
      rw [utf8Length_append, Nat.add_assoc]
      rfl
    have hread : (c.past ['/', '*']).rest = inner ++ ['*', '/'] ++ after := by
      rw [hrest, cutAt?_eq_some_append hcut]
    dsimp only [Option.map_some]
    rw [hclose, advanceTo_eq hread, past_past]
    rfl
  | none =>
    have hread : (c.past ['/', '*']).rest = cs ++ [] := by rw [hrest, List.append_nil]
    dsimp only [Option.map_none]
    rw [advanceTo_eq hread, past_past]
    rfl

theorem quotedBody_eq (c : Cursor) :
    c.quotedBody = ((Scan.quotedBody c.rest).1, c.past (Scan.quotedBody c.rest).2.1) := by
  fun_induction quotedBody c with
  | case1 c h => rw [h]; rfl
  | case2 c ch cs h hb => rw [h, Scan.quotedBody_lineBreak hb, past_nil]
  | case3 c cs hq value after hbody h _ ih =>
    obtain ⟨ds, hds⟩ := List.head?_eq_some_iff.1 hq
    rw [rest_advance h] at hds
    subst hds
    have hrest : c.advance.advance.rest = ds := rest_advance (rest_advance h)
    rw [hbody, hrest, past_advance (rest_advance h), past_advance h] at ih
    obtain ⟨hvalue, hafter⟩ := Prod.mk.inj ih
    rw [h, Scan.quotedBody_quotes, ← hvalue, ← hafter]
  | case4 c cs hq h _ =>
    rw [rest_advance h] at hq
    rw [h, Scan.quotedBody_quote hq, advance_eq_past h]
  | case5 c ch cs h hb hq value after hbody ih =>
    rw [hbody, rest_advance h, past_advance h] at ih
    obtain ⟨hvalue, hafter⟩ := Prod.mk.inj ih
    rw [h, Scan.quotedBody_other hb hq, ← hvalue, ← hafter]

theorem quotedString_eq (h : c.rest = '\'' :: cs) :
    c.quotedString = ((Scan.quotedString cs).kind, c.past (Scan.quotedString cs).text) := by
  unfold quotedString Scan.quotedString
  rw [quotedBody_eq, rest_advance h]
  dsimp only
  rw [past_advance h]

/-! ## Numbers -/

theorem numberFrom_cons (state : NumberState) (h : c.rest = ch :: cs) :
    c.numberFrom state = if c.numberState ch state = .done then c
      else c.advance.numberFrom (c.numberState ch state) := by
  rw [numberFrom]
  split
  · next h' => cases h.symm.trans h'; rfl
  · next h' => cases h.symm.trans h'

theorem numberFrom_of_done {state : NumberState}
    (h : ∀ ch, c.rest.head? = some ch → c.numberState ch state = .done) :
    c.numberFrom state = c := by
  cases hc : c.rest with
  | nil =>
    rw [numberFrom]
    split
    · next h' => cases hc.symm.trans h'
    · rfl
  | cons ch cs =>
    rw [hc] at h
    rw [numberFrom_cons state hc, if_pos (h ch rfl)]

/-- A state that digits do not change goes on behind them. -/
theorem numberFrom_digits {state : NumberState} (hs : state ≠ .done)
    (hd : ∀ (c : Cursor) (ch : Char), ch.isDigit = true → c.numberState ch state = state)
    (c : Cursor) :
    c.numberFrom state = (c.past (c.rest.takeWhile Char.isDigit)).numberFrom state := by
  induction hc : c.rest generalizing c with
  | nil => rfl
  | cons ch cs ih =>
    by_cases hdigit : ch.isDigit = true
    · rw [numberFrom_cons state hc, hd c ch hdigit, if_neg hs, ih _ (rest_advance hc),
        past_advance hc, List.takeWhile_cons_of_pos hdigit]
    · rw [List.takeWhile_cons_of_neg hdigit, past_nil]

theorem rest_past_takeWhile (p : Char → Bool) (c : Cursor) :
    (c.past (c.rest.takeWhile p)).rest = c.rest.dropWhile p :=
  rest_past List.takeWhile_append_dropWhile.symm

theorem isDigit_of_dropWhile {ch : Char} (h : (cs.dropWhile Char.isDigit).head? = some ch) :
    ¬ ch.isDigit = true := by
  simp [(maximalRun_takeWhile Char.isDigit cs).stops ch h]

theorem numberFrom_exponent (c : Cursor) :
    c.numberFrom .exponent = c.past (c.rest.takeWhile Char.isDigit) := by
  have hd (d : Cursor) (ch : Char) (h : ch.isDigit = true) :
      d.numberState ch .exponent = .exponent := if_pos h
  rw [numberFrom_digits (by decide) hd]
  refine numberFrom_of_done fun ch hch => ?_
  rw [rest_past_takeWhile] at hch
  exact if_neg (isDigit_of_dropWhile hch)

theorem takeWhile_isDigit_isEmpty (cs : List Char) :
    (cs.takeWhile Char.isDigit).isEmpty = !cs.head?.any Char.isDigit := by
  cases cs with
  | nil => rfl
  | cons ch cs => by_cases h : ch.isDigit = true <;> simp [h]

/-- The letter of an exponent is read with a sign and a digit behind it, or with a digit. -/
theorem exponentStart_eq (h : c.rest = ch :: cs) :
    c.exponentStart =
      if !((cs.drop (Scan.sign cs).length).takeWhile Char.isDigit).isEmpty then
        if Scan.sign cs = [] then .exponent else .exponentSign
      else .done := by
  unfold exponentStart
  rw [h, takeWhile_isDigit_isEmpty]
  cases cs with
  | nil => rfl
  | cons x ds =>
    by_cases hx : x = '+' ∨ x = '-'
    · have hdigit : x.isDigit = false := by rcases hx with rfl | rfl <;> rfl
      simp [Scan.sign, hx, hdigit, List.head?_eq_getElem?]
    · simp [Scan.sign, hx]

theorem numberFrom_sign (h : c.rest = ch :: cs) :
    c.advance.numberFrom (if Scan.sign cs = [] then .exponent else .exponentSign) =
      c.past (ch :: Scan.sign cs ++ (cs.drop (Scan.sign cs).length).takeWhile Char.isDigit) := by
  have hcs := rest_advance h
  rcases Scan.sign_cases cs with hs | ⟨x, ds, rfl, hs, hx⟩
  · rw [hs, if_pos rfl, numberFrom_exponent, hcs, past_advance h]
    rfl
  · have hstate : c.advance.numberState x .exponentSign = .exponent := if_pos (by simpa using hx)
    rw [hs, if_neg (List.cons_ne_nil x []), numberFrom_cons _ hcs, hstate, if_neg (by decide),
      numberFrom_exponent, rest_advance hcs, past_advance hcs, past_advance h]
    rfl

/-- Behind the digits of a fraction an exponent is read only with its digits. -/
theorem numberFrom_fraction_of_not_digit (h : ∀ ch, c.rest.head? = some ch → ¬ ch.isDigit = true) :
    c.numberFrom .fraction = c.past (Scan.exponent c.rest) := by
  cases hc : c.rest with
  | nil => exact numberFrom_of_done (by simp [hc])
  | cons ch cs =>
    have hstate : c.numberState ch .fraction =
        if ch = 'e' || ch = 'E' then c.exponentStart else .done :=
      if_neg (h ch (by rw [hc]; rfl))
    rw [numberFrom_cons _ hc, Scan.exponent, hstate, exponentStart_eq hc]
    generalize hdigits : (cs.drop (Scan.sign cs).length).takeWhile Char.isDigit = digits
    by_cases he : (decide (ch = 'e') || decide (ch = 'E')) = true
    · by_cases hd : (!digits.isEmpty) = true
      · have hstate : (if Scan.sign cs = [] then NumberState.exponent else .exponentSign) ≠
            .done := by
          split <;> decide
        rw [if_pos he, if_pos hd, if_neg hstate, numberFrom_sign hc, hdigits,
          if_pos (by rw [he, hd]; rfl)]
      · rw [if_pos he, if_neg hd, if_pos rfl, if_neg (by simp [hd]), past_nil]
    · rw [if_neg he, if_pos rfl, if_neg (by simp [he]), past_nil]

theorem numberFrom_fraction (c : Cursor) :
    c.numberFrom .fraction = c.past (c.rest.takeWhile Char.isDigit ++
      Scan.exponent (c.rest.dropWhile Char.isDigit)) := by
  have hd (d : Cursor) (ch : Char) (h : ch.isDigit = true) :
      d.numberState ch .fraction = .fraction := if_pos h
  rw [numberFrom_digits (by decide) hd, numberFrom_fraction_of_not_digit, rest_past_takeWhile,
    past_past]
  intro ch hch
  rw [rest_past_takeWhile] at hch
  exact isDigit_of_dropWhile hch

theorem numberFrom_whole (c : Cursor) : c.numberFrom .whole = c.past (Scan.numberText c.rest) := by
  have hd (d : Cursor) (ch : Char) (h : ch.isDigit = true) :
      d.numberState ch .whole = .whole := if_pos h
  rw [numberFrom_digits (by decide) hd, Scan.numberText]
  have hrest := rest_past_takeWhile Char.isDigit c
  split
  · next cs hpoint =>
    rw [hpoint] at hrest
    have hstate : (c.past (c.rest.takeWhile Char.isDigit)).numberState '.' .whole = .fraction := rfl
    rw [numberFrom_cons _ hrest, hstate, if_neg (by decide), numberFrom_fraction,
      rest_advance hrest, past_advance hrest, past_past]
    simp
  · next hpoint =>
    refine numberFrom_of_done fun ch hch => ?_
    rw [hrest] at hch
    have hne : ch ≠ '.' := by
      rintro rfl
      obtain ⟨cs, hcs⟩ := List.head?_eq_some_iff.1 hch
      exact hpoint cs hcs
    exact (if_neg (isDigit_of_dropWhile hch)).trans (if_neg hne)

theorem number_eq (c : Cursor) :
    c.number = ((Scan.number c.rest).kind, c.past (Scan.number c.rest).text) := by
  obtain ⟨rest, hr⟩ := Scan.numberText_append c.rest
  unfold number Scan.number
  dsimp only
  rw [numberFrom_whole, textTo_past hr.symm]

/-! ## Words and dollar quoting -/

theorem word_eq (keywords : Keywords) (c : Cursor) :
    c.word keywords =
      ((Scan.word keywords c.rest).kind, c.past (Scan.word keywords c.rest).text) := by
  unfold word Scan.word
  dsimp only
  rw [eatWhile_eq, textTo_past List.takeWhile_append_dropWhile.symm]
  cases keywords.spelling? (String.ofList (c.rest.takeWhile isWordChar)) with
  | some spelling => rfl
  | none => rfl

theorem tagEnd_eq (c : Cursor) : c.tagEnd = c.past (Scan.dollarRun c.rest).1 := by
  fun_induction tagEnd c with
  | case1 c ch cs h hw => rw [h, Scan.dollarRun, if_pos hw, past_nil]
  | case2 c cs h hw => rw [h, Scan.dollarRun, if_neg hw, if_pos rfl, advance_eq_past h]
  | case3 c ch cs h hw hd ih =>
    rw [ih, rest_advance h, past_advance h, h, Scan.dollarRun, if_neg hw, if_neg hd]
  | case4 c h => rw [h, Scan.dollarRun, past_nil]

/-- A tag has more than one byte if it has more than its first dollar sign. -/
theorem isTag_eq (run : List Char) :
    (1 < utf8Length ('$' :: run) && ('$' :: run).getLast? = some '$') =
      decide (run.getLast? = some '$') := by
  cases run with
  | nil => rfl
  | cons c run =>
    have hlong : 1 < utf8Length ('$' :: c :: run) := by
      have hone : '$'.utf8Size = 1 := rfl
      have := c.utf8Size_pos
      rw [utf8Length_cons, utf8Length_cons, hone]
      omega
    rw [List.getLast?_cons_cons, decide_eq_true hlong, Bool.true_and]

theorem dollar_eq (h : c.rest = '$' :: cs) :
    c.dollar = ((Scan.dollar cs).kind, c.past (Scan.dollar cs).text) := by
  have hrun := Scan.dollarRun_append cs
  have hafter : c.advance.tagEnd = c.past ('$' :: (Scan.dollarRun cs).1) := by
    rw [tagEnd_eq, rest_advance h, past_advance h]
  unfold dollar Scan.dollar
  generalize Scan.dollarRun cs = cut at hrun hafter
  obtain ⟨run, rest⟩ := cut
  dsimp only at hrun hafter ⊢
  have hread : c.rest = '$' :: run ++ rest := by rw [h, ← hrun]; rfl
  rw [hafter, textTo_past hread, rest_past hread, isTag_eq]
  by_cases hclosed : run.getLast? = some '$'
  · rw [if_pos hclosed, if_pos (decide_eq_true hclosed), findBytes?_eq]
    cases hcut : cutAt? ('$' :: run) rest with
    | none => rfl
    | some cut =>
      obtain ⟨body, after⟩ := cut
      have hbody : rest = body ++ ('$' :: run) ++ after := (cutAt?_eq_some_append hcut).symm
      have hclose : (c.past ('$' :: run)).rest = body ++ ('$' :: run) ++ after := by
        rw [rest_past hread, hbody]
      dsimp only [Option.map_some]
      rw [Nat.add_assoc, ← utf8Length_append, advanceTo_eq hclose, past_past, hbody,
        List.append_assoc body, takeBytes_append, List.append_assoc]
  · rw [if_neg hclosed, if_neg (by simpa using hclosed)]

theorem bracketed_eq (h : c.rest = '[' :: cs) :
    c.bracketed = ((Scan.bracketed cs).kind, c.past (Scan.bracketed cs).text) := by
  have hread := Scan.reads_bracketed cs
  have hinner : c.eatWhile (· ≠ ']') = c.past ('[' :: cs.takeWhile (· ≠ ']')) := by
    rw [eatWhile_eq, h]
    rfl
  have hrest : (c.past ('[' :: cs.takeWhile (· ≠ ']'))).rest = cs.dropWhile (· ≠ ']') := by
    apply rest_past
    rw [h, List.cons_append, List.takeWhile_append_dropWhile]
  have hafter : (c.eatWhile (· ≠ ']')).advance = c.past (Scan.bracketed cs).text := by
    rw [hinner, Scan.bracketed]
    cases hclose : cs.dropWhile (· ≠ ']') with
    | nil => rw [advance_of_nil (hrest.trans hclose), List.take_nil, List.append_nil]
    | cons ch ds => rw [advance_eq_past (hrest.trans hclose), past_past]; rfl
  unfold bracketed
  dsimp only
  rw [hafter, textTo_past (h.trans hread.append.symm)]
  rfl

/-! ## The rule for the first character -/

/-- What is found at a place where the text reads so. -/
def found (c : Cursor) : Scan.Step → Found
  | .done => .done
  | .blank _ => .blank (c.eatWhile isBlank)
  | .lexeme l => .token l.kind (c.after l)
  | .unexpected ch => .unexpected ch

theorem found_lexeme {l : Lexeme} {kind : TokenKind} {d : Cursor} (hl : Scan.Reads l c.rest)
    (hk : kind = l.kind) (hd : d = c.past l.text) : .token kind d = c.found (.lexeme l) := by
  rw [hk, hd, found, after_eq_past hl]

theorem found_pair {l : Lexeme} {moved : TokenKind × Cursor} (hl : Scan.Reads l c.rest)
    (h : moved = (l.kind, c.past l.text)) : .token moved.1 moved.2 = c.found (.lexeme l) :=
  found_lexeme hl (congrArg Prod.fst h) (congrArg Prod.snd h)

theorem found_restOfLine (kind : TokenKind) (h : c.rest = ch :: cs) (hl : isLineBreak ch = false) :
    .token kind c.restOfLine = c.found (.lexeme (Scan.restOfLine kind (ch :: cs))) := by
  refine found_lexeme (h ▸ Scan.reads_restOfLine kind cs hl) rfl ?_
  rw [restOfLine, eatWhile_eq, h]
  rfl

theorem found_advance (kind : TokenKind) (h : c.rest = ch :: cs) :
    .token kind c.advance = c.found (.lexeme ⟨kind, [ch], cs⟩) :=
  found_lexeme ⟨h.symm, List.cons_ne_nil ch []⟩ rfl (advance_eq_past h)

theorem pair_isPrefixOf (a b ch : Char) (cs : List Char) :
    [a, b].isPrefixOf (ch :: cs) = (decide (ch = a) && decide (cs.head? = some b)) := by
  cases cs with
  | nil => simp [List.isPrefixOf]
  | cons d cs => simp [List.isPrefixOf, Bool.beq_eq_decide_eq, eq_comm]

theorem found_symbol (h : c.rest = ch :: cs) (hl : isLineBreak ch = false) :
    (if ['-', '-'].isPrefixOf (ch :: cs) then .token .comment c.restOfLine
      else if ['/', '*'].isPrefixOf (ch :: cs) then .token .comment c.blockComment
      else
        match Punctuation.ofChar? ch with
        | some p => .token (.punctuation p) c.advance
        | none => .unexpected ch) = c.found (Scan.symbol ch cs) := by
  rw [Scan.symbol, apply_ite c.found, apply_ite c.found, pair_isPrefixOf, pair_isPrefixOf]
  refine ite_congr rfl (fun _ => found_restOfLine .comment h hl) fun _ => ?_
  refine ite_congr rfl (fun hs => ?_) fun _ => ?_
  · obtain ⟨rfl, hstar⟩ : ch = '/' ∧ cs.head? = some '*' := by simpa using hs
    obtain ⟨ds, rfl⟩ := List.head?_eq_some_iff.1 hstar
    exact found_lexeme (h ▸ Scan.reads_blockComment ds) (Scan.kind_blockComment ds).symm
      (blockComment_eq h)
  · cases Punctuation.ofChar? ch with
    | some p => exact found_advance (.punctuation p) h
    | none => rfl

/-- What the scanner finds at a place, and how it moves, is what the rules say of the text. -/
theorem read_eq (keywords : Keywords) (c : Cursor) :
    c.read keywords = c.found (Scan.step keywords c.rest) := by
  rw [read]
  cases h : c.rest with
  | nil => rfl
  | cons ch cs =>
    rw [Scan.step]
    simp only [apply_ite c.found]
    refine ite_congr rfl (fun _ => rfl) fun _ => ?_
    refine ite_congr rfl (fun _ => found_advance .newLine h) fun hl => ?_
    rw [Bool.not_eq_true] at hl
    refine ite_congr rfl (fun _ => found_restOfLine .metaCommand h hl) fun _ => ?_
    refine ite_congr rfl (fun hq => ?_) fun _ => ?_
    · subst hq
      exact found_pair (h ▸ Scan.reads_quotedString cs) (quotedString_eq h)
    refine ite_congr rfl (fun hd => ?_) fun _ => ?_
    · rw [← h]
      exact found_pair (h ▸ Scan.reads_number cs hd) (number_eq c)
    refine ite_congr rfl (fun hw => ?_) fun _ => ?_
    · rw [← h]
      exact found_pair (h ▸ Scan.reads_word keywords cs hw) (word_eq keywords c)
    refine ite_congr rfl (fun hs => ?_) fun _ => ?_
    · subst hs
      exact found_pair (h ▸ Scan.reads_dollar cs) (dollar_eq h)
    refine ite_congr rfl (fun ho => ?_) fun _ => ?_
    · subst ho
      exact found_pair (h ▸ Scan.reads_bracketed cs) (bracketed_eq h)
    exact found_symbol h hl

end Cursor

/-! ## The next token -/

namespace Scan

variable {o : ScanOptions} {c : Cursor}

theorem next_eq (o : ScanOptions) (c : Cursor) :
    next o c =
      match c.found (step o.keywords c.rest) with
      | .done => .finished c
      | .blank after => next o after
      | .token kind after =>
        if o.skips kind then next o after else .token (c.tokenTo after kind) after
      | .unexpected ch => .failed ⟨ch, c.position⟩ c := by
  rw [← c.read_eq, next]
  split <;> simp_all

theorem next_of_done (h : step o.keywords c.rest = .done) : next o c = .finished c := by
  rw [next_eq, h]
  rfl

theorem next_of_lexeme {l : Lexeme} (h : step o.keywords c.rest = .lexeme l) :
    next o c = if o.skips l.kind then next o (c.after l) else .token (c.token l) (c.after l) := by
  rw [next_eq, h]
  rfl

theorem next_of_unexpected {ch : Char} (h : step o.keywords c.rest = .unexpected ch) :
    next o c = .failed ⟨ch, c.position⟩ c := by
  rw [next_eq, h]
  rfl

/-- The scanner passes over all blanks at once, which is the same as over one at a time. -/
theorem next_of_blank {rest : List Char} (h : step o.keywords c.rest = .blank rest) :
    next o c = next o c.advance := by
  have heat {d : Cursor} {cs : List Char} (hd : step o.keywords d.rest = .blank cs) :
      next o d = next o (d.eatWhile isBlank) := by
    rw [next_eq, hd]
    rfl
  obtain ⟨b, hb, hc⟩ := step_blank h
  have hmore : c.eatWhile isBlank = c.advance.eatWhile isBlank := by
    rw [Cursor.eatWhile_eq, Cursor.eatWhile_eq, Cursor.rest_advance hc, Cursor.past_advance hc, hc,
      List.takeWhile_cons_of_pos hb]
  rw [heat h, hmore]
  cases hs : c.advance.rest with
  | nil => rw [Cursor.eatWhile_eq, hs, List.takeWhile_nil, Cursor.past_nil]
  | cons ch cs =>
    by_cases hch : isBlank ch = true
    · exact (heat (by rw [hs, step, if_pos hch])).symm
    · rw [Cursor.eatWhile_eq, hs, List.takeWhile_cons_of_neg hch, Cursor.past_nil]

end Scan

end SqlBuffer
