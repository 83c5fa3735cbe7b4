import Mathlib.Data.List.Basic
import Mathlib.Tactic.SplitIfs
import SqlBuffer.Command.Run
import SqlBuffer.Proofs.Extent

/-
  Reading a token record.
  `readRecord?` reads a row as a JSON object with the members of a token record: the number of the
  line, where the token starts and ends, and its kind with the value that belongs to it. Every
  record that is written is read as what it was written from, so that the row holds all of it.
-/

namespace SqlBuffer.Command

/-! ## Numbers and strings -/

/-- A label, the number behind it and what follows. -/
def readNumber? (label : String) (cs : List Char) : Option (Nat × List Char) := do
  let cs ← cs.dropPrefix? label.toList
  let digits := cs.takeWhile Char.isDigit
  if digits = [] then none
  else some (Nat.ofDigitChars 10 digits 0, cs.dropWhile Char.isDigit)

theorem readNumber?_append (label : String) (n : Nat) {rest : List Char}
    (h : rest.head? = some ',') :
    readNumber? label (label.toList ++ (Nat.toDigits 10 n ++ rest)) = some (n, rest) := by
  have hrun : MaximalRun Char.isDigit (Nat.toDigits 10 n) rest := by
    constructor
    · intro c hc
      exact Nat.isDigit_of_mem_toDigits (by decide) (by decide) hc
    · intro c hc
      rw [h] at hc
      cases hc
      rfl
  have hne : Nat.toDigits 10 n ≠ [] := List.length_pos_iff.1 Nat.length_toDigits_pos
  simp only [readNumber?, List.dropPrefix?_append_of_beq _ (beq_self_eq_true label.toList),
    Option.bind_eq_bind, Option.bind_some, hrun.takeWhile_eq, hrun.dropWhile_eq, if_neg hne,
    Nat.ofDigitChars_ten_toDigits]

def hexValue? (c : Char) : Option Nat :=
  "0123456789abcdef".toList.idxOf? c

/-- The character with a code of four digits in base sixteen. -/
def codedChar? (a b c d : Char) : Option Char := do
  let code := (((← hexValue? a) * 16 + (← hexValue? b)) * 16 + (← hexValue? c)) * 16 +
    (← hexValue? d)
  if code.isValidChar then some (Char.ofNat code) else none

/-- The character that a letter behind a backslash stands for. -/
def escapedChar? : Char → Option Char
  | '"' => some '"'
  | '\\' => some '\\'
  | '/' => some '/'
  | 'b' => some '\x08'
  | 'f' => some '\x0c'
  | 'n' => some '\n'
  | 'r' => some '\r'
  | 't' => some '\t'
  | _ => none

/-- The text up to the quote that closes a string, and what follows the quote. -/
def readText? : List Char → Option (List Char × List Char)
  | [] => none
  | '"' :: rest => some ([], rest)
  | '\\' :: 'u' :: a :: b :: c :: d :: rest => do
    let ch ← codedChar? a b c d
    (readText? rest).map (Prod.map (ch :: ·) id)
  | '\\' :: c :: rest => do
    let ch ← escapedChar? c
    (readText? rest).map (Prod.map (ch :: ·) id)
  | ch :: rest => (readText? rest).map (Prod.map (ch :: ·) id)

theorem codedChar?_control {c : Char} (h : c.toNat < 0x20) :
    codedChar? '0' '0' (Nat.digitChar (c.toNat / 16)) (Nat.digitChar (c.toNat % 16)) = some c := by
  have hall : ∀ n < 0x20,
      codedChar? '0' '0' (Nat.digitChar (n / 16)) (Nat.digitChar (n % 16)) =
        some (Char.ofNat n) := by
    decide
  rw [hall _ h, Char.ofNat_toNat]

/-- A character is read as it was written. -/
theorem readText?_jsonChar (c : Char) (rest : List Char) :
    readText? (jsonChar c ++ rest) = (readText? rest).map (Prod.map (c :: ·) id) := by
  unfold jsonChar
  split_ifs with hquote hback hb ht hn hf hr hcontrol
  -- the characters that have a letter
  iterate 7 (· subst c; rfl)
  · change readText? ('\\' :: 'u' :: '0' :: '0' :: _ :: _ :: rest) = _
    rw [readText?, codedChar?_control hcontrol]
    rfl
  · simp [readText?, hback]

theorem readText?_flatMap (text rest : List Char) :
    readText? (text.flatMap jsonChar ++ '"' :: rest) = some (text, rest) := by
  induction text with
  | nil => rfl
  | cons c text ih =>
    rw [List.flatMap_cons, List.append_assoc, readText?_jsonChar, ih]
    rfl

/-! ## Records -/

/-- The kind with a name and the value that belongs to it. -/
def readKind? : String → Option String → Option TokenKind
  | "eof", none => some .endOfText
  | "comment", none => some .comment
  | "meta_command", none => some .metaCommand
  | "new_line", none => some .newLine
  | "punctuation", some v => (Punctuation.all.find? (·.recordName = v)).map .punctuation
  | "string_literal", some v => some (.string v)
  | "identifier", some v => some (.identifier v)
  | "at_identifier", some v => some (.atIdentifier v)
  | "number_literal", some v => some (.number v)
  | "keyword", some v => some (.keyword v)
  | _, _ => none

theorem readKind?_record (kind : TokenKind) :
    readKind? kind.recordName kind.recordValue? = some kind := by
  cases kind with
  | punctuation p => cases p <;> rfl
  | _ => rfl

/-- The value behind the name of a kind, if there is one, and what follows. -/
def readValue? (cs : List Char) : Option (Option String × List Char) :=
  match cs.dropPrefix? ",\"value\":\"".toList with
  | some cs => (readText? cs).map fun (v, rest) => (some (String.ofList v), rest)
  | none => some (none, cs)

/-- The number of the line and the token that a row is a record of. -/
def readRecord? (row : String) : Option (Nat × Token) := do
  let (line, cs) ← readNumber? "\x7b\"line\":" row.toList
  let (start, cs) ← readNumber? ",\"start\":" cs
  let (stop, cs) ← readNumber? ",\"end\":" cs
  let cs ← cs.dropPrefix? ",\"token\":\x7b\"kind\":\"".toList
  let (name, cs) ← readText? cs
  let (value, cs) ← readValue? cs
  if cs = "\x7d\x7d".toList then
    (readKind? (String.ofList name) value).map fun kind => (line, ⟨kind, ⟨start, stop⟩⟩)
  else none

theorem brace_mem_of_readRecord? {row : String} {r : Nat × Token} (h : readRecord? row = some r) :
    '\x7b' ∈ row.toList := by
  obtain ⟨x, hx, -⟩ := Option.bind_eq_some_iff.1 h
  obtain ⟨cs, hcs, -⟩ := Option.bind_eq_some_iff.1 hx
  obtain ⟨front, hrow, hfront⟩ := List.dropPrefix?_eq_some_iff.1 hcs
  rw [hrow, eq_of_beq hfront]
  exact List.mem_append_left _ (by decide)

/-- What stands in a record behind the name of the kind. -/
def valueText (kind : TokenKind) : List Char :=
  match kind.recordValue? with
  | some v => ",\"value\":\"".toList ++ (v.toList.flatMap jsonChar ++ '"' :: "\x7d\x7d".toList)
  | none => "\x7d\x7d".toList

theorem readValue?_valueText (kind : TokenKind) :
    readValue? (valueText kind) = some (kind.recordValue?, "\x7d\x7d".toList) := by
  unfold readValue? valueText
  cases kind.recordValue? with
  | none => rfl
  | some v =>
    dsimp only
    rw [List.dropPrefix?_append_of_beq _ (beq_self_eq_true _)]
    simp [readText?_flatMap]

theorem toList_tokenRecord (n : Nat) (t : Token) :
    (tokenRecord n t).toList =
      "\x7b\"line\":".toList ++ (Nat.toDigits 10 n ++
        (",\"start\":".toList ++ (Nat.toDigits 10 t.span.start ++
          (",\"end\":".toList ++ (Nat.toDigits 10 t.span.stop ++
            (",\"token\":\x7b\"kind\":\"".toList ++
              (t.kind.recordName.toList.flatMap jsonChar ++ '"' :: valueText t.kind))))))) := by
  unfold tokenRecord TokenKind.toJson valueText jsonString
  cases t.kind.recordValue? <;> simp

/-- A record holds the number of the line, where the token starts and ends, and its kind. -/
theorem readRecord?_tokenRecord (n : Nat) (t : Token) :
    readRecord? (tokenRecord n t) = some (n, t) := by
  rw [readRecord?, toList_tokenRecord, readNumber?_append _ _ rfl]
  simp only [Option.bind_eq_bind, Option.bind_some]
  rw [readNumber?_append _ _ rfl]
  simp only [Option.bind_some]
  rw [readNumber?_append _ _ rfl]
  simp only [Option.bind_some]
  rw [List.dropPrefix?_append_of_beq _ (beq_self_eq_true _)]
  simp [readText?_flatMap, readValue?_valueText, readKind?_record]

end SqlBuffer.Command
