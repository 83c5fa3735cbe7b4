import Mathlib.Data.Finset.Card
import SqlBuffer.Keyword.Postgres
import SqlBuffer.Proofs.LetterCase
import SqlBuffer.Token.Kind

/-
  Looking up keywords.
  A table holds, for each lowercase form, the word added last. The keys are lowercase forms and
  hence their own, so a word that is found as it stands is found by its lowercase form too, with
  the same answer. Kinds of tokens compare words character by character, which is another rule: the
  two go together exactly where the words have capital sigmas at the ends of words at the same
  places.
-/

namespace SqlBuffer

theorem lowerWord_lowerWord (word : String) : lowerWord (lowerWord word) = lowerWord word := by
  rw [lowerWord, lowerWord, String.toList_ofList, lowercase_lowercase]

theorem lowerWord_eq_iff {a b : String} :
    lowerWord a = lowerWord b ↔ lowercase a.toList = lowercase b.toList := by
  rw [lowerWord, lowerWord, String.ofList_inj]

theorem sameWord_iff {a b : String} :
    sameWord a b = true ↔ foldCase a.toList = foldCase b.toList := by
  rw [sameWord, beq_iff_eq]

namespace Keywords

/-- The tables that adding words leads to, each with all words added, first to last. -/
inductive Built : Keywords → List String → Prop
  | empty : Built .empty []
  | postgres : Built .postgres postgresWords
  | ofList (words : List String) : Built (.ofList words) words
  | insert {k : Keywords} {words : List String} (h : Built k words) (word : String) :
      Built (k.insert word) (words ++ [word])
  | extend {k : Keywords} {words : List String} (h : Built k words) (more : List String) :
      Built (k.extend more) (words ++ more)

/-- The last word of a list that has the given lowercase form. -/
def lastWith? (words : List String) (key : String) : Option String :=
  words.reverse.find? (lowerWord · == key)

theorem lastWith?_concat (words : List String) (word key : String) :
    lastWith? (words ++ [word]) key =
      if lowerWord word = key then some word else lastWith? words key := by
  rw [lastWith?, List.reverse_concat, List.find?_cons, ← lastWith?]
  by_cases h : lowerWord word = key
  · rw [if_pos h, beq_iff_eq.2 h]
  · rw [if_neg h, beq_eq_false_iff_ne.2 h]

theorem lastWith?_eq_some_iff {words : List String} {key x : String} :
    lastWith? words key = some x ↔ lowerWord x = key ∧
      ∃ before after, words = before ++ x :: after ∧ ∀ y ∈ after, lowerWord y ≠ key := by
  rw [lastWith?, List.find?_eq_some_iff_append, beq_iff_eq]
  refine and_congr_right fun _ => ⟨?_, ?_⟩
  · rintro ⟨as, bs, hw, ha⟩
    refine ⟨bs.reverse, as.reverse, ?_, fun y hy => ?_⟩
    · rw [← List.reverse_reverse words, hw, List.reverse_append, List.reverse_cons,
        List.append_assoc]
      rfl
    · simpa using ha y (List.mem_reverse.1 hy)
  · rintro ⟨before, after, rfl, ha⟩
    refine ⟨after.reverse, before.reverse, ?_, fun y hy => ?_⟩
    · rw [List.reverse_append, List.reverse_cons, List.append_assoc]
      rfl
    · simpa using ha y (List.mem_reverse.1 hy)

theorem lastWith?_eq_none_iff {words : List String} {key : String} :
    lastWith? words key = none ↔ ∀ x ∈ words, lowerWord x ≠ key := by
  simp [lastWith?]

/-! ## What a table holds -/

/-- The table holds the last word for each lowercase form, and nothing else. -/
structure Holds (k : Keywords) (words : List String) : Prop where
  getElem?_eq : ∀ key : String, k.table[key]? = lastWith? words key
  size_eq : k.size = (words.map lowerWord).toFinset.card

theorem holds_empty : Holds .empty [] :=
  ⟨fun _ => Std.TreeMap.getElem?_emptyc, rfl⟩

namespace Holds

variable {k : Keywords} {words : List String}

theorem contains_iff (h : Holds k words) (key : String) :
    k.table.contains key = true ↔ key ∈ words.map lowerWord := by
  rw [Std.TreeMap.contains_iff_mem, ← Std.TreeMap.isSome_getElem?_iff_mem, h.getElem?_eq,
    ← Option.ne_none_iff_isSome, Ne, lastWith?_eq_none_iff, List.mem_map]
  simp only [ne_eq, not_forall, not_not, exists_prop]

theorem insert (h : Holds k words) (word : String) : Holds (k.insert word) (words ++ [word]) := by
  refine ⟨fun key => ?_, ?_⟩
  · rw [Keywords.insert, Std.TreeMap.getElem?_insert, h.getElem?_eq, lastWith?_concat]
    simp only [Std.LawfulEqOrd.compare_eq_iff_eq]
  · have hcard : ((words ++ [word]).map lowerWord).toFinset =
        Insert.insert (lowerWord word) (words.map lowerWord).toFinset := by
      ext x
      simp
    rw [hcard, Keywords.insert, size, Std.TreeMap.size_insert, ← size, h.size_eq]
    by_cases hm : lowerWord word ∈ words.map lowerWord
    · rw [if_pos ((h.contains_iff _).2 hm), Finset.insert_eq_of_mem (List.mem_toFinset.2 hm)]
    · rw [if_neg (mt (h.contains_iff _).1 hm), Finset.card_insert_of_notMem (by simpa using hm)]

theorem extend (h : Holds k words) (more : List String) :
    Holds (k.extend more) (words ++ more) := by
  induction more generalizing k words with
  | nil =>
    rw [List.append_nil]
    exact h
  | cons word more ih =>
    have := ih (h.insert word)
    rwa [List.append_assoc] at this

/-- A word that is found as it stands is a lowercase form, so both lookups ask for the same key. -/
theorem getElem?_lowerWord (h : Holds k words) {word x : String} (hx : k.table[word]? = some x) :
    k.table[lowerWord word]? = some x := by
  rw [h.getElem?_eq] at hx
  have hword := (lastWith?_eq_some_iff.1 hx).1
  rw [← hword, lowerWord_lowerWord, hword, h.getElem?_eq, hx]

theorem spelling?_eq (h : Holds k words) (word : String) :
    k.spelling? word = lastWith? words (lowerWord word) := by
  rw [← h.getElem?_eq, spelling?]
  cases hx : k.table[word]? with
  | none => rfl
  | some x => exact (h.getElem?_lowerWord hx).symm

end Holds

theorem Built.holds {k : Keywords} {words : List String} (h : Built k words) : Holds k words := by
  induction h with
  | empty => exact holds_empty
  | postgres => exact holds_empty.extend postgresWords
  | ofList words => exact holds_empty.extend words
  | insert _ word ih => exact ih.insert word
  | extend _ more ih => exact ih.extend more

/-- How a table answers to which the words were added in this order. -/
structure LooksUp (k : Keywords) (words : List String) : Prop where
  /-- The answer is the last word with the same lowercase form. -/
  spelling?_iff : ∀ word x, k.spelling? word = some x ↔ lowerWord x = lowerWord word ∧
    ∃ before after, words = before ++ x :: after ∧ ∀ y ∈ after, lowerWord y ≠ lowerWord word
  spelling?_eq_none_iff : ∀ word,
    k.spelling? word = none ↔ ∀ x ∈ words, lowerWord x ≠ lowerWord word
  /-- The lookup of the word as it stands gives no other answer. -/
  direct : ∀ word x : String, k.table[word]? = some x → k.table[lowerWord word]? = some x
  congr : ∀ v w, lowerWord v = lowerWord w → k.spelling? v = k.spelling? w
  size_eq : k.size = (words.map lowerWord).toFinset.card

/-- However the words came into a table, a lookup gives the last one with the lowercase form of
the word asked for, and the size is the number of lowercase forms. -/
theorem looksUp_of_built {k : Keywords} {words : List String} (h : Built k words) :
    LooksUp k words := by
  refine ⟨?_, ?_, ?_, ?_, h.holds.size_eq⟩
  · intro word x
    rw [h.holds.spelling?_eq, lastWith?_eq_some_iff]
  · intro word
    rw [h.holds.spelling?_eq, lastWith?_eq_none_iff]
  · intro word x hx
    exact h.holds.getElem?_lowerWord hx
  · intro v w hvw
    rw [h.holds.spelling?_eq, h.holds.spelling?_eq, hvw]

/-- A keyword of PostgreSQL that is added again in capitals is given in capitals, unless a later
word takes its place. -/
theorem looksUp_of_built_again :
    let k := (Keywords.postgres.insert "SELECT").extend ["ΟΔΟΣ", "Select"]
    LooksUp k (postgresWords ++ ["SELECT"] ++ ["ΟΔΟΣ", "Select"]) ∧
      k.spelling? "sElect" = some "Select" ∧ k.spelling? "οδος" = some "ΟΔΟΣ" := by
  intro k
  have h := looksUp_of_built ((Built.postgres.insert "SELECT").extend ["ΟΔΟΣ", "Select"])
  refine ⟨h, (h.spelling?_iff _ _).2 ⟨by decide +kernel, postgresWords ++ ["SELECT", "ΟΔΟΣ"], [],
    ?_, by simp⟩, (h.spelling?_iff _ _).2 ⟨by decide +kernel, postgresWords ++ ["SELECT"],
    ["Select"], rfl, ?_⟩⟩
  · rw [List.append_assoc, List.append_assoc]
    rfl
  · intro y hy
    rw [List.mem_singleton.1 hy]
    decide +kernel

/-! ## Looking up and comparing -/

/-- Two words have the same spelling in every table if and only if they have the same lowercase
form. -/
theorem forall_spelling?_eq_iff (a b : String) :
    (∀ k words, Built k words → k.spelling? a = k.spelling? b) ↔ lowerWord a = lowerWord b := by
  constructor
  · intro h
    -- the table with the first word alone tells other lowercase forms apart
    have hk := (Built.ofList [a]).holds
    have ha : lastWith? [a] (lowerWord a) = some a :=
      lastWith?_eq_some_iff.2 ⟨rfl, [], [], rfl, by simp⟩
    have hb := h _ _ (.ofList [a])
    rw [hk.spelling?_eq, hk.spelling?_eq, ha] at hb
    exact (lastWith?_eq_some_iff.1 hb.symm).1
  · intro h k words hk
    rw [hk.holds.spelling?_eq, hk.holds.spelling?_eq, h]

/-- Identifiers that are the same but for letter case have the same spelling in every table if and
only if they have capital sigmas at the ends of words at the same places. A keyword is the same as
the word that it is the spelling of under the same condition. -/
theorem sameAs_spelling?_iff (a b : String) :
    (TokenKind.sameAs (.identifier a) (.identifier b) = true →
      ((∀ k words, Built k words → k.spelling? a = k.spelling? b) ↔
        finalSigmas a.toList = finalSigmas b.toList)) ∧
    ∀ k words, Built k words → k.spelling? a = some b →
      (TokenKind.sameAs (.keyword b) (.keyword a) = true ↔
        finalSigmas b.toList = finalSigmas a.toList) := by
  constructor
  · intro h
    rw [forall_spelling?_eq_iff, lowerWord_eq_iff]
    exact lowercase_eq_iff (sameWord_iff.1 h)
  · intro k words hk hb
    rw [hk.holds.spelling?_eq, lastWith?_eq_some_iff] at hb
    exact sameWord_iff.trans (foldCase_eq_iff (lowerWord_eq_iff.1 hb.1))

/-- Both words end with a capital sigma, so no table tells them apart. -/
theorem sameAs_spelling?_iff_capitals :
    TokenKind.sameAs (.identifier "ΟΔΟΣ") (.identifier "οδοΣ") = true ∧
      ∀ k words, Built k words → k.spelling? "ΟΔΟΣ" = k.spelling? "οδοΣ" := by
  have h : TokenKind.sameAs (.identifier "ΟΔΟΣ") (.identifier "οδοΣ") = true := by decide +kernel
  exact ⟨h, ((sameAs_spelling?_iff _ _).1 h).2 (by decide +kernel)⟩

/-- A table may have one of two identifiers that are the same, and a word may have a spelling as a
keyword that is not the same. -/
theorem sameAs_spelling?_finalSigma :
    (TokenKind.sameAs (.identifier "ΑΣ") (.identifier "ασ") = true ∧
      (empty.insert "ασ").spelling? "ασ" = some "ασ" ∧
      (empty.insert "ασ").spelling? "ΑΣ" = none) ∧
    (empty.insert "ας").spelling? "ΑΣ" = some "ας" ∧
      TokenKind.sameAs (.keyword "ας") (.keyword "ΑΣ") = false := by
  refine ⟨⟨?_, ?_, ?_⟩, ?_, ?_⟩ <;> decide +kernel

end Keywords

end SqlBuffer
