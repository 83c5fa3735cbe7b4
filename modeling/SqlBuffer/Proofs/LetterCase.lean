import SqlBuffer.Text.Case

/-
  Lowercase forms.
  No lowercase letter of the case table is a capital of it, so a text in lowercase is its own
  lowercase form. The two mappings of a text, `foldCase` for each character alone and `lowercase`
  for the whole, give the same letters except where a capital sigma ends a word. `Lowered` keeps
  apart these places. If two texts agree on them, they agree in one mapping if and only if they do
  in the other.
-/

namespace SqlBuffer

/-! ## Lowercase letters are no capitals -/

namespace CaseRun

/-- The lowercase letter of the last capital. -/
def top (r : CaseRun) : Nat :=
  r.last - r.first + r.lower

/-- The capitals of `q` are every second letter, and the lowercase letters of `r` are those in
between. -/
def alternates (r q : CaseRun) : Bool :=
  Nat.beq q.step 2 && (Nat.beq r.step 2 || Nat.beq r.first r.last) && Nat.ble q.first r.lower &&
    Nat.beq ((r.lower - q.first) % 2) 1

/-- No lowercase letter of `r` is a capital of the runs. Like the lookup this stops at the first
run that lies above all of them. -/
def clearOf (r : CaseRun) : List CaseRun → Bool
  | [] => true
  | q :: qs =>
    Nat.blt r.top q.first || ((Nat.blt q.last r.lower || r.alternates q) && r.clearOf qs)

/-- The lowercase letters are characters beyond ASCII and not the dotted capital I, except for the
letter of the Kelvin sign. -/
def wellPlaced (r : CaseRun) : Bool :=
  Nat.beq r.lower 0x6b && Nat.beq r.top 0x6b ||
    Nat.ble 0x80 r.lower && (Nat.blt r.top 0x130 || Nat.blt 0x130 r.lower) &&
      (Nat.blt r.top 0xd800 || Nat.blt 0xdfff r.lower && Nat.blt r.top 0x110000)

theorem lowerIn_of_clearOf {r : CaseRun} {k : Nat} (hk : k ≤ r.last - r.first)
    (hs : k % r.step = 0) {runs : List CaseRun} (h : r.clearOf runs = true) :
    lowerIn runs (k + r.lower) = none := by
  induction runs with
  | nil => rfl
  | cons q qs ih =>
    simp only [clearOf, alternates, top, Bool.or_eq_true, Bool.and_eq_true, Nat.blt_eq,
      Nat.ble_eq, Nat.beq_eq] at h
    unfold lowerIn
    split
    · rfl
    · next hge =>
      obtain ⟨hq, hqs⟩ : (q.last < r.lower ∨
          ((q.step = 2 ∧ (r.step = 2 ∨ r.first = r.last)) ∧ q.first ≤ r.lower) ∧
            (r.lower - q.first) % 2 = 1) ∧ r.clearOf qs = true := by
        rcases h with h | h
        · omega
        · exact h
      split
      · next hle =>
        -- the letter lies among the capitals of the run, but at an odd distance from the first
        obtain ⟨⟨⟨h2, heven⟩, hfirst⟩, hodd⟩ := hq.resolve_left (by omega)
        have hk2 : k % 2 = 0 := by
          rcases heven with heven | heven
          · rw [heven] at hs
            exact hs
          · omega
        rw [h2, if_neg (by omega)]
      · exact ih hqs

end CaseRun

theorem exists_of_lowerIn {runs : List CaseRun} {n m : Nat} (h : lowerIn runs n = some m) :
    ∃ r ∈ runs, ∃ k, k ≤ r.last - r.first ∧ k % r.step = 0 ∧ m = k + r.lower := by
  induction runs with
  | nil => cases h
  | cons r runs ih =>
    unfold lowerIn at h
    split at h
    · cases h
    · split at h
      · split at h
        · next hstep =>
          exact ⟨r, List.mem_cons_self, n - r.first, by omega, hstep, (Option.some.inj h).symm⟩
        · cases h
      · obtain ⟨q, hq, hk⟩ := ih h
        exact ⟨q, List.mem_cons_of_mem r hq, hk⟩

theorem clearOf_caseRuns : caseRuns.all (·.clearOf caseRuns) = true := by
  decide +kernel

theorem wellPlaced_caseRuns : caseRuns.all (·.wellPlaced) = true := by
  decide +kernel

theorem toNat_ofNat {n : Nat} (h : n < 0xd800 ∨ 0xdfff < n ∧ n < 0x110000) :
    (Char.ofNat n).toNat = n := by
  have hv : n.isValidChar := h
  rw [Char.ofNat, dif_pos hv]
  rfl

theorem lowerChar_of_lowerIn {n m : Nat} (h : lowerIn caseRuns n = some m) :
    lowerChar (Char.ofNat m) = [Char.ofNat m] := by
  obtain ⟨r, hr, k, hk, hs, rfl⟩ := exists_of_lowerIn h
  have hclear := CaseRun.lowerIn_of_clearOf hk hs (List.all_eq_true.1 clearOf_caseRuns r hr)
  have hplace := List.all_eq_true.1 wellPlaced_caseRuns r hr
  simp only [CaseRun.wellPlaced, CaseRun.top, Bool.or_eq_true, Bool.and_eq_true, Nat.blt_eq,
    Nat.ble_eq, Nat.beq_eq] at hplace
  rcases hplace with ⟨hlow, htop⟩ | ⟨⟨hascii, hdotted⟩, hvalid⟩
  · obtain rfl : k = 0 := by omega
    rw [hlow]
    decide
  · have hnat : (Char.ofNat (k + r.lower)).toNat = k + r.lower := toNat_ofNat (by omega)
    rw [lowerChar, hnat, if_neg (by omega), if_neg (by omega), hclear]

theorem lowerChar_ascii : ∀ n < 0x80,
    lowerChar (Char.ofNat n).toLower = [(Char.ofNat n).toLower] := by
  decide +kernel

theorem lowerChar_of_mem {c d : Char} (h : d ∈ lowerChar c) : lowerChar d = [d] := by
  by_cases hascii : c.toNat < 0x80
  · rw [lowerChar, if_pos hascii, List.mem_singleton] at h
    have hlow := lowerChar_ascii c.toNat hascii
    rw [Char.ofNat_toNat] at hlow
    rw [h, hlow]
  · rw [lowerChar, if_neg hascii] at h
    split at h
    · rcases List.mem_cons.1 h with rfl | h
      · decide
      · rw [List.mem_singleton.1 h]
        decide +kernel
    · next hdotted =>
      split at h
      · next n hn =>
        rw [List.mem_singleton.1 h]
        exact lowerChar_of_lowerIn hn
      · next hn =>
        rw [List.mem_singleton.1 h, lowerChar, if_neg hascii, if_neg hdotted, hn]

theorem lowerChar_sigma : lowerChar 'Σ' = ['σ'] := by
  decide +kernel

/-! ## Lowercase forms of texts -/

theorem lowerChar_of_mem_lowercaseAfter {before cs : List Char} {d : Char}
    (h : d ∈ lowercaseAfter before cs) : lowerChar d = [d] := by
  induction cs generalizing before with
  | nil => cases h
  | cons c cs ih =>
    rcases List.mem_append.1 h with h | h
    · split at h
      · rw [List.mem_singleton.1 h]
        split <;> decide +kernel
      · exact lowerChar_of_mem h
    · exact ih h

theorem lowercaseAfter_of_lower {before cs : List Char} (h : ∀ c ∈ cs, lowerChar c = [c]) :
    lowercaseAfter before cs = cs := by
  induction cs generalizing before with
  | nil => rfl
  | cons c cs ih =>
    have hc := h c List.mem_cons_self
    have hsigma : c ≠ 'Σ' := by
      rintro rfl
      rw [lowerChar_sigma] at hc
      exact absurd hc (by decide)
    rw [lowercaseAfter, if_neg hsigma, hc, ih fun d hd => h d (List.mem_cons_of_mem c hd)]
    rfl

/-- The lowercase form of a text is its own. -/
theorem lowercase_lowercase (cs : List Char) : lowercase (lowercase cs) = lowercase cs :=
  lowercaseAfter_of_lower fun _ => lowerChar_of_mem_lowercaseAfter

/-! ## The two mappings -/

/-- What becomes of a character of a text in lowercase. -/
inductive Lowered
  /-- A character that both mappings give. -/
  | letter (c : Char)
  /-- A capital sigma that ends a word. -/
  | finalSigma

namespace Lowered

/-- The character without regard to its neighbours. -/
def alone : Lowered → Char
  | letter c => c
  | finalSigma => 'σ'

/-- The character in its text. -/
def inText : Lowered → Char
  | letter c => c
  | finalSigma => 'ς'

def isFinal : Lowered → Bool
  | letter _ => false
  | finalSigma => true

theorem eq_of_alone_of_inText {x y : Lowered} (ha : x.alone = y.alone)
    (ht : x.inText = y.inText) : x = y := by
  cases x with
  | letter c =>
    cases y with
    | letter d => exact congrArg letter ha
    | finalSigma => exact absurd (ha.symm.trans ht) (by decide)
  | finalSigma =>
    cases y with
    | letter d => exact absurd (ha.trans ht.symm) (by decide)
    | finalSigma => rfl

theorem eq_of_isFinal {x y : Lowered} (hs : x.isFinal = y.isFinal)
    (h : x.alone = y.alone ∨ x.inText = y.inText) : x = y := by
  cases x with
  | letter c =>
    cases y with
    | letter d => exact congrArg letter (h.elim id id)
    | finalSigma => cases hs
  | finalSigma =>
    cases y with
    | letter d => cases hs
    | finalSigma => rfl

end Lowered

/-- The rest of a text in lowercase, whose part `before`, nearest character first, is done. -/
def loweredAfter (before : List Char) : List Char → List Lowered
  | [] => []
  | c :: after =>
    (if c = 'Σ' ∧ endsWord before after then [.finalSigma] else (lowerChar c).map .letter) ++
      loweredAfter (c :: before) after

/-- For each character of the lowercase form whether it stands for a capital sigma that ends a
word. -/
def finalSigmas (cs : List Char) : List Bool :=
  (loweredAfter [] cs).map Lowered.isFinal

theorem map_alone_loweredAfter (before cs : List Char) :
    (loweredAfter before cs).map Lowered.alone = foldCase cs := by
  induction cs generalizing before with
  | nil => rfl
  | cons c cs ih =>
    rw [loweredAfter, List.map_append, ih, foldCase, foldCase, List.flatMap_cons]
    congr 1
    split
    · next h =>
      rw [h.1, lowerChar_sigma]
      rfl
    · rw [List.map_map]
      exact List.map_id _

theorem map_inText_loweredAfter (before cs : List Char) :
    (loweredAfter before cs).map Lowered.inText = lowercaseAfter before cs := by
  induction cs generalizing before with
  | nil => rfl
  | cons c cs ih =>
    rw [loweredAfter, List.map_append, ih, lowercaseAfter]
    congr 1
    by_cases hc : c = 'Σ'
    · by_cases he : endsWord before cs = true
      · rw [if_pos ⟨hc, he⟩, if_pos hc, if_pos he]
        rfl
      · rw [if_neg fun h => he h.2, if_pos hc, if_neg he, hc, lowerChar_sigma]
        rfl
    · rw [if_neg fun h => hc h.1, if_neg hc, List.map_map]
      exact List.map_id _

/-- Two views that together tell elements apart tell lists of them apart. -/
theorem eq_of_map_eq {α β γ : Type} {f : α → β} {g : α → γ}
    (hfg : ∀ x y, f x = f y → g x = g y → x = y) {xs ys : List α}
    (hf : xs.map f = ys.map f) (hg : xs.map g = ys.map g) : xs = ys := by
  have hpair : xs.map (fun x => (f x, g x)) = ys.map fun x => (f x, g x) := by
    rw [← List.zip_map', ← List.zip_map', hf, hg]
  refine (List.map_inj_right ?_).1 hpair
  intro x y hxy
  exact hfg x y (Prod.mk.inj hxy).1 (Prod.mk.inj hxy).2

/-- Texts that agree character by character have the same lowercase form if and only if they have
capital sigmas at the ends of words at the same places. -/
theorem lowercase_eq_iff {cs ds : List Char} (h : foldCase cs = foldCase ds) :
    lowercase cs = lowercase ds ↔ finalSigmas cs = finalSigmas ds := by
  rw [← map_alone_loweredAfter [], ← map_alone_loweredAfter []] at h
  rw [lowercase, lowercase, ← map_inText_loweredAfter, ← map_inText_loweredAfter, finalSigmas,
    finalSigmas]
  constructor
  · intro hl
    exact congrArg _ (eq_of_map_eq (fun _ _ => Lowered.eq_of_alone_of_inText) h hl)
  · intro hs
    exact congrArg _ (eq_of_map_eq (fun _ _ ha hf => Lowered.eq_of_isFinal hf (.inl ha)) h hs)

/-- Texts with the same lowercase form agree character by character if and only if they have
capital sigmas at the ends of words at the same places. -/
theorem foldCase_eq_iff {cs ds : List Char} (h : lowercase cs = lowercase ds) :
    foldCase cs = foldCase ds ↔ finalSigmas cs = finalSigmas ds := by
  refine ⟨fun hf => (lowercase_eq_iff hf).1 h, ?_⟩
  intro hs
  rw [lowercase, lowercase, ← map_inText_loweredAfter, ← map_inText_loweredAfter] at h
  rw [← map_alone_loweredAfter [], ← map_alone_loweredAfter []]
  exact congrArg _ (eq_of_map_eq (fun _ _ ht hf => Lowered.eq_of_isFinal hf (.inr ht)) h hs)

end SqlBuffer
