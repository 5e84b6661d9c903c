import DiagramStudio.Text.Alphanumeric
import DiagramStudio.Text.Blank

/-!
# Blanks, words and trimmed texts

Blank characters are no part of words. A trimmed text starts and ends with characters that are not
blank, and a text is its trimmed part between two runs of blanks.
-/

namespace DiagramStudio.Text

/-- First and last code points of the ranges of blank characters. -/
def blankRanges : List (Nat × Nat) :=
  [(0x9, 0xD), (0x20, 0x20), (0x85, 0x85), (0xA0, 0xA0), (0x1680, 0x1680), (0x2000, 0x200A),
    (0x2028, 0x2029), (0x202F, 0x202F), (0x205F, 0x205F), (0x3000, 0x3000)]

theorem exists_blankRange {c : Char} (h : isBlank c = true) :
    ∃ range ∈ blankRanges, range.1 ≤ c.toNat ∧ c.toNat ≤ range.2 := by
  simp only [isBlank, Bool.or_eq_true, Bool.and_eq_true, decide_eq_true_eq, beq_iff_eq] at h
  simp only [blankRanges, List.mem_cons, List.not_mem_nil, or_false, exists_eq_or_imp,
    exists_eq_left]
  omega

/-- Blanks are no letters or digits. -/
theorem isAlphanumeric_of_isBlank {c : Char} (h : isBlank c = true) : isAlphanumeric c = false := by
  obtain ⟨blanks, hb, hlo, hhi⟩ := exists_blankRange h
  rw [isAlphanumeric]
  split
  · next hc =>
    have ascii : ∀ n < 0x80, (∃ range ∈ blankRanges, range.1 ≤ n ∧ n ≤ range.2) →
        (Char.ofNat n).isAlphanum = false := by decide
    have := ascii c.toNat hc ⟨blanks, hb, hlo, hhi⟩
    rwa [Char.ofNat_toNat] at this
  · have apart : alphanumericRanges.all (fun range => blankRanges.all fun blanks =>
        Nat.blt range.2 blanks.1 || Nat.blt blanks.2 range.1) = true := by decide +kernel
    rw [List.any_eq_false]
    intro range hr
    have := List.all_eq_true.1 (List.all_eq_true.1 apart range hr) blanks hb
    simp only [Bool.or_eq_true, Nat.blt_eq] at this
    simp only [Bool.and_eq_true, decide_eq_true_eq, not_and]
    omega

/-- Blanks end words. -/
theorem isWordChar_of_isBlank {c : Char} (h : isBlank c = true) : isWordChar c = false := by
  have hc : c ≠ '_' := by
    rintro rfl
    exact absurd h (by decide)
  simp [isWordChar, isAlphanumeric_of_isBlank h, hc]

theorem isBlank_space : isBlank ' ' = true := by decide

theorem isBlank_newline : isBlank '\n' = true := by decide

theorem blank_append_singleton {w : Text} (hw : ∀ c ∈ w, isBlank c = true) {c : Char}
    (hc : isBlank c = true) : ∀ c' ∈ w ++ [c], isBlank c' = true := by
  intro c' hc'
  rcases List.mem_append.1 hc' with hc' | hc'
  · exact hw c' hc'
  · rwa [List.mem_singleton.1 hc']

/-! ## Trimming -/

/-- A text that neither starts nor ends with a blank. -/
structure Trimmed (t : Text) : Prop where
  head : ∀ c, t.head? = some c → isBlank c = false
  last : ∀ c, t.getLast? = some c → isBlank c = false

theorem Trimmed.of_ends {t : Text} {a b : Char} (ha : t.head? = some a) (hia : isBlank a = false)
    (hb : t.getLast? = some b) (hib : isBlank b = false) : Trimmed t where
  head c hc := by
    obtain rfl : a = c := Option.some.inj (ha.symm.trans hc)
    exact hia
  last c hc := by
    obtain rfl : b = c := Option.some.inj (hb.symm.trans hc)
    exact hib

theorem trimStart_blank_append {w : Text} (hw : ∀ c ∈ w, isBlank c = true) (t : Text) :
    trimStart (w ++ t) = trimStart t := by
  induction w with
  | nil => rfl
  | cons c w ih =>
    have hc := hw c (List.mem_cons_self ..)
    rw [← ih fun c' hc' => hw c' (List.mem_cons_of_mem c hc')]
    simp [trimStart, hc]

theorem trimStart_of_head {t : Text} (h : ∀ c, t.head? = some c → isBlank c = false) :
    trimStart t = t := by
  cases t with
  | nil => rfl
  | cons c t => simp [trimStart, h c rfl]

theorem takeWhile_blank_append {w t : Text} (hw : ∀ c ∈ w, isBlank c = true)
    (ht : ∀ c, t.head? = some c → isBlank c = false) : (w ++ t).takeWhile isBlank = w := by
  rw [List.takeWhile_append_of_pos hw]
  cases t with
  | nil => rw [List.takeWhile_nil, List.append_nil]
  | cons c t => simp [ht c rfl]

theorem trimEnd_append_blank {w : Text} (hw : ∀ c ∈ w, isBlank c = true) (t : Text) :
    trimEnd (t ++ w) = trimEnd t :=
  dropTrailing_append_of_forall hw t

theorem trimEnd_of_last {t : Text} (h : ∀ c, t.getLast? = some c → isBlank c = false) :
    trimEnd t = t :=
  dropTrailing_of_last h

/-- The last character that is no blank, after one more character. -/
theorem getLast?_trimEnd_append_singleton (t : Text) (c : Char) :
    (trimEnd (t ++ [c])).getLast? = if isBlank c then (trimEnd t).getLast? else some c := by
  by_cases hb : isBlank c = true
  · rw [if_pos hb, trimEnd_append_blank (by simpa using hb)]
  · rw [if_neg hb, trimEnd_of_last (by simpa using hb), List.getLast?_concat]

theorem trimStart_of_blank {w : Text} (hw : ∀ c ∈ w, isBlank c = true) : trimStart w = [] := by
  simpa [trimStart] using trimStart_blank_append hw []

/-- The part between two runs of blanks. -/
theorem trim_append {w x v : Text} (hw : ∀ c ∈ w, isBlank c = true)
    (hv : ∀ c ∈ v, isBlank c = true) (hx : Trimmed x) : trim (w ++ (x ++ v)) = x := by
  rw [trim, trimStart_blank_append hw]
  cases x with
  | nil =>
    rw [List.nil_append, trimStart_of_blank hv]
    rfl
  | cons c x =>
    rw [trimStart_of_head (by simpa using hx.head), trimEnd_append_blank hv,
      trimEnd_of_last hx.last]

theorem Trimmed.trim_eq {t : Text} (h : Trimmed t) : trim t = t := by
  simpa using trim_append (w := []) (v := []) (by simp) (by simp) h

theorem trimmed_of_ink {t : Text} (h : ∀ c ∈ t, isBlank c = false) : Trimmed t :=
  ⟨fun c hc => h c (List.mem_of_head? hc), fun c hc => h c (List.mem_of_getLast? hc)⟩

theorem trim_of_ink {t : Text} (h : ∀ c ∈ t, isBlank c = false) : trim t = t :=
  (trimmed_of_ink h).trim_eq

theorem Trimmed.append {t u : Text} (ht : Trimmed t) (hne : t ≠ [])
    (hu : ∀ c, u.getLast? = some c → isBlank c = false) : Trimmed (t ++ u) := by
  refine ⟨?_, ?_⟩
  · intro c hc
    obtain ⟨d, t, rfl⟩ := List.exists_cons_of_ne_nil hne
    exact ht.head c hc
  · intro c hc
    rw [List.getLast?_append] at hc
    cases hlast : u.getLast? with
    | none =>
      rw [hlast, Option.none_or] at hc
      exact ht.last c hc
    | some d =>
      rw [hlast, Option.some_or] at hc
      exact hu c (hlast.trans hc)

theorem exists_trimStart (t : Text) :
    ∃ w, (∀ c ∈ w, isBlank c = true) ∧ t = w ++ trimStart t ∧
      ∀ c, (trimStart t).head? = some c → isBlank c = false := by
  refine ⟨t.takeWhile isBlank, ?_, (List.takeWhile_append_dropWhile ..).symm, ?_⟩
  · intro c hc
    exact List.all_eq_true.1 (List.all_takeWhile ..) c hc
  · intro c hc
    have := List.head?_dropWhile_not isBlank t
    rw [trimStart] at hc
    simpa [hc] using this

theorem exists_trimEnd (t : Text) :
    ∃ v, (∀ c ∈ v, isBlank c = true) ∧ t = trimEnd t ++ v ∧
      ∀ c, (trimEnd t).getLast? = some c → isBlank c = false := by
  obtain ⟨v, hv, ht⟩ := exists_dropTrailing isBlank t
  exact ⟨v, hv, ht, fun _ hc => getLast?_dropTrailing hc⟩

/-- A text is its trimmed part between two runs of blanks. -/
theorem exists_trim (t : Text) :
    ∃ w v, (∀ c ∈ w, isBlank c = true) ∧ (∀ c ∈ v, isBlank c = true) ∧
      t = w ++ (trim t ++ v) ∧ Trimmed (trim t) := by
  obtain ⟨w, hw, ht, hhead⟩ := exists_trimStart t
  obtain ⟨v, hv, hs, hlast⟩ := exists_trimEnd (trimStart t)
  refine ⟨w, v, hw, hv, by rw [trim, ← hs, ← ht], ?_, hlast⟩
  intro c hc
  apply hhead c
  rw [trim] at hc
  rw [hs, List.head?_append, hc]
  rfl

/-- Leading blanks are trimmed away. -/
theorem trim_blank_append {w : Text} (hw : ∀ c ∈ w, isBlank c = true) (t : Text) :
    trim (w ++ t) = trim t := by
  rw [trim, trimStart_blank_append hw, trim]

/-- Trailing blanks are trimmed away. -/
theorem trim_append_blank {v : Text} (hv : ∀ c ∈ v, isBlank c = true) (t : Text) :
    trim (t ++ v) = trim t := by
  obtain ⟨w, v', hw, hv', ht, htrim⟩ := exists_trim t
  have hvv : ∀ c ∈ v' ++ v, isBlank c = true := by
    intro c hc
    rcases List.mem_append.1 hc with hc | hc
    · exact hv' c hc
    · exact hv c hc
  have := trim_append hw hvv htrim
  rwa [← List.append_assoc (trim t), ← List.append_assoc w, ← ht] at this

theorem trimmed_trim (t : Text) : Trimmed (trim t) := by
  obtain ⟨_, _, _, _, _, h⟩ := exists_trim t
  exact h

theorem trimEnd_isInfix (t : Text) : trimEnd t <:+: t := by
  obtain ⟨v, -, ht, -⟩ := exists_trimEnd t
  exact ⟨[], v, by simpa using ht.symm⟩

theorem trim_isInfix (t : Text) : trim t <:+: t := by
  obtain ⟨w, v, -, -, ht, -⟩ := exists_trim t
  exact ⟨w, v, by simpa using ht.symm⟩

theorem trim_of_blank {w : Text} (hw : ∀ c ∈ w, isBlank c = true) : trim w = [] := by
  rw [trim, trimStart_of_blank hw]
  rfl

theorem blank_of_trim_eq_nil {t : Text} (h : trim t = []) : ∀ c ∈ t, isBlank c = true := by
  obtain ⟨w, v, hw, hv, ht, -⟩ := exists_trim t
  rw [h, List.nil_append] at ht
  intro c hc
  rw [ht] at hc
  rcases List.mem_append.1 hc with hc | hc
  · exact hw c hc
  · exact hv c hc

end DiagramStudio.Text
