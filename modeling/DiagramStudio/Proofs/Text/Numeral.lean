import DiagramStudio.Proofs.Text.Blank
import DiagramStudio.Text.Numeral

/-!
# Numerals in settings

The texts that denote a whole number, said without a reader, and what the reader of numerals takes
for a number.

## Main definitions

- `Denotes`: digits after at most one plus sign, with the number they stand for
-/

namespace DiagramStudio

open Text

/-- Digits after at most one plus sign, which denote a number. -/
def Denotes (t : Text) (n : Nat) : Prop :=
  ∃ digits, (t = digits ∨ t = '+' :: digits) ∧ digits ≠ [] ∧ (∀ c ∈ digits, c.isDigit = true) ∧
    digitsValue digits = n

theorem digits?_eq_some_iff {t : Text} {n : Nat} :
    digits? t = some n ↔ t ≠ [] ∧ (∀ c ∈ t, c.isDigit = true) ∧ digitsValue t = n := by
  rw [digits?]
  simp [and_assoc]

theorem denotes_plus_cons_iff {t : Text} {n : Nat} :
    Denotes ('+' :: t) n ↔ t ≠ [] ∧ (∀ c ∈ t, c.isDigit = true) ∧ digitsValue t = n := by
  constructor
  · rintro ⟨digits, rfl | h, hne, hdigits, hvalue⟩
    · exact absurd (hdigits '+' (List.mem_cons_self ..)) (by decide)
    · obtain rfl := (List.cons.inj h).2
      exact ⟨hne, hdigits, hvalue⟩
  · rintro ⟨hne, hdigits, hvalue⟩
    exact ⟨t, .inr rfl, hne, hdigits, hvalue⟩

theorem denotes_iff_of_not_plus {t : Text} (h : ∀ rest, t ≠ '+' :: rest) {n : Nat} :
    Denotes t n ↔ t ≠ [] ∧ (∀ c ∈ t, c.isDigit = true) ∧ digitsValue t = n := by
  constructor
  · rintro ⟨digits, rfl | rfl, hne, hdigits, hvalue⟩
    · exact ⟨hne, hdigits, hvalue⟩
    · exact absurd rfl (h digits)
  · rintro ⟨hne, hdigits, hvalue⟩
    exact ⟨t, .inl rfl, hne, hdigits, hvalue⟩

theorem numeral?_eq_some_iff {bound : Nat} {t : Text} {n : Nat} :
    numeral? bound t = some n ↔ Denotes t n ∧ n < bound := by
  unfold numeral?
  split
  · rw [Option.filter_eq_some_iff, digits?_eq_some_iff, denotes_plus_cons_iff, decide_eq_true_eq]
  · next h =>
    rw [Option.filter_eq_some_iff, digits?_eq_some_iff, denotes_iff_of_not_plus fun rest => h rest,
      decide_eq_true_eq]

theorem numeral?_eq_none_iff {bound : Nat} {t : Text} :
    numeral? bound t = none ↔ ∀ n, Denotes t n → bound ≤ n := by
  simp only [Option.eq_none_iff_forall_ne_some, ne_eq, numeral?_eq_some_iff, not_and, Nat.not_lt]

theorem toNat_of_isDigit {c : Char} (h : c.isDigit = true) : 48 ≤ c.toNat ∧ c.toNat ≤ 57 :=
  Char.isDigit_iff_toNat.1 h

theorem isBlank_of_isDigit {c : Char} (h : c.isDigit = true) : isBlank c = false := by
  have hrange := toNat_of_isDigit h
  simp [isBlank]
  omega

/-- There is no blank in a numeral. -/
theorem Denotes.ink {t : Text} {n : Nat} (h : Denotes t n) {c : Char} (hc : c ∈ t) :
    isBlank c = false := by
  obtain ⟨digits, rfl | rfl, -, hdigits, -⟩ := h
  · exact isBlank_of_isDigit (hdigits c hc)
  · rcases List.mem_cons.1 hc with rfl | hc
    · decide
    · exact isBlank_of_isDigit (hdigits c hc)

theorem Denotes.ne_nil {t : Text} {n : Nat} (h : Denotes t n) : t ≠ [] := by
  obtain ⟨digits, rfl | rfl, hne, -, -⟩ := h
  · exact hne
  · exact List.cons_ne_nil _ _

theorem Denotes.not_blank {t : Text} {n : Nat} (h : Denotes t n) : blank t = false := by
  obtain ⟨c, rest, ht⟩ := List.exists_cons_of_ne_nil h.ne_nil
  rw [blank, List.all_eq_false]
  exact ⟨c, by simp [ht], by simp [h.ink (c := c) (by simp [ht])]⟩

/-- A text that starts with a minus sign is no numeral. -/
theorem not_denotes_minus {t : Text} {n : Nat} : ¬ Denotes ('-' :: t) n := by
  rintro ⟨digits, rfl | h, -, hdigits, -⟩
  · exact absurd (hdigits '-' (List.mem_cons_self ..)) (by decide)
  · exact absurd (List.cons.inj h).1 (by decide)

theorem digitsValue_eq_zero_iff {t : Text} (h : ∀ c ∈ t, c.isDigit = true) :
    digitsValue t = 0 ↔ ∀ c ∈ t, c = '0' := by
  -- The digits read so far stand for `n`.
  have hfrom : ∀ n, t.foldl (fun n c => 10 * n + (c.toNat - 48)) n = 0 ↔
      n = 0 ∧ ∀ c ∈ t, c = '0' := by
    induction t with
    | nil => simp
    | cons c t ih =>
      rw [List.forall_mem_cons] at h
      have hrange := toNat_of_isDigit h.1
      have hzero : c.toNat - 48 = 0 ↔ c = '0' := by
        rw [← Char.toNat_inj]
        change _ ↔ c.toNat = 48
        omega
      intro n
      have htens : 10 * n = 0 ↔ n = 0 := by omega
      rw [List.foldl_cons, ih h.2, Nat.add_eq_zero_iff, htens, hzero, List.forall_mem_cons,
        and_assoc]
  rw [digitsValue, hfrom]
  simp

end DiagramStudio
