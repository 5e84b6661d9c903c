import DiagramStudio.Json.Printer
import DiagramStudio.Proofs.Json.Spelling

/-!
# Numbers and strings as they are written

What is written for a number or a string is spelled by the grammar, and spells that number or
string.
-/

namespace DiagramStudio

namespace Text

theorem digitsValue_decimal (n : Nat) : digitsValue (decimal n) = n :=
  Nat.ofDigitChars_ten_toDigits

theorem isDigit_of_mem_decimal {n : Nat} {c : Char} (h : c ∈ decimal n) : c.isDigit = true :=
  Nat.isDigit_of_mem_toDigits (by decide) (by decide) h

theorem decimal_ne_nil (n : Nat) : decimal n ≠ [] := Nat.toDigits_ne_nil

theorem exists_decimal_eq_cons (n : Nat) : ∃ c t, decimal n = c :: t ∧ c.isDigit = true := by
  obtain ⟨c, t, h⟩ := List.exists_cons_of_ne_nil (decimal_ne_nil n)
  exact ⟨c, t, h, isDigit_of_mem_decimal (h ▸ List.mem_cons_self ..)⟩

/-- No number but zero starts with a zero. -/
theorem head?_decimal {n : Nat} (hn : 0 < n) : (decimal n).head? ≠ some '0' := by
  induction n using Nat.strongRecOn with
  | ind n ih =>
    rw [decimal, Nat.toDigits_eq_if (by decide)]
    split
    · next hlt =>
      rw [List.head?_cons, Ne, Option.some.injEq, Nat.digitChar_eq_zero]
      omega
    · next hge =>
      -- The last digit does not matter: others stand before it.
      have hfront := ih (n / 10) (by omega) (by omega)
      obtain ⟨c, t, h, -⟩ := exists_decimal_eq_cons (n / 10)
      rw [decimal] at h hfront
      rw [h] at hfront ⊢
      exact hfront

end Text

namespace Json

open Text

/-! ## Numbers -/

theorem isDigits_decimal (n : Nat) : IsDigits (decimal n) where
  ne_nil := decimal_ne_nil n
  digit _ := isDigit_of_mem_decimal

theorem spellsWhole_decimal (n : Nat) : SpellsWhole (decimal n) where
  toIsDigits := isDigits_decimal n
  zero hhead := by
    rcases Nat.eq_zero_or_pos n with rfl | hn
    · rfl
    · exact absurd hhead (head?_decimal hn)

/-- An exponent is written with its sign, if that is a minus. -/
theorem spellsExponent_write (exponent : Int) :
    SpellsExponent ('e' :: ((if exponent < 0 then ['-'] else []) ++ decimal exponent.natAbs))
      (some exponent) := by
  have hdigits := isDigits_decimal exponent.natAbs
  split
  · next hneg =>
    have h := SpellsExponent.minus (.inl rfl) hdigits
    have hvalue : -(exponent.natAbs : Int) = exponent := by omega
    rwa [digitsValue_decimal, hvalue] at h
  · next hneg =>
    have h := SpellsExponent.unsigned (.inl rfl) hdigits
    have hvalue : (exponent.natAbs : Int) = exponent := by omega
    rwa [digitsValue_decimal, hvalue] at h

theorem Number.spellsNumber_write (n : Number) : SpellsNumber n.write n := by
  cases n with
  | whole n =>
    have h := SpellsNumber.mk .absent (spellsWhole_decimal n) .absent .absent
    simpa [write, ofParts, digitsValue_decimal] using h
  | decimal negative coefficient exponent =>
    have hsign : SpellsSign (if negative then ['-'] else []) negative := by
      cases negative with
      | true => exact .minus
      | false => exact .absent
    have h := SpellsNumber.mk hsign (spellsWhole_decimal coefficient) .absent
      (spellsExponent_write exponent)
    simpa [write, ofParts, digitsValue_decimal] using h

/-! ## Strings -/

/-- A unit that stands for one character on its own. -/
def Spells (u : StringUnit) (c : Char) : Prop :=
  ∀ units, unitsText? (u :: units) = (unitsText? units).map (c :: ·)

theorem spells_char (c : Char) : Spells (.char c) c := fun _ => rfl

/-- A control character is no half of a surrogate pair. -/
theorem spells_code {c : Char} (hc : c.toNat < 0x20) : Spells (.code c.toNat) c := by
  have hhigh : isHighSurrogate c.toNat = false := by
    rw [isHighSurrogate, Bool.and_eq_false_imp, decide_eq_true_eq]
    omega
  have hlow : isLowSurrogate c.toNat = false := by
    rw [isLowSurrogate, Bool.and_eq_false_imp, decide_eq_true_eq]
    omega
  intro units
  match units with
  | [] => simp [unitsText?, hhigh, hlow]
  | .char _ :: _ => simp [unitsText?, hhigh, hlow]
  | .code _ :: _ => simp [unitsText?, hhigh, hlow]

theorem hexValue?_digitChar {n : Nat} (h : n < 16) : hexValue? (Nat.digitChar n) = some n := by
  have all : ∀ n < 16, hexValue? (Nat.digitChar n) = some n := by decide
  exact all n h

theorem codeUnit?_hexPair {n : Nat} (h : n < 0x100) :
    codeUnit? '0' '0' (Nat.digitChar (n / 16)) (Nat.digitChar (n % 16)) = some n := by
  have hzero : hexValue? '0' = some 0 := by decide
  rw [codeUnit?, hzero, hexValue?_digitChar (by omega), hexValue?_digitChar (by omega)]
  simp only [Option.some.injEq]
  omega

/-- What is written for a character is one unit, which stands for it. -/
theorem exists_spells_escapeChar (c : Char) :
    ∃ unit, Spells unit c ∧ ∀ {t units}, SpellsUnits t units →
      SpellsUnits (escapeChar c ++ t) (unit :: units) := by
  rw [escapeChar]
  -- Seven characters are written as a backslash and a letter or sign.
  iterate 7
    split
    · next h =>
      refine ⟨.char c, spells_char c, .escape ?_⟩
      rw [h]
      rfl
  split
  · next h => exact ⟨.code c.toNat, spells_code h, .code (codeUnit?_hexPair (by omega))⟩
  · next hquote hbackslash _ _ _ _ _ hcontrol =>
    exact ⟨.char c, spells_char c, .char hquote hbackslash hcontrol⟩

theorem spellsString_writeString (s : String) : SpellsString (writeString s) (some s) := by
  have hunits : ∀ t : Text, ∃ units, SpellsUnits (t.flatMap escapeChar) units ∧
      unitsText? units = some t := by
    intro t
    induction t with
    | nil => exact ⟨[], .nil, rfl⟩
    | cons c t ih =>
      obtain ⟨units, hspells, htext⟩ := ih
      obtain ⟨unit, hunit, hescape⟩ := exists_spells_escapeChar c
      refine ⟨unit :: units, hescape hspells, ?_⟩
      rw [hunit units, htext]
      rfl
  obtain ⟨units, hspells, htext⟩ := hunits s.toList
  refine ⟨_, units, hspells, rfl, ?_⟩
  rw [htext, Option.map_some, String.ofList_toList]

end Json

end DiagramStudio
