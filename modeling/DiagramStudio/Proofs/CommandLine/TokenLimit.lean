import DiagramStudio.CommandLine.Arguments
import DiagramStudio.Proofs.Text.Numeral
import DiagramStudio.Service.Generator

/-!
# Two readers of one variable

The limit in tokens that the environment holds is read twice: strictly as the value of an argument,
where anything but a number ends the run, and liberally as an option of the generator, where
blanks around a number do not count and anything but a number leaves the standard. Both read a
numeral of 32 bits alike, and nothing else.

## Main definitions

- `IsNumeral`: a number of 32 bits as settings write it
- `IsNegativeZero`: what only the strict reader takes for a number
-/

namespace DiagramStudio

open Text Arguments

/-! ## Numerals of 32 bits -/

/-- A numeral of 32 bits. -/
def IsNumeral (raw : String) : Prop := ∃ n : UInt32, Denotes raw.toList n.toNat

/-- The limit in the environment is absent or a numeral. -/
def Environment.HoldsNumeral (env : Environment) : Prop :=
  ∀ raw, env.find? "DIAGRAM_MAX_TOKENS" = some raw → IsNumeral raw

/-- Zero with a minus sign. -/
def IsNegativeZero (raw : String) : Prop :=
  ∃ zeros, raw.toList = '-' :: zeros ∧ zeros ≠ [] ∧ ∀ c ∈ zeros, c = '0'

/-! ## The strict reader -/

theorem integer?_of_not_minus {t : Text} (h : ∀ rest, t ≠ '-' :: rest) :
    integer? t = (numeral? (Nat.pow 2 63) t).map Int.ofNat := by
  unfold integer?
  split
  · next rest => exact absurd rfl (h rest)
  · rfl

/-- A negative number is read too, but only zero is also a natural number. -/
theorem integer?_minus_eq_some_iff {t : Text} {n : Nat} :
    integer? ('-' :: t) = some (n : Int) ↔ n = 0 ∧ t ≠ [] ∧ ∀ c ∈ t, c = '0' := by
  rw [integer?, Option.map_eq_some_iff]
  simp only [Option.filter_eq_some_iff, digits?_eq_some_iff]
  constructor
  · rintro ⟨m, ⟨⟨hne, hdigits, hvalue⟩, -⟩, hm⟩
    obtain ⟨rfl, rfl⟩ : m = 0 ∧ n = 0 := by omega
    exact ⟨rfl, hne, (digitsValue_eq_zero_iff hdigits).1 hvalue⟩
  · rintro ⟨rfl, hne, hzeros⟩
    have hdigits : ∀ c ∈ t, c.isDigit = true := by
      intro c hc
      rw [hzeros c hc]
      rfl
    exact ⟨0, ⟨⟨hne, hdigits, (digitsValue_eq_zero_iff hdigits).2 hzeros⟩, rfl⟩, rfl⟩

theorem integer?_eq_some_iff {t : Text} {n : Nat} (hn : n < Nat.pow 2 63) :
    integer? t = some (n : Int) ↔
      Denotes t n ∨ n = 0 ∧ ∃ zeros, t = '-' :: zeros ∧ zeros ≠ [] ∧ ∀ c ∈ zeros, c = '0' := by
  by_cases hminus : ∃ rest, t = '-' :: rest
  · obtain ⟨rest, rfl⟩ := hminus
    simp [integer?_minus_eq_some_iff, not_denotes_minus]
  · rw [not_exists] at hminus
    have hnever : ¬ ∃ zeros, t = '-' :: zeros ∧ zeros ≠ [] ∧ ∀ c ∈ zeros, c = '0' :=
      fun ⟨zeros, ht, _⟩ => hminus zeros ht
    rw [integer?_of_not_minus hminus, Option.map_eq_some_iff]
    constructor
    · rintro ⟨m, hm, hcast⟩
      obtain rfl := Int.ofNat.inj hcast
      exact .inl (numeral?_eq_some_iff.1 hm).1
    · rintro (h | ⟨-, h⟩)
      · exact ⟨n, numeral?_eq_some_iff.2 ⟨h, hn⟩, rfl⟩
      · exact absurd h hnever

theorem tokenLimit?_eq_some_iff_integer? {raw : String} {n : UInt32} :
    tokenLimit? raw = some n ↔ integer? raw.toList = some (n.toNat : Int) := by
  have hlt := n.toNat_lt
  rw [tokenLimit?]
  constructor
  · intro h
    split at h
    · next z hz =>
      split at h
      · next hrange =>
        obtain rfl := Option.some.inj h
        have hz' : z.toNat < 2 ^ 32 := by
          have := hrange.2
          change z < 4294967296 at this
          omega
        rw [hz, UInt32.toNat_ofNat_of_lt' hz', Int.toNat_of_nonneg hrange.1]
      · simp at h
    · simp at h
  · intro h
    rw [h]
    have hrange : 0 ≤ (n.toNat : Int) ∧ (n.toNat : Int) < Int.pow 2 32 := by
      change 0 ≤ (n.toNat : Int) ∧ (n.toNat : Int) < 4294967296
      omega
    dsimp only
    rw [if_pos hrange, Int.toNat_natCast, UInt32.ofNat_toNat]

/-- The strict reader takes a numeral, or zero with a minus sign. -/
theorem tokenLimit?_eq_some_iff {raw : String} {n : UInt32} :
    tokenLimit? raw = some n ↔ Denotes raw.toList n.toNat ∨ n = 0 ∧ IsNegativeZero raw := by
  have hlt : n.toNat < Nat.pow 2 63 := Nat.lt_trans n.toNat_lt (by decide)
  rw [tokenLimit?_eq_some_iff_integer?, integer?_eq_some_iff hlt, IsNegativeZero,
    ← UInt32.toNat_inj]
  rfl

theorem tokenLimit?_eq_none_iff {raw : String} :
    tokenLimit? raw = none ↔ ¬ IsNumeral raw ∧ ¬ IsNegativeZero raw := by
  simp only [Option.eq_none_iff_forall_ne_some, ne_eq, tokenLimit?_eq_some_iff, not_or, not_and,
    IsNumeral, not_exists]
  constructor
  · intro h
    exact ⟨fun n => (h n).1, (h 0).2 rfl⟩
  · rintro ⟨hnumeral, hzero⟩ n
    exact ⟨hnumeral n, fun _ => hzero⟩

/-! ## The liberal reader -/

variable {env : Environment} {raw : String}

theorem Denotes.resolve (hraw : env.find? "DIAGRAM_MAX_TOKENS" = some raw) {n : UInt32}
    (h : Denotes raw.toList n.toNat) : (Options.resolve env.settings).maxTokens = n := by
  have hsetting : env.settings "DIAGRAM_MAX_TOKENS" = some raw := by
    rw [Environment.settings, hraw]
    simp [h.not_blank]
  have hnumeral : numeral? (Nat.pow 2 32) (trim raw.toList) = some n.toNat := by
    rw [trim_of_ink fun _ hc => h.ink hc, numeral?_eq_some_iff]
    exact ⟨h, n.toNat_lt⟩
  rw [Options.resolve]
  dsimp only
  rw [Lookup.numberOr, hsetting, Option.bind_some, hnumeral, Option.getD_some, UInt32.ofNat_toNat]

/-- Anything but a number leaves the standard. -/
theorem resolve_of_not_denotes (hraw : env.find? "DIAGRAM_MAX_TOKENS" = some raw)
    (h : ∀ n : Nat, ¬ Denotes (trim raw.toList) n) :
    (Options.resolve env.settings).maxTokens = Options.standard.maxTokens := by
  have hnumeral : numeral? (Nat.pow 2 32) (trim raw.toList) = none := by
    rw [Option.eq_none_iff_forall_ne_some]
    intro n hn
    exact h n (numeral?_eq_some_iff.1 hn).1
  have hsetting : (env.settings "DIAGRAM_MAX_TOKENS").bind
      (fun raw => numeral? (Nat.pow 2 32) (trim raw.toList)) = none := by
    rw [Environment.settings, hraw, Option.filter_some]
    split
    · exact hnumeral
    · rfl
  rw [Options.resolve]
  dsimp only
  rw [Lookup.numberOr, hsetting, Option.getD_none, UInt32.ofNat_toNat]

theorem IsNegativeZero.resolve (hraw : env.find? "DIAGRAM_MAX_TOKENS" = some raw)
    (h : IsNegativeZero raw) :
    (Options.resolve env.settings).maxTokens = Options.standard.maxTokens := by
  obtain ⟨zeros, ht, -, hzeros⟩ := h
  have hink : ∀ c ∈ raw.toList, isBlank c = false := by
    rw [ht, List.forall_mem_cons]
    refine ⟨by decide, fun c hc => ?_⟩
    rw [hzeros c hc]
    decide
  apply resolve_of_not_denotes hraw
  rw [trim_of_ink hink, ht]
  exact fun n => not_denotes_minus

/-- Both readers of the variable find the same limit in a numeral, and in nothing else. -/
theorem tokenLimit?_eq_resolve_iff (hraw : env.find? "DIAGRAM_MAX_TOKENS" = some raw) :
    tokenLimit? raw = some (Options.resolve env.settings).maxTokens ↔ IsNumeral raw := by
  rw [tokenLimit?_eq_some_iff]
  constructor
  · rintro (hdenotes | ⟨hzero, hminus⟩)
    · exact ⟨_, hdenotes⟩
    · rw [hminus.resolve hraw] at hzero
      exact absurd hzero (by decide)
  · rintro ⟨n, hdenotes⟩
    rw [hdenotes.resolve hraw]
    exact .inl hdenotes

/-- A blank keeps a numeral from the strict reader, but not from the liberal one. -/
example :
    let env : Environment := [("DIAGRAM_MAX_TOKENS", " 256")]
    tokenLimit? " 256" = none ∧ (Options.resolve env.settings).maxTokens = 256 := by
  decide +kernel

end DiagramStudio
