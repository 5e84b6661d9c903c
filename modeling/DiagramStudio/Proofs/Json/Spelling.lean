import DiagramStudio.Json.Reader

/-!
# The spelling of strings and numbers

The grammar of the scalars of JSON, and the readers against it. A reader takes a scalar off the
front of a text. What it takes is spelled by the grammar, and what the grammar spells it takes as a
whole, if what follows does not go on with it.

## Main definitions

- `Json.SpellsUnits`: the units of a string between its quotes
- `Json.SpellsString`: strings with their quotes
- `Json.SpellsNumber`: numbers
- `Json.EndsNumber`: texts that do not go on with a number before them
-/

namespace DiagramStudio.Json

open Text

/-- One part read in front of others. -/
theorem exists_of_map_cons {α β : Type} {o : Option (List α × β)} {a : α} {l : List α} {b : β}
    (h : (o.map fun read => (a :: read.1, read.2)) = some (l, b)) :
    ∃ later, l = a :: later ∧ o = some (later, b) := by
  obtain ⟨⟨later, b'⟩, ho, heq⟩ := Option.map_eq_some_iff.1 h
  obtain ⟨rfl, rfl⟩ := Prod.mk.inj heq
  exact ⟨later, rfl, ho⟩

/-! ## Strings -/

/-- The units of a string between its quotes: characters, escaped characters and code units. -/
inductive SpellsUnits : Text → List StringUnit → Prop
  | nil : SpellsUnits [] []
  | char {c : Char} {t : Text} {units : List StringUnit} (hquote : c ≠ '\x22')
      (hbackslash : c ≠ '\x5c') (hcontrol : ¬ c.toNat < 0x20) (h : SpellsUnits t units) :
      SpellsUnits (c :: t) (.char c :: units)
  | escape {c e : Char} {t : Text} {units : List StringUnit} (he : escaped? c = some e)
      (h : SpellsUnits t units) : SpellsUnits ('\x5c' :: c :: t) (.char e :: units)
  | code {a b c d : Char} {u : Nat} {t : Text} {units : List StringUnit}
      (hu : codeUnit? a b c d = some u) (h : SpellsUnits t units) :
      SpellsUnits ('\x5c' :: 'u' :: a :: b :: c :: d :: t) (.code u :: units)

/-- A string with its quotes, and the text that its units stand for. -/
def SpellsString (t : Text) (s : Option String) : Prop :=
  ∃ u units, SpellsUnits u units ∧ t = '\x22' :: (u ++ ['\x22']) ∧
    s = (unitsText? units).map String.ofList

/-- A character that needs no escape is read as it is. -/
theorem stringUnits?_cons {c : Char} (hquote : c ≠ '\x22') (hbackslash : c ≠ '\x5c')
    (hcontrol : ¬ c.toNat < 0x20) (t : Text) :
    stringUnits? (c :: t) = (stringUnits? t).map fun read => (.char c :: read.1, read.2) := by
  rw [stringUnits?.eq_def]
  split
  · next h => simp at h
  · next h => exact absurd (List.cons.inj h).1 hquote
  · next h => exact absurd (List.cons.inj h).1 hbackslash
  · next h => exact absurd (List.cons.inj h).1 hbackslash
  · next h =>
    obtain ⟨rfl, rfl⟩ := List.cons.inj h
    rw [if_neg hcontrol]

/-- An escape other than that of a code unit is one character. -/
theorem stringUnits?_escape {c e : Char} (he : escaped? c = some e) (t : Text) :
    stringUnits? ('\x5c' :: c :: t) =
      (stringUnits? t).map fun read => (.char e :: read.1, read.2) := by
  have hu : c ≠ 'u' := by
    rintro rfl
    have hnone : escaped? 'u' = none := by decide
    rw [hnone] at he
    simp at he
  rw [stringUnits?.eq_def]
  split
  · next h => simp at h
  · next h => exact absurd (List.cons.inj h).1 (by decide)
  · next h => exact absurd (List.cons.inj (List.cons.inj h).2).1 hu
  · next h =>
    obtain ⟨rfl, rfl⟩ := List.cons.inj (List.cons.inj h).2
    rw [he]
  · next hother h =>
    obtain ⟨rfl, rfl⟩ := List.cons.inj h
    exact absurd rfl (hother c t rfl)

theorem SpellsUnits.stringUnits?_append {u : Text} {units : List StringUnit}
    (h : SpellsUnits u units) (rest : Text) :
    stringUnits? (u ++ '\x22' :: rest) = some (units, rest) := by
  induction h with
  | nil => rfl
  | char hquote hbackslash hcontrol _ ih =>
    rw [List.cons_append, stringUnits?_cons hquote hbackslash hcontrol, ih]
    rfl
  | escape he _ ih =>
    rw [List.cons_append, List.cons_append, stringUnits?_escape he, ih]
    rfl
  | code hu _ ih =>
    simp only [List.cons_append, stringUnits?, hu, ih]
    rfl

theorem exists_spellsUnits {t rest : Text} {units : List StringUnit}
    (h : stringUnits? t = some (units, rest)) :
    ∃ u, SpellsUnits u units ∧ t = u ++ '\x22' :: rest := by
  fun_induction stringUnits? t generalizing units with
  | case1 => simp at h
  | case2 t =>
    obtain ⟨rfl, rfl⟩ := Prod.mk.inj (Option.some.inj h)
    exact ⟨[], .nil, rfl⟩
  | case3 a b c d t v hv ih =>
    obtain ⟨later, rfl, hread⟩ := exists_of_map_cons h
    obtain ⟨u, hu, rfl⟩ := ih hread
    exact ⟨_, .code hv hu, rfl⟩
  | case4 => simp at h
  | case5 c t _ e he ih =>
    obtain ⟨later, rfl, hread⟩ := exists_of_map_cons h
    obtain ⟨u, hu, rfl⟩ := ih hread
    exact ⟨_, .escape he hu, rfl⟩
  | case6 => simp at h
  | case7 => simp at h
  | case8 c t hquote hcode hescape hcontrol ih =>
    obtain ⟨later, rfl, hread⟩ := exists_of_map_cons h
    obtain ⟨u, hu, rfl⟩ := ih hread
    -- A backslash would have been read as an escape: some character follows it.
    have hbackslash : c ≠ '\x5c' := by
      intro hc
      obtain ⟨d, v, hd⟩ := List.exists_cons_of_ne_nil (l := u ++ '\x22' :: rest) (by simp)
      exact hescape d v hc hd
    exact ⟨_, .char hquote hbackslash hcontrol hu, rfl⟩

theorem exists_spellsString {t rest : Text} {s : Option String}
    (h : readString? t = some (s, rest)) :
    ∃ u, SpellsString ('\x22' :: u) s ∧ t = u ++ rest := by
  obtain ⟨⟨units, t'⟩, hunits, heq⟩ := Option.map_eq_some_iff.1 h
  obtain ⟨rfl, rfl⟩ := Prod.mk.inj heq
  obtain ⟨u, hu, rfl⟩ := exists_spellsUnits hunits
  exact ⟨u ++ ['\x22'], ⟨u, units, hu, rfl, rfl⟩, by simp⟩

/-- A string is read up to its closing quote, behind the opening one. -/
theorem SpellsString.exists_readString? {t : Text} {s : Option String} (h : SpellsString t s) :
    ∃ u, t = '\x22' :: u ∧ ∀ rest, readString? (u ++ rest) = some (s, rest) := by
  obtain ⟨u, units, hu, rfl, rfl⟩ := h
  refine ⟨u ++ ['\x22'], rfl, fun rest => ?_⟩
  rw [readString?, List.append_assoc, List.singleton_append, hu.stringUnits?_append]
  rfl

/-! ## Numbers -/

/-- A run of digits. -/
structure IsDigits (t : Text) : Prop where
  ne_nil : t ≠ []
  digit : ∀ c ∈ t, c.isDigit = true

/-- The digits before the point: a zero stands alone. -/
structure SpellsWhole (t : Text) : Prop extends IsDigits t where
  zero : t.head? = some '0' → t = ['0']

/-- The fraction of a number, if it has one: a point and digits. -/
inductive SpellsFraction : Text → Option Text → Prop
  | absent : SpellsFraction [] none
  | present {digits : Text} (h : IsDigits digits) : SpellsFraction ('.' :: digits) (some digits)

/-- The exponent of a number, if it has one: its mark, at most one sign, and digits. -/
inductive SpellsExponent : Text → Option Int → Prop
  | absent : SpellsExponent [] none
  | unsigned {e : Char} {digits : Text} (he : e = 'e' ∨ e = 'E') (h : IsDigits digits) :
      SpellsExponent (e :: digits) (some (digitsValue digits))
  | plus {e : Char} {digits : Text} (he : e = 'e' ∨ e = 'E') (h : IsDigits digits) :
      SpellsExponent (e :: '+' :: digits) (some (digitsValue digits))
  | minus {e : Char} {digits : Text} (he : e = 'e' ∨ e = 'E') (h : IsDigits digits) :
      SpellsExponent (e :: '-' :: digits) (some (-(digitsValue digits)))

/-- The sign of a number: a minus, or nothing. -/
inductive SpellsSign : Text → Bool → Prop
  | absent : SpellsSign [] false
  | minus : SpellsSign ['-'] true

/-- A number: its sign, digits, fraction and exponent. -/
inductive SpellsNumber : Text → Number → Prop
  | mk {sign whole fraction exponent : Text} {negative : Bool} {places : Option Text}
      {power : Option Int} (hsign : SpellsSign sign negative) (hwhole : SpellsWhole whole)
      (hfraction : SpellsFraction fraction places) (hexponent : SpellsExponent exponent power) :
      SpellsNumber (sign ++ (whole ++ (fraction ++ exponent)))
        (.ofParts negative whole places power)

/-- True of the characters that can go on with a number. -/
def continuesNumber (c : Char) : Bool := c.isDigit || c == '.' || c == 'e' || c == 'E'

/-- A text that does not go on with a number before it. -/
def EndsNumber (t : Text) : Prop := ∀ c, t.head? = some c → continuesNumber c = false

theorem endsNumber_nil : EndsNumber [] := by
  intro c hc
  simp at hc

theorem endsNumber_cons {c : Char} (hc : continuesNumber c = false) (t : Text) :
    EndsNumber (c :: t) := by
  intro c' hc'
  obtain rfl : c = c' := by simpa using hc'
  exact hc

theorem fractionDigits?_eq_none {t : Text} (ht : t.head? ≠ some '.') :
    fractionDigits? t = some (none, t) := by
  rw [fractionDigits?.eq_def]
  split
  · next h => simp at ht
  · rfl

theorem exponent?_eq_none {t : Text} (he : t.head? ≠ some 'e') (hE : t.head? ≠ some 'E') :
    exponent? t = some (none, t) := by
  cases t with
  | nil => rfl
  | cons c t =>
    simp only [List.head?_cons, ne_eq, Option.some.injEq] at he hE
    simp [exponent?, he, hE]

theorem EndsNumber.head {t : Text} (h : EndsNumber t) :
    (∀ c, t.head? = some c → c.isDigit = false) ∧ t.head? ≠ some '.' ∧ t.head? ≠ some 'e' ∧
      t.head? ≠ some 'E' := by
  refine ⟨?_, ?_, ?_, ?_⟩
  · intro c hc
    have := h c hc
    simp only [continuesNumber, Bool.or_eq_false_iff] at this
    exact this.1.1.1
  all_goals
    intro hc
    exact absurd (h _ hc) (by decide)

theorem readNumber?_of_digit {c : Char} (hc : c.isDigit = true) (t : Text) :
    readNumber? (c :: t) = readUnsigned? false (c :: t) := by
  rw [readNumber?.eq_def]
  split
  · next h => rw [(List.cons.inj h).1] at hc; exact absurd hc (by decide)
  · rfl

/-- The digits in front of something else. -/
theorem IsDigits.span {digits : Text} (h : IsDigits digits) {t : Text}
    (ht : ∀ c, t.head? = some c → c.isDigit = false) :
    (digits ++ t).takeWhile Char.isDigit = digits ∧ (digits ++ t).dropWhile Char.isDigit = t := by
  rw [List.takeWhile_append_of_pos h.digit, List.dropWhile_append_of_pos h.digit]
  cases t with
  | nil => simp
  | cons c t => simp [ht c rfl]

theorem isDigits_takeWhile {t : Text} (h : ¬ (t.takeWhile Char.isDigit).isEmpty = true) :
    IsDigits (t.takeWhile Char.isDigit) where
  ne_nil hnil := h (by rw [hnil]; rfl)
  digit := List.all_eq_true.1 List.all_takeWhile

theorem wholeDigits?_eq_some {t digits rest : Text} (h : wholeDigits? t = some (digits, rest)) :
    SpellsWhole digits ∧ t = digits ++ rest := by
  rw [wholeDigits?.eq_def] at h
  split at h
  · obtain ⟨rfl, rfl⟩ := Prod.mk.inj (Option.some.inj h)
    exact ⟨⟨⟨by simp, by simp⟩, fun _ => rfl⟩, rfl⟩
  · next hzero =>
    dsimp only at h
    split at h
    · simp at h
    · next hne =>
      obtain ⟨rfl, rfl⟩ := Prod.mk.inj (Option.some.inj h)
      have hdigits := isDigits_takeWhile hne
      refine ⟨⟨hdigits, fun hhead => ?_⟩, List.takeWhile_append_dropWhile.symm⟩
      obtain ⟨u, hu⟩ := List.head?_eq_some_iff.1 hhead
      exfalso
      apply hzero (u ++ t.dropWhile Char.isDigit)
      rw [← List.cons_append, ← hu, List.takeWhile_append_dropWhile]

theorem SpellsWhole.wholeDigits?_append {digits : Text} (h : SpellsWhole digits) {t : Text}
    (ht : ∀ c, t.head? = some c → c.isDigit = false) :
    wholeDigits? (digits ++ t) = some (digits, t) := by
  obtain ⟨htake, hdrop⟩ := h.toIsDigits.span ht
  rw [wholeDigits?.eq_def]
  split
  · next rest heq =>
    have hhead : digits.head? = some '0' := by
      obtain ⟨c, u, rfl⟩ := List.exists_cons_of_ne_nil h.ne_nil
      rw [(List.cons.inj heq).1, List.head?_cons]
    obtain rfl := h.zero hhead
    rw [← (List.cons.inj heq).2]
    rfl
  · simp [htake, hdrop, h.ne_nil]

theorem fractionDigits?_eq_some {t rest : Text} {places : Option Text}
    (h : fractionDigits? t = some (places, rest)) :
    ∃ u, SpellsFraction u places ∧ t = u ++ rest := by
  rw [fractionDigits?.eq_def] at h
  split at h
  · next t =>
    dsimp only at h
    split at h
    · simp at h
    · next hne =>
      obtain ⟨rfl, rfl⟩ := Prod.mk.inj (Option.some.inj h)
      refine ⟨_, .present (isDigits_takeWhile hne), ?_⟩
      rw [List.cons_append, List.takeWhile_append_dropWhile]
  · obtain ⟨rfl, rfl⟩ := Prod.mk.inj (Option.some.inj h)
    exact ⟨[], .absent, rfl⟩

theorem SpellsFraction.fractionDigits?_append {u : Text} {places : Option Text}
    (h : SpellsFraction u places) {t : Text} (ht : ∀ c, t.head? = some c → c.isDigit = false)
    (hpoint : t.head? ≠ some '.') : fractionDigits? (u ++ t) = some (places, t) := by
  cases h with
  | absent => exact fractionDigits?_eq_none hpoint
  | present hdigits =>
    obtain ⟨htake, hdrop⟩ := hdigits.span ht
    simp [fractionDigits?, htake, hdrop, hdigits.ne_nil]

theorem exponentDigits?_eq_some {negative : Bool} {t rest : Text} {power : Option Int}
    (h : exponentDigits? negative t = some (power, rest)) :
    ∃ digits, IsDigits digits ∧ t = digits ++ rest ∧
      power = some (if negative then -(digitsValue digits : Int) else digitsValue digits) := by
  rw [exponentDigits?] at h
  dsimp only at h
  split at h
  · simp at h
  · next hne =>
    obtain ⟨rfl, rfl⟩ := Prod.mk.inj (Option.some.inj h)
    exact ⟨_, isDigits_takeWhile hne, List.takeWhile_append_dropWhile.symm, rfl⟩

theorem IsDigits.exponentDigits?_append {digits : Text} (h : IsDigits digits) (negative : Bool)
    {t : Text} (ht : ∀ c, t.head? = some c → c.isDigit = false) :
    exponentDigits? negative (digits ++ t) =
      some (some (if negative then -(digitsValue digits : Int) else digitsValue digits), t) := by
  obtain ⟨htake, hdrop⟩ := h.span ht
  simp [exponentDigits?, htake, hdrop, h.ne_nil]

theorem exponent?_eq_some {t rest : Text} {power : Option Int}
    (h : exponent? t = some (power, rest)) : ∃ u, SpellsExponent u power ∧ t = u ++ rest := by
  rw [exponent?.eq_def] at h
  split at h
  · next c t =>
    split at h
    · next hc =>
      split at h
      · next t =>
        obtain ⟨digits, hdigits, rfl, rfl⟩ := exponentDigits?_eq_some h
        exact ⟨_, .minus hc hdigits, rfl⟩
      · next t =>
        obtain ⟨digits, hdigits, rfl, rfl⟩ := exponentDigits?_eq_some h
        exact ⟨_, .plus hc hdigits, rfl⟩
      · obtain ⟨digits, hdigits, rfl, rfl⟩ := exponentDigits?_eq_some h
        exact ⟨_, .unsigned hc hdigits, rfl⟩
    · obtain ⟨rfl, rfl⟩ := Prod.mk.inj (Option.some.inj h)
      exact ⟨[], .absent, rfl⟩
  · obtain ⟨rfl, rfl⟩ := Prod.mk.inj (Option.some.inj h)
    exact ⟨[], .absent, rfl⟩

theorem exponent?_mark {e : Char} (he : e = 'e' ∨ e = 'E') {digits : Text} (h : IsDigits digits)
    (t : Text) : exponent? (e :: (digits ++ t)) = exponentDigits? false (digits ++ t) := by
  obtain ⟨c, u, rfl⟩ := List.exists_cons_of_ne_nil h.ne_nil
  have hc := h.digit c (List.mem_cons_self ..)
  rw [exponent?.eq_def]
  dsimp only
  rw [if_pos he]
  split
  · next heq => exact absurd ((List.cons.inj heq).1 ▸ hc) (by decide)
  · next heq => exact absurd ((List.cons.inj heq).1 ▸ hc) (by decide)
  · rfl

theorem SpellsExponent.exponent?_append {u : Text} {power : Option Int} (h : SpellsExponent u power)
    {t : Text} (ht : EndsNumber t) : exponent? (u ++ t) = some (power, t) := by
  obtain ⟨hdigit, -, he, hE⟩ := ht.head
  cases h with
  | absent => exact exponent?_eq_none he hE
  | unsigned hmark hdigits =>
    rw [List.cons_append, exponent?_mark hmark hdigits, hdigits.exponentDigits?_append false hdigit]
    rfl
  | plus hmark hdigits =>
    rw [List.cons_append, List.cons_append, exponent?, if_pos hmark]
    exact hdigits.exponentDigits?_append false hdigit
  | minus hmark hdigits =>
    rw [List.cons_append, List.cons_append, exponent?, if_pos hmark]
    exact hdigits.exponentDigits?_append true hdigit

/-- What follows the fraction of a number starts with no digit and no point. -/
theorem SpellsExponent.head {u : Text} {power : Option Int} (h : SpellsExponent u power) {t : Text}
    (ht : EndsNumber t) :
    (∀ c, (u ++ t).head? = some c → c.isDigit = false) ∧ (u ++ t).head? ≠ some '.' := by
  cases h with
  | absent => exact ⟨ht.head.1, ht.head.2.1⟩
  | unsigned hmark | plus hmark | minus hmark =>
    rcases hmark with rfl | rfl <;> simp

/-- What follows the whole digits of a number starts with no digit. -/
theorem SpellsFraction.head {u : Text} {places : Option Text} (h : SpellsFraction u places)
    {t : Text} (ht : ∀ c, t.head? = some c → c.isDigit = false) :
    ∀ c, (u ++ t).head? = some c → c.isDigit = false := by
  cases h with
  | absent => exact ht
  | present => simp

theorem readUnsigned?_eq_some {negative : Bool} {t rest : Text} {n : Number}
    (h : readUnsigned? negative t = some (n, rest)) {sign : Text}
    (hsign : SpellsSign sign negative) : ∃ u, SpellsNumber (sign ++ u) n ∧ t = u ++ rest := by
  rw [readUnsigned?] at h
  split at h
  · simp at h
  · next whole t' hwhole =>
    split at h
    · simp at h
    · next places t'' hfraction =>
      obtain ⟨⟨power, t'''⟩, hexponent, heq⟩ := Option.map_eq_some_iff.1 h
      obtain ⟨rfl, rfl⟩ := Prod.mk.inj heq
      obtain ⟨hw, rfl⟩ := wholeDigits?_eq_some hwhole
      obtain ⟨fraction, hf, rfl⟩ := fractionDigits?_eq_some hfraction
      obtain ⟨exponent, he, rfl⟩ := exponent?_eq_some hexponent
      exact ⟨whole ++ (fraction ++ exponent), .mk hsign hw hf he, by simp⟩

theorem readNumber?_eq_some {t rest : Text} {n : Number} (h : readNumber? t = some (n, rest)) :
    ∃ u, SpellsNumber u n ∧ t = u ++ rest := by
  rw [readNumber?.eq_def] at h
  split at h
  · obtain ⟨u, hu, rfl⟩ := readUnsigned?_eq_some h .minus
    exact ⟨_, hu, rfl⟩
  · obtain ⟨u, hu, rfl⟩ := readUnsigned?_eq_some h .absent
    exact ⟨_, hu, rfl⟩

/-- A number starts with its sign or a digit. -/
theorem SpellsNumber.exists_eq_cons {t : Text} {n : Number} (h : SpellsNumber t n) :
    ∃ c u, t = c :: u ∧ (c = '-' ∨ c.isDigit = true) := by
  obtain ⟨hsign, hwhole, -, -⟩ := h
  cases hsign with
  | absent =>
    obtain ⟨c, u, hcons⟩ := List.exists_cons_of_ne_nil hwhole.ne_nil
    exact ⟨c, _, by rw [hcons]; rfl, .inr (hwhole.digit c (hcons ▸ List.mem_cons_self ..))⟩
  | minus => exact ⟨'-', _, rfl, .inl rfl⟩

theorem SpellsNumber.readNumber?_append {t : Text} {n : Number} (h : SpellsNumber t n) {rest : Text}
    (hrest : EndsNumber rest) : readNumber? (t ++ rest) = some (n, rest) := by
  obtain ⟨hsign, hwhole, hfraction, hexponent⟩ := h
  rename_i sign whole fraction exponent negative places power
  obtain ⟨hdigit, hpoint⟩ := hexponent.head hrest
  have hread : readUnsigned? negative (whole ++ (fraction ++ (exponent ++ rest))) =
      some (.ofParts negative whole places power, rest) := by
    rw [readUnsigned?, hwhole.wholeDigits?_append (hfraction.head hdigit)]
    dsimp only
    rw [hfraction.fractionDigits?_append hdigit hpoint]
    dsimp only
    rw [hexponent.exponent?_append hrest]
    rfl
  simp only [List.append_assoc]
  cases hsign with
  | absent =>
    obtain ⟨c, u, hcons⟩ := List.exists_cons_of_ne_nil hwhole.ne_nil
    have hc := hwhole.digit c (hcons ▸ List.mem_cons_self ..)
    rw [List.nil_append, hcons, List.cons_append, readNumber?_of_digit hc, ← List.cons_append,
      ← hcons, hread]
  | minus => exact hread

end DiagramStudio.Json
