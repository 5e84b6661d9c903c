import DiagramStudio.Proofs.Json.Spelling

/-!
# The grammar of JSON texts

Which texts are JSON, and what they are the text of, is said by a grammar, and the reader is shown to
read exactly what the grammar derives. One inductive relation covers values, items and members, so
that proofs about the grammar are plain inductions. The fuel of the reader suffices, because two
units of it are used up for a character at most.

## Main definitions

- `Json.Derives`: the grammar of values, items and members
- `Json.Taken`: what the readers do with a stretch of a text that the grammar derives
-/

namespace DiagramStudio.Json

open Text

/-- What a stretch of a JSON text may be. -/
inductive Form
  | value (source : Source)
  | items (items : List Source)
  | member (key : Option String) (source : Source)
  | members (members : List (Option String × Source))

/-- The grammar of JSON. Blanks may stand around a value and around a key; items and members are
parted by commas, and at least one of them stands in an array or object that is not empty. -/
inductive Derives : Text → Form → Prop
  | spaced {w t v : Text} {source : Source} (hw : ∀ c ∈ w, isSpace c = true)
      (hv : ∀ c ∈ v, isSpace c = true) (h : Derives t (.value source)) :
      Derives (w ++ (t ++ v)) (.value source)
  | null : Derives ['n', 'u', 'l', 'l'] (.value .null)
  | yes : Derives ['t', 'r', 'u', 'e'] (.value (.bool true))
  | no : Derives ['f', 'a', 'l', 's', 'e'] (.value (.bool false))
  | number {t : Text} {n : Number} (h : SpellsNumber t n) : Derives t (.value (.number n))
  | string {t : Text} {s : Option String} (h : SpellsString t s) : Derives t (.value (.string s))
  | emptyArray {w : Text} (hw : ∀ c ∈ w, isSpace c = true) :
      Derives ('[' :: (w ++ [']'])) (.value (.array []))
  | array {t : Text} {items : List Source} (h : Derives t (.items items)) :
      Derives ('[' :: (t ++ [']'])) (.value (.array items))
  | emptyObject {w : Text} (hw : ∀ c ∈ w, isSpace c = true) :
      Derives ('\x7b' :: (w ++ ['\x7d'])) (.value (.object []))
  | object {t : Text} {members : List (Option String × Source)} (h : Derives t (.members members)) :
      Derives ('\x7b' :: (t ++ ['\x7d'])) (.value (.object members))
  | lastItem {t : Text} {source : Source} (h : Derives t (.value source)) :
      Derives t (.items [source])
  | item {t u : Text} {source : Source} {items : List Source} (h : Derives t (.value source))
      (hitems : Derives u (.items items)) : Derives (t ++ ',' :: u) (.items (source :: items))
  | member {w s v t : Text} {key : Option String} {source : Source}
      (hw : ∀ c ∈ w, isSpace c = true) (hs : SpellsString s key) (hv : ∀ c ∈ v, isSpace c = true)
      (h : Derives t (.value source)) : Derives (w ++ (s ++ (v ++ ':' :: t))) (.member key source)
  | lastMember {t : Text} {key : Option String} {source : Source}
      (h : Derives t (.member key source)) : Derives t (.members [(key, source)])
  | moreMembers {t u : Text} {key : Option String} {source : Source}
      {members : List (Option String × Source)} (h : Derives t (.member key source))
      (hmembers : Derives u (.members members)) :
      Derives (t ++ ',' :: u) (.members ((key, source) :: members))

/-! ## Blanks and first characters -/

theorem skipSpace_append {w : Text} (hw : ∀ c ∈ w, isSpace c = true) (t : Text) :
    skipSpace (w ++ t) = skipSpace t := List.dropWhile_append_of_pos hw

theorem skipSpace_cons {c : Char} (hc : isSpace c = false) (t : Text) :
    skipSpace (c :: t) = c :: t := by
  simp [skipSpace, hc]

theorem endsNumber_append {w t : Text} (hw : ∀ c ∈ w, isSpace c = true) (ht : EndsNumber t) :
    EndsNumber (w ++ t) := by
  cases w with
  | nil => exact ht
  | cons c w =>
    refine endsNumber_cons ?_ (w ++ t)
    have hc := hw c (List.mem_cons_self ..)
    simp only [isSpace, Bool.or_eq_true, beq_iff_eq] at hc
    rcases hc with ((rfl | rfl) | rfl) | rfl <;> decide

theorem readValue?_append {w : Text} (hw : ∀ c ∈ w, isSpace c = true) (fuel : Nat) (t : Text) :
    readValue? fuel (w ++ t) = readValue? fuel t := by
  cases fuel with
  | zero => simp [readValue?]
  | succ fuel => rw [readValue?, readValue?, skipSpace_append hw]

theorem isSpace_of_number {c : Char} (hc : c = '-' ∨ c.isDigit = true) : isSpace c = false := by
  rw [Bool.eq_false_iff]
  intro h
  simp only [isSpace, Bool.or_eq_true, beq_iff_eq] at h
  rcases h with ((rfl | rfl) | rfl) | rfl <;> exact absurd hc (by decide)

theorem readValue?_number {c : Char} (hc : c = '-' ∨ c.isDigit = true) (fuel : Nat) (t : Text) :
    readValue? (fuel + 1) (c :: t) =
      (readNumber? (c :: t)).map fun read => (.number read.1, read.2) := by
  rw [readValue?, skipSpace_cons (isSpace_of_number hc)]
  split
  case h_7 => rfl
  -- Every other form of value is told by a first character that no number has.
  all_goals
    next h =>
    rw [(List.cons.inj h).1] at hc
    exact absurd hc (by decide)

/-! ## What the reader takes -/

/-- What the readers take with this much fuel is spelled by the grammar. -/
structure Sound (fuel : Nat) : Prop where
  value : ∀ {t rest source}, readValue? fuel t = some (source, rest) →
    ∃ u, Derives u (.value source) ∧ t = u ++ rest
  items : ∀ {t rest items}, readItems? fuel t = some (items, rest) →
    ∃ u, Derives u (.items items) ∧ t = u ++ ']' :: rest
  members : ∀ {t rest members}, readMembers? fuel t = some (members, rest) →
    ∃ u, Derives u (.members members) ∧ t = u ++ '\x7d' :: rest

/-- The blanks in front of a text. -/
theorem exists_skipSpace (t : Text) :
    ∃ w, (∀ c ∈ w, isSpace c = true) ∧ t = w ++ skipSpace t :=
  ⟨t.takeWhile isSpace, List.all_eq_true.1 List.all_takeWhile,
    List.takeWhile_append_dropWhile.symm⟩

/-- A value in front of which there are no blanks. -/
theorem Sound.exists_derives_of_skipSpace {fuel : Nat} (h : Sound fuel) {t rest : Text}
    {source : Source} (hread : readValue? (fuel + 1) t = some (source, rest)) :
    ∃ u, Derives u (.value source) ∧ skipSpace t = u ++ rest := by
  rw [readValue?] at hread
  split at hread
  · next heq =>
    obtain ⟨⟨s, t'⟩, hstring, hpair⟩ := Option.map_eq_some_iff.1 hread
    obtain ⟨rfl, rfl⟩ := Prod.mk.inj hpair
    obtain ⟨u, hu, rfl⟩ := exists_spellsString hstring
    exact ⟨_, .string hu, heq⟩
  · next t' heq =>
    split at hread
    · next hskip =>
      obtain ⟨rfl, rfl⟩ := Prod.mk.inj (Option.some.inj hread)
      obtain ⟨w, hw, ht'⟩ := exists_skipSpace t'
      refine ⟨_, .emptyArray hw, ?_⟩
      rw [heq, ht', hskip]
      simp
    · obtain ⟨⟨items, t''⟩, hitems, hpair⟩ := Option.map_eq_some_iff.1 hread
      obtain ⟨rfl, rfl⟩ := Prod.mk.inj hpair
      obtain ⟨u, hu, rfl⟩ := h.items hitems
      exact ⟨_, .array hu, by simp [heq]⟩
  · next t' heq =>
    split at hread
    · next hskip =>
      obtain ⟨rfl, rfl⟩ := Prod.mk.inj (Option.some.inj hread)
      obtain ⟨w, hw, ht'⟩ := exists_skipSpace t'
      refine ⟨_, .emptyObject hw, ?_⟩
      rw [heq, ht', hskip]
      simp
    · obtain ⟨⟨members, t''⟩, hmembers, hpair⟩ := Option.map_eq_some_iff.1 hread
      obtain ⟨rfl, rfl⟩ := Prod.mk.inj hpair
      obtain ⟨u, hu, rfl⟩ := h.members hmembers
      exact ⟨_, .object hu, by simp [heq]⟩
  · next heq =>
    obtain ⟨rfl, rfl⟩ := Prod.mk.inj (Option.some.inj hread)
    exact ⟨_, .null, heq⟩
  · next heq =>
    obtain ⟨rfl, rfl⟩ := Prod.mk.inj (Option.some.inj hread)
    exact ⟨_, .yes, heq⟩
  · next heq =>
    obtain ⟨rfl, rfl⟩ := Prod.mk.inj (Option.some.inj hread)
    exact ⟨_, .no, heq⟩
  · obtain ⟨⟨n, t'⟩, hnumber, hpair⟩ := Option.map_eq_some_iff.1 hread
    obtain ⟨rfl, rfl⟩ := Prod.mk.inj hpair
    obtain ⟨u, hu, ht⟩ := readNumber?_eq_some hnumber
    exact ⟨u, .number hu, ht⟩

theorem Sound.exists_derives_value {fuel : Nat} (h : Sound fuel) {t rest : Text} {source : Source}
    (hread : readValue? (fuel + 1) t = some (source, rest)) :
    ∃ u, Derives u (.value source) ∧ t = u ++ rest := by
  obtain ⟨w, hw, ht⟩ := exists_skipSpace t
  obtain ⟨u, hu, hskip⟩ := h.exists_derives_of_skipSpace hread
  refine ⟨w ++ (u ++ []), .spaced hw (by simp) hu, ?_⟩
  rw [List.append_nil, List.append_assoc, ← hskip]
  exact ht

/-- Blanks behind a value belong to it. -/
theorem Derives.append_space {t w : Text} {source : Source} (h : Derives t (.value source))
    (hw : ∀ c ∈ w, isSpace c = true) : Derives (t ++ w) (.value source) :=
  Derives.spaced (w := []) (by simp) hw h

theorem Sound.exists_derives_items {fuel : Nat} (h : Sound fuel) {t rest : Text}
    {items : List Source} (hread : readItems? (fuel + 1) t = some (items, rest)) :
    ∃ u, Derives u (.items items) ∧ t = u ++ ']' :: rest := by
  rw [readItems?] at hread
  split at hread
  · simp at hread
  · next source t' hvalue =>
    obtain ⟨u, hu, rfl⟩ := h.value hvalue
    obtain ⟨w, hw, ht'⟩ := exists_skipSpace t'
    have hitem := hu.append_space hw
    split at hread
    · next t'' hskip =>
      obtain ⟨later, rfl, hlater⟩ := exists_of_map_cons hread
      obtain ⟨u', hu', rfl⟩ := h.items hlater
      refine ⟨_, .item hitem hu', ?_⟩
      rw [ht', hskip]
      simp
    · next t'' hskip =>
      obtain ⟨rfl, rfl⟩ := Prod.mk.inj (Option.some.inj hread)
      refine ⟨_, .lastItem hitem, ?_⟩
      rw [ht', hskip]
      simp
    · simp at hread

theorem Sound.exists_derives_members {fuel : Nat} (h : Sound fuel) {t rest : Text}
    {members : List (Option String × Source)}
    (hread : readMembers? (fuel + 1) t = some (members, rest)) :
    ∃ u, Derives u (.members members) ∧ t = u ++ '\x7d' :: rest := by
  obtain ⟨w, hw, ht⟩ := exists_skipSpace t
  rw [readMembers?] at hread
  split at hread
  case h_2 => simp at hread
  next t₁ hquote =>
  split at hread
  · simp at hread
  next key t₂ hkey =>
  obtain ⟨s, hs, rfl⟩ := exists_spellsString hkey
  obtain ⟨v, hv, ht₂⟩ := exists_skipSpace t₂
  split at hread
  case h_2 => simp at hread
  next t₃ hcolon =>
  split at hread
  · simp at hread
  next source t₄ hvalue =>
  obtain ⟨u, hu, rfl⟩ := h.value hvalue
  obtain ⟨v', hv', ht₄⟩ := exists_skipSpace t₄
  have hmember := Derives.member hw hs hv (hu.append_space hv')
  split at hread
  · next t₅ hcomma =>
    obtain ⟨later, rfl, hlater⟩ := exists_of_map_cons hread
    obtain ⟨u', hu', rfl⟩ := h.members hlater
    refine ⟨_, .moreMembers hmember hu', ?_⟩
    rw [ht, hquote, ht₂, hcolon, ht₄, hcomma]
    simp
  · next t₅ hbrace =>
    obtain ⟨rfl, rfl⟩ := Prod.mk.inj (Option.some.inj hread)
    refine ⟨_, .lastMember hmember, ?_⟩
    rw [ht, hquote, ht₂, hcolon, ht₄, hbrace]
    simp
  · simp at hread

theorem sound (fuel : Nat) : Sound fuel := by
  induction fuel with
  | zero =>
    refine ⟨?_, ?_, ?_⟩
    · simp [readValue?]
    · simp [readItems?]
    · simp [readMembers?]
  | succ fuel ih =>
    exact ⟨ih.exists_derives_value, ih.exists_derives_items, ih.exists_derives_members⟩

/-! ## What the grammar derives -/

/-- The first character that is no blank: a value or an item does not start with a closing bracket,
and a member starts with a quote. -/
def Form.Starts (c : Char) : Form → Prop
  | value _ | items _ => c ≠ ']'
  | member _ _ | members _ => c = '\x22'

theorem Derives.exists_eq_append_cons {t : Text} {form : Form} (h : Derives t form) :
    ∃ w c u, (∀ c' ∈ w, isSpace c' = true) ∧ isSpace c = false ∧ form.Starts c ∧
      t = w ++ c :: u := by
  have hspace : ∀ c' ∈ ([] : Text), isSpace c' = true := by simp
  induction h with
  | @spaced w t v source hw _ _ ih =>
    obtain ⟨w', c, u, hw', hc, hstarts, rfl⟩ := ih
    refine ⟨w ++ w', c, u ++ v, ?_, hc, hstarts, by simp⟩
    intro c' hc'
    rcases List.mem_append.1 hc' with hc' | hc'
    · exact hw c' hc'
    · exact hw' c' hc'
  | null => exact ⟨[], 'n', _, hspace, by decide, by simp [Form.Starts], rfl⟩
  | yes => exact ⟨[], 't', _, hspace, by decide, by simp [Form.Starts], rfl⟩
  | no => exact ⟨[], 'f', _, hspace, by decide, by simp [Form.Starts], rfl⟩
  | number hn =>
    obtain ⟨c, u, rfl, hc⟩ := hn.exists_eq_cons
    refine ⟨[], c, u, hspace, isSpace_of_number hc, ?_, rfl⟩
    rintro rfl
    exact absurd hc (by decide)
  | string hs =>
    obtain ⟨u, rfl, -⟩ := hs.exists_readString?
    exact ⟨[], '\x22', u, hspace, by decide, by simp [Form.Starts], rfl⟩
  | emptyArray | array => exact ⟨[], '[', _, hspace, by decide, by simp [Form.Starts], rfl⟩
  | emptyObject | object => exact ⟨[], '\x7b', _, hspace, by decide, by simp [Form.Starts], rfl⟩
  | lastItem _ ih | lastMember _ ih => exact ih
  | item _ _ ih | moreMembers _ _ ih =>
    obtain ⟨w, c, u, hw, hc, hstarts, rfl⟩ := ih
    exact ⟨w, c, _, hw, hc, hstarts, List.append_assoc ..⟩
  | member hw hs =>
    obtain ⟨u, rfl, -⟩ := hs.exists_readString?
    exact ⟨_, '\x22', _, hw, by decide, rfl, rfl⟩

theorem Derives.exists_skipSpace_append {t : Text} {form : Form} (h : Derives t form)
    (rest : Text) : ∃ c u, form.Starts c ∧ skipSpace (t ++ rest) = c :: u := by
  obtain ⟨w, c, u, hw, hc, hstarts, rfl⟩ := h.exists_eq_append_cons
  refine ⟨c, u ++ rest, hstarts, ?_⟩
  rw [List.append_assoc, skipSpace_append hw, List.cons_append, skipSpace_cons hc]

theorem Derives.length_pos {t : Text} {form : Form} (h : Derives t form) : 0 < t.length := by
  obtain ⟨w, c, u, -, -, -, rfl⟩ := h.exists_eq_append_cons
  rw [List.length_append, List.length_cons]
  omega

/-- What the readers do with a stretch of a text, whatever follows it: of a value they may leave
blanks behind it, and after a member what follows decides whether there are more. -/
def Taken (t : Text) : Form → Prop
  | .value source => ∀ fuel rest, 2 * t.length ≤ fuel → EndsNumber rest →
    ∃ w, (∀ c ∈ w, isSpace c = true) ∧ readValue? fuel (t ++ rest) = some (source, w ++ rest)
  | .items items => ∀ fuel rest, 2 * t.length < fuel →
    readItems? fuel (t ++ ']' :: rest) = some (items, rest)
  | .member key source => ∀ fuel rest more, 2 * t.length ≤ fuel → EndsNumber rest →
    (skipSpace rest = ',' :: more → readMembers? (fuel + 1) (t ++ rest) =
      (readMembers? fuel more).map fun read => ((key, source) :: read.1, read.2)) ∧
    (skipSpace rest = '\x7d' :: more →
      readMembers? (fuel + 1) (t ++ rest) = some ([(key, source)], more))
  | .members members => ∀ fuel rest, 2 * t.length < fuel →
    readMembers? fuel (t ++ '\x7d' :: rest) = some (members, rest)

/-- A value that is read as a whole. -/
theorem taken_value {t : Text} {source : Source} (hpos : 0 < t.length)
    (h : ∀ fuel rest, 2 * t.length ≤ fuel + 1 → EndsNumber rest →
      readValue? (fuel + 1) (t ++ rest) = some (source, rest)) : Taken t (.value source) := by
  intro fuel rest hfuel hrest
  obtain ⟨fuel, rfl⟩ := Nat.exists_eq_add_one.2 (show 0 < fuel by omega)
  exact ⟨[], by simp, h fuel rest hfuel hrest⟩

theorem taken_spaced {w t v : Text} {source : Source} (hw : ∀ c ∈ w, isSpace c = true)
    (hv : ∀ c ∈ v, isSpace c = true) (h : Taken t (.value source)) :
    Taken (w ++ (t ++ v)) (.value source) := by
  intro fuel rest hfuel hrest
  simp only [List.length_append] at hfuel
  obtain ⟨w', hw', hread⟩ := h fuel (v ++ rest) (by omega) (endsNumber_append hv hrest)
  refine ⟨w' ++ v, ?_, ?_⟩
  · intro c hc
    rcases List.mem_append.1 hc with hc | hc
    · exact hw' c hc
    · exact hv c hc
  · rw [List.append_assoc, readValue?_append hw, List.append_assoc, hread, List.append_assoc]

theorem taken_number {t : Text} {n : Number} (h : SpellsNumber t n) :
    Taken t (.value (.number n)) := by
  refine taken_value (Derives.number h).length_pos fun fuel rest _ hrest => ?_
  obtain ⟨c, u, rfl, hc⟩ := h.exists_eq_cons
  have hread := h.readNumber?_append hrest
  rw [List.cons_append] at hread ⊢
  rw [readValue?_number hc, hread]
  rfl

theorem taken_string {t : Text} {s : Option String} (h : SpellsString t s) :
    Taken t (.value (.string s)) := by
  refine taken_value (Derives.string h).length_pos fun fuel rest _ _ => ?_
  obtain ⟨u, rfl, hread⟩ := h.exists_readString?
  rw [List.cons_append, readValue?, skipSpace_cons (by decide)]
  simp only [hread]
  rfl

theorem taken_emptyArray {w : Text} (hw : ∀ c ∈ w, isSpace c = true) :
    Taken ('[' :: (w ++ [']'])) (.value (.array [])) := by
  refine taken_value (by simp) fun fuel rest _ _ => ?_
  have hskip : skipSpace (w ++ [']'] ++ rest) = ']' :: rest := by
    rw [List.append_assoc, skipSpace_append hw, List.singleton_append, skipSpace_cons (by decide)]
  rw [List.cons_append, readValue?, skipSpace_cons (by decide)]
  simp only [hskip]

theorem taken_array {t : Text} {items : List Source} (hderives : Derives t (.items items))
    (h : Taken t (.items items)) : Taken ('[' :: (t ++ [']'])) (.value (.array items)) := by
  refine taken_value (by simp) fun fuel rest hfuel _ => ?_
  simp only [List.length_cons, List.length_append, List.length_nil] at hfuel
  have hread := h fuel rest (by omega)
  obtain ⟨c, u, hc, hskip⟩ := hderives.exists_skipSpace_append (']' :: rest)
  rw [List.cons_append, readValue?, skipSpace_cons (by decide)]
  simp only [List.append_assoc, List.singleton_append, hskip]
  -- The reader looks for the end of an empty array first, but no item starts with a bracket.
  split
  · next heq => exact absurd (List.cons.inj heq).1 hc
  · rw [hread]
    rfl

theorem taken_emptyObject {w : Text} (hw : ∀ c ∈ w, isSpace c = true) :
    Taken ('\x7b' :: (w ++ ['\x7d'])) (.value (.object [])) := by
  refine taken_value (by simp) fun fuel rest _ _ => ?_
  have hskip : skipSpace (w ++ ['\x7d'] ++ rest) = '\x7d' :: rest := by
    rw [List.append_assoc, skipSpace_append hw, List.singleton_append, skipSpace_cons (by decide)]
  rw [List.cons_append, readValue?, skipSpace_cons (by decide)]
  simp only [hskip]

theorem taken_object {t : Text} {members : List (Option String × Source)}
    (hderives : Derives t (.members members)) (h : Taken t (.members members)) :
    Taken ('\x7b' :: (t ++ ['\x7d'])) (.value (.object members)) := by
  refine taken_value (by simp) fun fuel rest hfuel _ => ?_
  simp only [List.length_cons, List.length_append, List.length_nil] at hfuel
  have hread := h fuel rest (by omega)
  obtain ⟨c, u, rfl, hskip⟩ := hderives.exists_skipSpace_append ('\x7d' :: rest)
  rw [List.cons_append, readValue?, skipSpace_cons (by decide)]
  simp only [List.append_assoc, List.singleton_append, hskip, hread]
  rfl

/-- After an item, what follows decides whether there are more. -/
theorem Taken.readItems?_append {t : Text} {source : Source} (h : Taken t (.value source))
    {fuel : Nat} (hfuel : 2 * t.length ≤ fuel) {rest : Text} (hrest : EndsNumber rest)
    (more : Text) :
    (skipSpace rest = ',' :: more → readItems? (fuel + 1) (t ++ rest) =
      (readItems? fuel more).map fun read => (source :: read.1, read.2)) ∧
    (skipSpace rest = ']' :: more → readItems? (fuel + 1) (t ++ rest) = some ([source], more)) := by
  obtain ⟨w, hw, hread⟩ := h fuel rest hfuel hrest
  rw [readItems?, hread]
  constructor
  · intro hnext
    simp only [skipSpace_append hw, hnext]
  · intro hnext
    simp only [skipSpace_append hw, hnext]

theorem taken_lastItem {t : Text} {source : Source} (h : Taken t (.value source)) :
    Taken t (.items [source]) := by
  intro fuel rest hfuel
  obtain ⟨fuel, rfl⟩ := Nat.exists_eq_add_one.2 (show 0 < fuel by omega)
  have hends : EndsNumber (']' :: rest) := endsNumber_cons (by decide) rest
  exact (h.readItems?_append (by omega) hends rest).2 (skipSpace_cons (by decide) rest)

theorem taken_item {t u : Text} {source : Source} {items : List Source}
    (h : Taken t (.value source)) (hitems : Taken u (.items items)) :
    Taken (t ++ ',' :: u) (.items (source :: items)) := by
  intro fuel rest hfuel
  simp only [List.length_append, List.length_cons] at hfuel
  obtain ⟨fuel, rfl⟩ := Nat.exists_eq_add_one.2 (show 0 < fuel by omega)
  have hends : EndsNumber (',' :: (u ++ ']' :: rest)) := endsNumber_cons (by decide) _
  rw [List.append_assoc, List.cons_append,
    (h.readItems?_append (by omega) hends _).1 (skipSpace_cons (by decide) _),
    hitems fuel rest (by omega)]
  rfl

theorem taken_member {w s v t : Text} {key : Option String} {source : Source}
    (hw : ∀ c ∈ w, isSpace c = true) (hs : SpellsString s key) (hv : ∀ c ∈ v, isSpace c = true)
    (h : Taken t (.value source)) : Taken (w ++ (s ++ (v ++ ':' :: t))) (.member key source) := by
  intro fuel rest more hfuel hrest
  obtain ⟨u, rfl, hread⟩ := hs.exists_readString?
  simp only [List.length_append, List.length_cons] at hfuel
  obtain ⟨w', hw', hvalue⟩ := h fuel rest (by omega) hrest
  simp only [List.append_assoc, List.cons_append]
  rw [readMembers?, skipSpace_append hw, skipSpace_cons (by decide)]
  simp only [hread, skipSpace_append hv, skipSpace_cons (c := ':') (by decide), hvalue,
    skipSpace_append hw']
  constructor
  · intro hnext
    simp only [hnext]
  · intro hnext
    simp only [hnext]

theorem taken_lastMember {t : Text} {key : Option String} {source : Source}
    (h : Taken t (.member key source)) : Taken t (.members [(key, source)]) := by
  intro fuel rest hfuel
  obtain ⟨fuel, rfl⟩ := Nat.exists_eq_add_one.2 (show 0 < fuel by omega)
  have hends : EndsNumber ('\x7d' :: rest) := endsNumber_cons (by decide) rest
  exact (h fuel _ rest (by omega) hends).2 (skipSpace_cons (by decide) rest)

theorem taken_moreMembers {t u : Text} {key : Option String} {source : Source}
    {members : List (Option String × Source)} (h : Taken t (.member key source))
    (hmembers : Taken u (.members members)) :
    Taken (t ++ ',' :: u) (.members ((key, source) :: members)) := by
  intro fuel rest hfuel
  simp only [List.length_append, List.length_cons] at hfuel
  obtain ⟨fuel, rfl⟩ := Nat.exists_eq_add_one.2 (show 0 < fuel by omega)
  have hends : EndsNumber (',' :: (u ++ '\x7d' :: rest)) := endsNumber_cons (by decide) _
  rw [List.append_assoc, List.cons_append,
    (h fuel _ _ (by omega) hends).1 (skipSpace_cons (by decide) _), hmembers fuel rest (by omega)]
  rfl

theorem Derives.taken {t : Text} {form : Form} (h : Derives t form) : Taken t form := by
  induction h with
  | spaced hw hv _ ih => exact taken_spaced hw hv ih
  | null | yes | no => exact taken_value (by simp) fun _ _ _ _ => rfl
  | number hn => exact taken_number hn
  | string hs => exact taken_string hs
  | emptyArray hw => exact taken_emptyArray hw
  | array h ih => exact taken_array h ih
  | emptyObject hw => exact taken_emptyObject hw
  | object h ih => exact taken_object h ih
  | lastItem _ ih => exact taken_lastItem ih
  | item _ _ ih ihitems => exact taken_item ih ihitems
  | member hw hs hv _ ih => exact taken_member hw hs hv ih
  | lastMember _ ih => exact taken_lastMember ih
  | moreMembers _ _ ih ihmembers => exact taken_moreMembers ih ihmembers

/-! ## Whole texts -/

theorem isSpace_of_skipSpace_isEmpty {t : Text} (h : (skipSpace t).isEmpty = true) :
    ∀ c ∈ t, isSpace c = true := by
  obtain ⟨w, hw, ht⟩ := exists_skipSpace t
  rw [List.isEmpty_iff.1 h, List.append_nil] at ht
  exact ht ▸ hw

/-- A text is read as what the grammar derives it to be, and nothing else is read. -/
theorem read?_eq_some_iff {t : Text} {source : Source} :
    read? t = some source ↔ Derives t (.value source) := by
  constructor
  · intro h
    rw [read?] at h
    split at h
    · next source' rest hread =>
      split at h
      · next hrest =>
        obtain rfl := Option.some.inj h
        obtain ⟨u, hu, rfl⟩ := (sound _).value hread
        exact hu.append_space (isSpace_of_skipSpace_isEmpty hrest)
      · simp at h
    · simp at h
  · intro h
    obtain ⟨w, hw, hread⟩ := h.taken (2 * t.length + 2) [] (by omega) endsNumber_nil
    have hrest : skipSpace w = [] := by simpa [skipSpace] using skipSpace_append hw []
    rw [List.append_nil, List.append_nil] at hread
    rw [read?, hread]
    simp [hrest]

end DiagramStudio.Json
