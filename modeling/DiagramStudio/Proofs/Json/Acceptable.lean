import DiagramStudio.Proofs.Json.Print
import Mathlib.Data.List.Forall2

/-!
# Acceptable JSON

A JSON text is kept as a whole only if nothing in it is too deep, stands for no text or exceeds the
range of a double. These are the acceptable texts, and each of them is the text of one value, which
is what the reader answers.

## Main definitions

- `Json.Source.Legible`: a tree of which everything can be kept
- `Json.Acceptable`: the texts of such trees
- `Json.TextOf`: the texts of a value
-/

namespace DiagramStudio.Json

namespace Source

/-- A tree of which everything can be kept: its arrays and objects are nested at most `room` deep,
its strings and keys stand for texts, and its numbers fit a double. -/
inductive Legible : Source → (room : Nat) → Prop
  | null (room : Nat) : Legible .null room
  | bool (b : Bool) (room : Nat) : Legible (.bool b) room
  | number {n : Number} (h : n.isFinite = true) (room : Nat) : Legible (.number n) room
  | string (s : String) (room : Nat) : Legible (.string (some s)) room
  | array {items : List Source} {room : Nat} (h : ∀ item ∈ items, Legible item room) :
      Legible (.array items) (room + 1)
  | object {members : List (Option String × Source)} {room : Nat}
      (hkeys : ∀ member ∈ members, member.1.isSome = true)
      (h : ∀ member ∈ members, Legible member.2 room) : Legible (.object members) (room + 1)

/-- Induction where the hypotheses of an array and of an object speak of its parts. -/
@[elab_as_elim]
theorem induction {motive : Source → Prop} (null : motive .null) (bool : ∀ b, motive (.bool b))
    (number : ∀ n, motive (.number n)) (string : ∀ s, motive (.string s))
    (array : ∀ items, (∀ item ∈ items, motive item) → motive (.array items))
    (object : ∀ members, (∀ member ∈ members, motive member.2) → motive (.object members)) :
    ∀ source, motive source
  | .null => null
  | .bool b => bool b
  | .number n => number n
  | .string s => string s
  | .array items =>
    array items fun item _ => induction null bool number string array object item
  | .object members =>
    object members fun member _ => induction null bool number string array object member.2
termination_by source => source
decreasing_by
  · have := List.sizeOf_lt_of_mem ‹item ∈ items›
    simp only [Source.array.sizeOf_spec]
    omega
  · have := List.sizeOf_lt_of_mem ‹member ∈ members›
    obtain ⟨key, source⟩ := member
    simp only [Prod.mk.sizeOf_spec] at this
    simp only [Source.object.sizeOf_spec]
    omega

/-- The values of items are the values of each. -/
theorem itemValues?_eq_some_iff {items : List Source} {room : Nat} {values : List Value} :
    itemValues? items room = some values ↔
      List.Forall₂ (fun item v => item.value? room = some v) items values := by
  induction items generalizing values with
  | nil => simp [itemValues?, eq_comm]
  | cons item items ih =>
    rw [itemValues?]
    constructor
    · intro h
      split at h
      · next v later hv hlater =>
        obtain rfl := Option.some.inj h
        exact .cons hv (ih.1 hlater)
      · simp at h
    · intro h
      cases h with
      | cons hv hlater => rw [hv, ih.2 hlater]

/-- The keys and values of members are those of each. -/
theorem memberValues?_eq_some_iff {members : List (Option String × Source)} {room : Nat}
    {values : List (String × Value)} :
    memberValues? members room = some values ↔
      List.Forall₂ (fun member v => member.1 = some v.1 ∧ member.2.value? room = some v.2)
        members values := by
  induction members generalizing values with
  | nil => simp [memberValues?, eq_comm]
  | cons member members ih =>
    obtain ⟨key, source⟩ := member
    rw [memberValues?]
    constructor
    · intro h
      split at h
      · next v later hv hlater =>
        obtain rfl := Option.some.inj h
        cases key with
        | none => simp [memberValue?] at hv
        | some key =>
          obtain ⟨value, hvalue, rfl⟩ := Option.map_eq_some_iff.1 hv
          exact .cons ⟨rfl, hvalue⟩ (ih.1 hlater)
      · simp at h
    · intro h
      cases h with
      | cons hv hlater =>
        obtain ⟨rfl, hvalue⟩ := hv
        rw [memberValue?, hvalue, ih.2 hlater]
        rfl

theorem isSome_itemValues?_iff {items : List Source} {room : Nat} :
    (itemValues? items room).isSome = true ↔
      ∀ item ∈ items, (item.value? room).isSome = true := by
  induction items with
  | nil => simp [itemValues?]
  | cons item items ih =>
    rw [List.forall_mem_cons, ← ih, itemValues?]
    cases item.value? room <;> cases itemValues? items room <;> simp

theorem isSome_memberValues?_iff {members : List (Option String × Source)} {room : Nat} :
    (memberValues? members room).isSome = true ↔
      ∀ member ∈ members, member.1.isSome = true ∧ (member.2.value? room).isSome = true := by
  induction members with
  | nil => simp [memberValues?]
  | cons member members ih =>
    obtain ⟨key, source⟩ := member
    rw [List.forall_mem_cons, ← ih, memberValues?]
    cases key <;> cases hvalue : source.value? room <;> cases memberValues? members room <;>
      simp [memberValue?, hvalue]

/-- Exactly the legible trees have a value. -/
theorem isSome_value?_iff {source : Source} {room : Nat} :
    (source.value? room).isSome = true ↔ source.Legible room := by
  induction source using Source.induction generalizing room with
  | null => exact ⟨fun _ => .null room, fun _ => rfl⟩
  | bool b => exact ⟨fun _ => .bool b room, fun _ => rfl⟩
  | number n =>
    rw [value?]
    constructor
    · intro h
      split at h
      · next hn => exact .number hn room
      · simp at h
    · intro h
      cases h with
      | number hn => simp [hn]
  | string s =>
    cases s with
    | none =>
      constructor
      · intro h
        simp [value?] at h
      · intro h
        cases h
    | some s => exact ⟨fun _ => .string s room, fun _ => rfl⟩
  | array items ih =>
    cases room with
    | zero =>
      constructor
      · intro h
        simp [value?] at h
      · intro h
        cases h
    | succ room =>
      rw [value?, Option.isSome_map, isSome_itemValues?_iff]
      constructor
      · intro h
        exact .array fun item hitem => (ih item hitem).1 (h item hitem)
      · intro h item hitem
        cases h with
        | array h => exact (ih item hitem).2 (h item hitem)
  | object members ih =>
    cases room with
    | zero =>
      constructor
      · intro h
        simp [value?] at h
      · intro h
        cases h
    | succ room =>
      rw [value?, Option.isSome_map, isSome_memberValues?_iff]
      constructor
      · intro h
        exact .object (fun member hmember => (h member hmember).1)
          fun member hmember => (ih member hmember).1 (h member hmember).2
      · intro h member hmember
        cases h with
        | object hkeys h => exact ⟨hkeys member hmember, (ih member hmember).2 (h member hmember)⟩

end Source

/-! ## Texts -/

/-- Acceptable JSON: the grammar derives the text, and everything in it can be kept. -/
def Acceptable (t : Text) : Prop :=
  ∃ source, Derives t (.value source) ∧ source.Legible depthLimit

/-- The texts of a value. -/
def TextOf (t : Text) (v : Value) : Prop :=
  ∃ source, Derives t (.value source) ∧ source.value? depthLimit = some v

theorem readText?_eq_some_iff {t : Text} {v : Value} : readText? t = some v ↔ TextOf t v := by
  simp only [readText?, Option.bind_eq_some_iff, read?_eq_some_iff, TextOf]

theorem acceptable_iff {t : Text} : Acceptable t ↔ ∃ v, TextOf t v := by
  constructor
  · rintro ⟨source, hderives, hlegible⟩
    obtain ⟨v, hv⟩ := Option.isSome_iff_exists.1 (Source.isSome_value?_iff.2 hlegible)
    exact ⟨v, source, hderives, hv⟩
  · rintro ⟨v, source, hderives, hv⟩
    exact ⟨source, hderives, Source.isSome_value?_iff.1 (Option.isSome_iff_exists.2 ⟨v, hv⟩)⟩

theorem readText?_eq_none_iff {t : Text} : readText? t = none ↔ ¬ Acceptable t := by
  rw [acceptable_iff, Option.eq_none_iff_forall_ne_some, not_exists]
  simp only [ne_eq, readText?_eq_some_iff]

/-! ## Printed values -/

theorem eq_of_itemValues?_itemSources {items : List Value}
    (h : ∀ item ∈ items, ∀ {room v}, item.source.value? room = some v → v = item) {room : Nat}
    {values : List Value} (hvalues : Source.itemValues? (Value.itemSources items) room = some values) :
    values = items := by
  induction items generalizing values with
  | nil => simpa [Value.itemSources, Source.itemValues?, eq_comm] using hvalues
  | cons item items ih =>
    rw [List.forall_mem_cons] at h
    rw [Value.itemSources, Source.itemValues?_eq_some_iff] at hvalues
    cases hvalues with
    | cons hitem hitems => rw [h.1 hitem, ih h.2 (Source.itemValues?_eq_some_iff.2 hitems)]

theorem eq_of_memberValues?_memberSources {members : List (String × Value)}
    (h : ∀ member ∈ members, ∀ {room v}, member.2.source.value? room = some v → v = member.2)
    {room : Nat} {values : List (String × Value)}
    (hvalues : Source.memberValues? (Value.memberSources members) room = some values) :
    values = members := by
  induction members generalizing values with
  | nil => simpa [Value.memberSources, Source.memberValues?, eq_comm] using hvalues
  | cons member members ih =>
    obtain ⟨key, value⟩ := member
    rw [List.forall_mem_cons] at h
    rw [Value.memberSources, Source.memberValues?_eq_some_iff] at hvalues
    cases hvalues with
    | cons hmember hmembers =>
      obtain ⟨hkey, hvalue⟩ := hmember
      rw [ih h.2 (Source.memberValues?_eq_some_iff.2 hmembers)]
      congr 1
      exact Prod.ext (Option.some.inj hkey).symm (h.1 hvalue)

/-- A value is written as a tree of no other value. -/
theorem eq_of_value?_source {v v' : Value} {room : Nat} (h : v.source.value? room = some v') :
    v' = v := by
  induction v using Value.induction generalizing v' room with
  | null | bool | string => simpa [Value.source, Source.value?, eq_comm] using h
  | number n =>
    rw [Value.source, Source.value?] at h
    split at h
    · exact (Option.some.inj h).symm
    · simp at h
  | array items ih =>
    cases room with
    | zero => simp [Value.source, Source.value?] at h
    | succ room =>
      rw [Value.source, Source.value?] at h
      obtain ⟨values, hvalues, rfl⟩ := Option.map_eq_some_iff.1 h
      rw [eq_of_itemValues?_itemSources (fun item hitem _ _ => ih item hitem) hvalues]
  | object members ih =>
    cases room with
    | zero => simp [Value.source, Source.value?] at h
    | succ room =>
      rw [Value.source, Source.value?] at h
      obtain ⟨values, hvalues, rfl⟩ := Option.map_eq_some_iff.1 h
      rw [eq_of_memberValues?_memberSources (fun member hmember _ _ => ih member hmember) hvalues]

/-- What is printed for a value is a text of it, if everything in it can be kept. -/
theorem textOf_print (style : Style) {v : Value} (h : v.source.Legible depthLimit) :
    TextOf (v.print style) v := by
  obtain ⟨v', hv'⟩ := Option.isSome_iff_exists.1 (Source.isSome_value?_iff.2 h)
  refine ⟨v.source, written style v 0, ?_⟩
  rw [hv', eq_of_value?_source hv']

end DiagramStudio.Json
