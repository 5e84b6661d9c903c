import DiagramStudio.Proofs.Json.Acceptable
import DiagramStudio.Proofs.Json.RoundTrip

/-!
# Records in acceptable texts

A record is read from a tree that may hold what cannot be kept. If everything in the tree can be kept,
the record is a matter of the value alone: its fields are the values under their names.

## Main definitions

- `Json.Value.under`: the values under a key
- `Json.Source.HoldsFields`: fields that come from the members of a value
-/

namespace DiagramStudio.Json

/-- The values under a key of an object, in order. -/
def Value.under (key : String) : Value → List Value
  | .object members => (members.filter (·.1 == key)).map Prod.snd
  | _ => []

theorem Value.exists_members_of_under {v part : Value} {key : String} (h : v.under key = [part]) :
    ∃ members, v = .object members := by
  cases v with
  | object members => exact ⟨members, rfl⟩
  | null | bool | number | string | array => simp [under] at h

/-! ## What a value comes from -/

namespace Source

variable {source : Source} {room : Nat}

theorem eq_null_of_value? (h : source.value? room = some .null) : source = .null := by
  cases source with
  | null => rfl
  | bool | number | string => simp [value?] at h
  | array | object => cases room <;> simp [value?] at h

theorem eq_string_of_value? {s : String} (h : source.value? room = some (.string s)) :
    source = .string (some s) := by
  cases source with
  | string => simpa [value?] using h
  | null | bool | number => simp [value?] at h
  | array | object => cases room <;> simp [value?] at h

theorem eq_number_of_value? {n : Number} (h : source.value? room = some (.number n)) :
    source = .number n := by
  cases source with
  | number =>
    rw [value?] at h
    split at h
    · simpa using h
    · simp at h
  | null | bool | string => simp [value?] at h
  | array | object => cases room <;> simp [value?] at h

theorem exists_array_of_value? {items : List Value}
    (h : source.value? (room + 1) = some (.array items)) : ∃ sources, source = .array sources ∧
      List.Forall₂ (fun item v => item.value? room = some v) sources items := by
  cases source with
  | array sources =>
    rw [value?] at h
    obtain ⟨values, hvalues, heq⟩ := Option.map_eq_some_iff.1 h
    obtain rfl := Value.array.inj heq
    exact ⟨sources, rfl, itemValues?_eq_some_iff.1 hvalues⟩
  | null | bool | number | string | object => simp [value?] at h

theorem exists_object_of_value? {members : List (String × Value)}
    (h : source.value? (room + 1) = some (.object members)) : ∃ sources, source = .object sources ∧
      List.Forall₂ (fun member v => member.1 = some v.1 ∧ member.2.value? room = some v.2)
        sources members := by
  cases source with
  | object sources =>
    rw [value?] at h
    obtain ⟨values, hvalues, heq⟩ := Option.map_eq_some_iff.1 h
    obtain rfl := Value.object.inj heq
    exact ⟨sources, rfl, memberValues?_eq_some_iff.1 hvalues⟩
  | null | bool | number | string | array => simp [value?] at h

/-! ## Fields -/

/-- A field and the member that it comes from. -/
def Stands (room : Nat) (field : String × Source) (member : String × Value) : Prop :=
  field.1 = member.1 ∧ field.2.value? room = some member.2

/-- Nothing but the members with other names is left out. -/
theorem exists_knownMembers? (names : List String) {sources : List (Option String × Source)}
    {members : List (String × Value)}
    (h : List.Forall₂ (fun member v => member.1 = some v.1 ∧ member.2.value? room = some v.2)
      sources members) :
    ∃ fields, knownMembers? names sources = some fields ∧
      List.Forall₂ (Stands room) fields (members.filter fun member => names.contains member.1) := by
  induction h with
  | nil => exact ⟨[], rfl, .nil⟩
  | @cons source member sources members hmember _ ih =>
    obtain ⟨key, source⟩ := source
    obtain ⟨rfl, hvalue⟩ := hmember
    obtain ⟨fields, hfields, hstand⟩ := ih
    rw [knownMembers?, hfields, Option.map_some, List.filter_cons]
    split
    · exact ⟨_, rfl, .cons ⟨rfl, hvalue⟩ hstand⟩
    · exact ⟨_, rfl, hstand⟩

theorem map_fst_of_stands {fields : Fields} {members : List (String × Value)}
    (h : List.Forall₂ (Stands room) fields members) :
    fields.map Prod.fst = members.map Prod.fst := by
  induction h with
  | nil => rfl
  | cons hfield _ ih => rw [List.map_cons, List.map_cons, hfield.1, ih]

/-- A field is found where the first member of its name is. -/
theorem rel_lookup_of_stands {fields : Fields} {members : List (String × Value)}
    (h : List.Forall₂ (Stands room) fields members) (name : String) :
    Option.Rel (fun part v => part.value? room = some v) (fields.lookup name)
      ((Value.object members).under name).head? := by
  induction h with
  | nil => exact .none
  | @cons field member fields members hfield _ ih =>
    obtain ⟨key, part⟩ := field
    obtain ⟨rfl, hvalue⟩ := hfield
    rw [List.lookup_cons, Value.under, List.filter_cons]
    by_cases hname : member.1 = name
    · subst hname
      rw [beq_self_eq_true, if_pos rfl]
      exact .some hvalue
    · rw [beq_eq_false_iff_ne.2 hname, beq_eq_false_iff_ne.2 (Ne.symm hname), if_neg (by decide)]
      exact ih

theorem nodup_of_length_under_le {names : List String} {members : List (String × Value)}
    (h : ∀ name ∈ names, ((Value.object members).under name).length ≤ 1) :
    ((members.filter fun member => names.contains member.1).map Prod.fst).Nodup := by
  rw [List.nodup_iff_count]
  intro name
  by_cases hname : name ∈ names
  · refine Nat.le_trans ?_ (h name hname)
    rw [List.count, List.countP_map, List.countP_filter, Value.under, List.length_map,
      ← List.countP_eq_length_filter]
    refine List.countP_mono_left fun member _ hmember => ?_
    exact (Bool.and_eq_true_iff.1 hmember).1
  · rw [List.count_eq_zero_of_not_mem]
    · exact Nat.zero_le 1
    · intro hmem
      obtain ⟨member, hmember, rfl⟩ := List.mem_map.1 hmem
      exact hname (List.contains_iff_mem.1 (List.mem_filter.1 hmember).2)

theorem under_filter {names : List String} {name : String} (hname : name ∈ names)
    (members : List (String × Value)) :
    (Value.object (members.filter fun member => names.contains member.1)).under name =
      (Value.object members).under name := by
  rw [Value.under, Value.under, List.filter_filter]
  congr 1
  refine List.filter_congr fun member _ => ?_
  by_cases h : member.1 = name
  · simp [h, hname]
  · simp [h]

/-- Fields that come from the members of a value with these names. -/
structure HoldsFields (fields : Fields) (names : List String) (root : Value) (room : Nat) :
    Prop where
  present : ∀ {name v}, name ∈ names → root.under name = [v] →
    ∃ part, fields.lookup name = some part ∧ part.value? room = some v
  absent : ∀ {name}, name ∈ names → root.under name = [] → fields.lookup name = none

theorem holdsFields_of_rel_lookup {fields : Fields} {names : List String} {root : Value}
    (h : ∀ name ∈ names, Option.Rel (fun part v => part.value? room = some v)
      (fields.lookup name) (root.under name).head?) : HoldsFields fields names root room where
  present := by
    intro name v hname hunder
    have hrel := h name hname
    rw [hunder, List.head?_cons] at hrel
    cases hlookup : fields.lookup name with
    | none => simp [hlookup] at hrel
    | some part =>
      rw [hlookup, Option.rel_some_some] at hrel
      exact ⟨part, rfl, hrel⟩
  absent := by
    intro name hname hunder
    have hrel := h name hname
    rw [hunder, List.head?_nil] at hrel
    cases hlookup : fields.lookup name with
    | none => rfl
    | some part => simp [hlookup] at hrel

/-- The fields of a record are the values under their names, if none of these is given twice. -/
theorem exists_fields {root : Value} (names : List String)
    (h : source.value? (room + 1) = some root) (hobject : ∃ members, root = .object members)
    (hnames : ∀ name ∈ names, (root.under name).length ≤ 1) :
    ∃ fields, source.fields? names = some fields ∧ HoldsFields fields names root room := by
  obtain ⟨members, rfl⟩ := hobject
  obtain ⟨sources, rfl, hmembers⟩ := exists_object_of_value? h
  obtain ⟨fields, hfields, hstand⟩ := exists_knownMembers? names hmembers
  have hdistinct : distinctNames fields = true := by
    apply distinctNames_of_nodup
    rw [map_fst_of_stands hstand]
    exact nodup_of_length_under_le hnames
  refine ⟨fields, ?_, holdsFields_of_rel_lookup fun name hname => ?_⟩
  · rw [fields?, hfields]
    simp only [hdistinct, if_true]
  · rw [← under_filter hname]
    exact rel_lookup_of_stands hstand name

/-! ## Parts of a record -/

theorem text?_of_value? {s : String} (h : source.value? room = some (.string s)) :
    source.text? = some s := by
  rw [eq_string_of_value? h, text?]

theorem count?_of_value? {n : UInt64} (h : source.value? room = some (.count n)) :
    source.count? = some n := by
  rw [eq_number_of_value? h]
  exact Number.count?_whole n

variable {fields : Fields} {names : List String} {root : Value} {name : String}

theorem required?_of_lookup {α : Type} {decode : Source → Option α} {part : Source} {a : α}
    (hlookup : fields.lookup name = some part) (hdecode : decode part = some a) :
    fields.required? name decode = some a := by
  rw [Fields.required?, hlookup, Option.bind_some, hdecode]

theorem HoldsFields.required?_text? (h : HoldsFields fields names root room)
    (hname : name ∈ names) {s : String} (hunder : root.under name = [.string s]) :
    fields.required? name text? = some s := by
  obtain ⟨part, hlookup, hpart⟩ := h.present hname hunder
  exact required?_of_lookup hlookup (text?_of_value? hpart)

theorem HoldsFields.required?_count? (h : HoldsFields fields names root room)
    (hname : name ∈ names) {n : UInt64} (hunder : root.under name = [.count n]) :
    fields.required? name count? = some n := by
  obtain ⟨part, hlookup, hpart⟩ := h.present hname hunder
  exact required?_of_lookup hlookup (count?_of_value? hpart)

/-- A text that may be left out may also be null. -/
theorem HoldsFields.exists_optional?_text? (h : HoldsFields fields names root room)
    (hname : name ∈ names)
    (hunder : root.under name = [] ∨ root.under name = [.null] ∨ ∃ s, root.under name = [.string s]) :
    ∃ s, fields.optional? name text? = some s := by
  rw [Fields.optional?]
  rcases hunder with hunder | hunder | ⟨s, hunder⟩
  · rw [h.absent hname hunder]
    exact ⟨none, rfl⟩
  · obtain ⟨part, hlookup, hpart⟩ := h.present hname hunder
    rw [hlookup, eq_null_of_value? hpart]
    exact ⟨none, rfl⟩
  · obtain ⟨part, hlookup, hpart⟩ := h.present hname hunder
    rw [hlookup, eq_string_of_value? hpart]
    exact ⟨some s, rfl⟩

end Source

end DiagramStudio.Json
