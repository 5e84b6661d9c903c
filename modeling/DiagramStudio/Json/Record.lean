import DiagramStudio.Json.Value

/-!
# Records in JSON

A record is an object with one member per field, or an array of the fields in their order. Unknown
members are skipped; a field that is given twice makes the record unreadable.
-/

namespace DiagramStudio.Json

/-- The fields of a record that are present, by name. -/
abbrev Fields := List (String × Source)

namespace Source

/-- The members of an object whose key is one of `names`. Every key must stand for a text. -/
def knownMembers? (names : List String) :
    List (Option String × Source) → Option Fields
  | [] => some []
  | (none, _) :: _ => none
  | (some key, member) :: rest =>
    (knownMembers? names rest).map fun known =>
      if names.contains key then (key, member) :: known else known

/-- True if no name occurs twice. -/
def distinctNames : Fields → Bool
  | [] => true
  | (name, _) :: rest => !(rest.any fun field => field.1 == name) && distinctNames rest

def fields? (names : List String) : Source → Option Fields
  | object members =>
    match knownMembers? names members with
    | some known => if distinctNames known then some known else none
    | none => none
  | array items => if items.length ≤ names.length then some (names.zip items) else none
  | _ => none

def text? : Source → Option String
  | string s => s
  | _ => none

/-- A count of 64 bits, written with digits alone. -/
def count? : Source → Option UInt64
  | number n => n.count?
  | _ => none

end Source

/-- A field that must be there. -/
def Fields.required? {α : Type} (fields : Fields) (name : String) (decode : Source → Option α) :
    Option α :=
  (fields.lookup name).bind decode

/-- A field that may be absent or null. -/
def Fields.optional? {α : Type} (fields : Fields) (name : String) (decode : Source → Option α) :
    Option (Option α) :=
  match fields.lookup name with
  | none => some none
  | some .null => some none
  | some source => (decode source).map some

end DiagramStudio.Json
