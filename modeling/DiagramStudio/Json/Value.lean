/-!
# JSON values

`Value` is the data that a JSON text denotes, `Source` the same tree as it is written: a string
escape may be half of a surrogate pair, which stands for no text, and a number may be too large
for a double. A member of an object keeps its place, and a key may be repeated.
-/

namespace DiagramStudio.Json

/-- A number as it is written: digits alone, or a coefficient times a power of ten. -/
inductive Number
  | whole (n : Nat)
  | decimal (negative : Bool) (coefficient : Nat) (exponent : Int)
  deriving Repr, DecidableEq

namespace Number

/-- The least number that rounds to infinity as a double. -/
def overflowBound : Nat := (Nat.pow 2 54 - 1) * Nat.pow 2 970

/-- True if `coefficient * 10 ^ exponent` stays below `overflowBound`. The number of digits
settles all but the numbers of 309 digits, so large exponents cost nothing. -/
def belowBound (coefficient : Nat) (exponent : Int) : Bool :=
  let size := (Nat.toDigits 10 coefficient).length + exponent
  if coefficient = 0 ∨ size < 309 then true
  else if 309 < size then false
  else if 0 ≤ exponent then coefficient * Nat.pow 10 exponent.toNat < overflowBound
  else coefficient < overflowBound * Nat.pow 10 (-exponent).toNat

/-- True of a number that a double can hold, rounded. -/
def isFinite : Number → Bool
  | whole n => n < overflowBound
  | decimal _ coefficient exponent => belowBound coefficient exponent

/-- The count that a number written with digits alone denotes, if it fits 64 bits. -/
def count? : Number → Option UInt64
  | whole n => if n < Nat.pow 2 64 then some (UInt64.ofNat n) else none
  | decimal .. => none

end Number

/-- The data of a JSON text. -/
inductive Value
  | null
  | bool (b : Bool)
  | number (n : Number)
  | string (s : String)
  | array (items : List Value)
  | object (members : List (String × Value))
  deriving Repr, BEq

namespace Value

def count (n : UInt64) : Value := .number (.whole n.toNat)

/-- The member of an object with the given key; of repeated keys the last one counts. -/
def get? (key : String) : Value → Option Value
  | object members => members.reverse.lookup key
  | _ => none

def items? : Value → Option (List Value)
  | array items => some items
  | _ => none

def string? : Value → Option String
  | string s => some s
  | _ => none

def count? : Value → Option UInt64
  | number n => n.count?
  | _ => none

end Value

/-- The deepest nesting of arrays and objects in a value that is kept. -/
def depthLimit : Nat := 127

/-- A JSON text as it is written. A string or key is `none` if it stands for no text. -/
inductive Source
  | null
  | bool (b : Bool)
  | number (n : Number)
  | string (s : Option String)
  | array (items : List Source)
  | object (members : List (Option String × Source))
  deriving Repr, BEq

namespace Source

mutual

/-- The value of a source whose arrays and objects are nested at most `room` deep. Every string
must stand for a text and every number must be finite. -/
def value? : Source → (room : Nat) → Option Value
  | null, _ => some .null
  | bool b, _ => some (.bool b)
  | number n, _ => if n.isFinite then some (.number n) else none
  | string s, _ => s.map .string
  | array _, 0 => none
  | array items, room + 1 => (itemValues? items room).map .array
  | object _, 0 => none
  | object members, room + 1 => (memberValues? members room).map .object
termination_by structural s => s

/-- The values of the items of an array. -/
def itemValues? : List Source → (room : Nat) → Option (List Value)
  | [], _ => some []
  | item :: rest, room =>
    match item.value? room, itemValues? rest room with
    | some value, some values => some (value :: values)
    | _, _ => none
termination_by structural items => items

/-- The keys and values of the members of an object. -/
def memberValues? :
    List (Option String × Source) → (room : Nat) → Option (List (String × Value))
  | [], _ => some []
  | member :: rest, room =>
    match memberValue? member room, memberValues? rest room with
    | some value, some values => some (value :: values)
    | _, _ => none
termination_by structural members => members

/-- The key and value of a member. -/
def memberValue? : Option String × Source → (room : Nat) → Option (String × Value)
  | (none, _), _ => none
  | (some key, member), room => (member.value? room).map fun value => (key, value)
termination_by structural member => member

end

end Source

namespace Value

mutual

def source : Value → Source
  | null => .null
  | bool b => .bool b
  | number n => .number n
  | string s => .string (some s)
  | array items => .array (itemSources items)
  | object members => .object (memberSources members)
termination_by structural v => v

/-- The items of an array as sources. -/
def itemSources : List Value → List Source
  | [] => []
  | item :: rest => item.source :: itemSources rest
termination_by structural items => items

/-- The members of an object as sources. -/
def memberSources : List (String × Value) → List (Option String × Source)
  | [] => []
  | member :: rest => memberSource member :: memberSources rest
termination_by structural members => members

/-- A member of an object as a source. -/
def memberSource : String × Value → Option String × Source
  | (key, value) => (some key, value.source)
termination_by structural member => member

end

end Value

end DiagramStudio.Json
