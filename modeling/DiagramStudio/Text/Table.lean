import DiagramStudio.Text.Blank
import DiagramStudio.Text.Numeral

/-!
# Tables of characters

The properties of characters are kept in tables, and a table is written as text. Its rows are
separated by blanks. A row names a character or, with a hyphen, a range of characters, and then,
each after a colon, the numbers that the table gives to them. All numbers are hexadecimal.
-/

namespace DiagramStudio.Text

/-- A range of code points and what a table says of it. -/
structure Row where
  first : Nat
  last : Nat
  values : List Nat
  deriving Repr, DecidableEq

namespace Row

def ofText? (t : Text) : Option Row :=
  match segments (· == ':') t with
  | [] => none
  | range :: values =>
    match (segments (· == '-') range).mapM (digitsIn? 16), values.mapM (digitsIn? 16) with
    | some [only], some values => some ⟨only, only, values⟩
    | some [first, last], some values => some ⟨first, last, values⟩
    | _, _ => none

def covers (row : Row) (c : Char) : Bool := row.first ≤ c.toNat && c.toNat ≤ row.last

end Row

abbrev Table := List Row

namespace Table

def ofString (s : String) : Table := (words s.toList).filterMap Row.ofText?

/-- True of the characters that a row covers. -/
def contains (table : Table) (c : Char) : Bool := table.any fun row => row.covers c

/-- The first number that the table gives to a character, 0 if it gives none. -/
def value (table : Table) (c : Char) : Nat :=
  ((table.find? fun row => row.covers c).bind fun row => row.values.head?).getD 0

end Table

end DiagramStudio.Text
