import DiagramStudio.Text.Basic

/-!
# Numerals

Reading and writing whole numbers with ASCII digits, in decimal notation and in other bases up to
sixteen. Settings may carry one leading plus sign; a numeral at or above the bound of its type is
not a number of that type.
-/

namespace DiagramStudio.Text

def decimal (n : Nat) : Text := Nat.toDigits 10 n

/-- The number that a run of decimal digits denotes. -/
def digitsValue (digits : Text) : Nat :=
  digits.foldl (fun n c => 10 * n + (c.toNat - 48)) 0

/-- Reads a non-empty run of decimal digits and nothing else. -/
def digits? (t : Text) : Option Nat :=
  if !t.isEmpty && t.all Char.isDigit then some (digitsValue t) else none

/-- Reads decimal digits after at most one plus sign, as a number below `bound`. -/
def numeral? (bound : Nat) (t : Text) : Option Nat :=
  let read := match t with
    | '+' :: rest => digits? rest
    | _ => digits? t
  read.filter (· < bound)

/-- The value of a hexadecimal digit in either case. -/
def hexValue? (c : Char) : Option Nat :=
  if c.isDigit then some (c.toNat - 48)
  else if 'a' ≤ c ∧ c ≤ 'f' then some (c.toNat - 87)
  else if 'A' ≤ c ∧ c ≤ 'F' then some (c.toNat - 55)
  else none

/-- The hexadecimal digits of `n`, lower case, without leading zeros. -/
def hexDigits (n : Nat) : Text := Nat.toDigits 16 n

/-- Reads a non-empty run of digits of a base up to sixteen and nothing else. -/
def digitsIn? (base : Nat) (t : Text) : Option Nat :=
  if t.isEmpty then none
  else
    (t.mapM fun c => (hexValue? c).filter (· < base)).map fun digits =>
      digits.foldl (fun n d => base * n + d) 0

/-- Reads a numeral after at most one sign, as an integer of 64 bits in two's complement. -/
def integer? (t : Text) : Option Int :=
  match t with
  | '-' :: rest => ((digits? rest).filter (· ≤ Nat.pow 2 63)).map fun (n : Nat) => -(n : Int)
  | _ => (numeral? (Nat.pow 2 63) t).map Int.ofNat

end DiagramStudio.Text
