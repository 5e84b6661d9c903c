import DiagramStudio.Text.Numeral

/-!
# Addresses of 32 bits

An address is written as up to four numbers with points between them. The last number covers the
bytes that the others leave. A number is decimal, octal after a zero, or hexadecimal after a zero
and an x, and is shown in decimal again, one number a byte.
-/

namespace DiagramStudio.Http

open Text

/-- An address of 32 bits. -/
structure Ipv4 where
  value : UInt32
  deriving Repr, DecidableEq

namespace Ipv4

/-- Reads a number of an address. The base may be announced without a digit to follow. -/
def number? : Text → Option Nat
  | '0' :: c :: digits =>
    if c == 'x' || c == 'X' then if digits.isEmpty then some 0 else digitsIn? 16 digits
    else digitsIn? 8 (c :: digits)
  | digits => digitsIn? 10 digits

/-- The parts of a host between points. A point at the end opens no further part. -/
def parts (host : Text) : List Text :=
  let all := segments (· == '.') host
  if all.getLast? = some [] then all.dropLast else all

/-- A host whose last part is a number is an address or nothing. -/
def isMeant (host : Text) : Bool :=
  (parts host).getLast?.any fun last =>
    (!last.isEmpty && last.all Char.isDigit) || (number? last).isSome

/-- The address of up to four numbers. -/
def ofNumbers? (numbers : List Nat) : Option Ipv4 :=
  let bytes := numbers.dropLast
  let room := Nat.pow 256 (4 - bytes.length)
  (numbers.getLast?.filter fun last =>
    bytes.length < 4 && last < room && bytes.all (· < 256)).map fun last =>
      ⟨UInt32.ofNat (bytes.foldl (fun n byte => 256 * n + byte) 0 * room + last)⟩

def ofHost? (host : Text) : Option Ipv4 := ((parts host).mapM number?).bind ofNumbers?

/-- The four bytes in decimal. -/
def render (address : Ipv4) : Text :=
  let byte (place : Nat) : Text := decimal (address.value.toNat / Nat.pow 256 place % 256)
  List.intercalate ['.'] ([3, 2, 1, 0].map byte)

end Ipv4

end DiagramStudio.Http
