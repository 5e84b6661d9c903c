import DiagramStudio.Text.Numeral

/-!
# Addresses of 128 bits

An address is written as eight hexadecimal numbers with colons between them. Two colons in a row
stand once for one or more zeros, and the last two numbers may be written as four decimal bytes.
It is shown in lower case with the longest row of two or more zeros left out, the first of several.
-/

namespace DiagramStudio.Http

open Text

/-- An address of 128 bits in eight pieces. -/
structure Ipv6 where
  pieces : List UInt16
  length_eq : pieces.length = 8
  deriving Repr, DecidableEq

namespace Ipv6

def ofPieces? (pieces : List UInt16) : Option Ipv6 :=
  if h : pieces.length = 8 then some ⟨pieces, h⟩ else none

/-- A piece has at most four digits. -/
def piece? (field : Text) : Option UInt16 :=
  if field.length ≤ 4 then (digitsIn? 16 field).map UInt16.ofNat else none

/-- A decimal byte without leading zeros. -/
def byte? (field : Text) : Option Nat :=
  if field.length > 1 && field.head? = some '0' then none
  else (digits? field).filter (· < 256)

/-- Two pieces written as four decimal bytes. -/
def bytes? (field : Text) : Option (List UInt16) :=
  match (segments (· == '.') field).mapM byte? with
  | some [a, b, c, d] => some [UInt16.ofNat (256 * a + b), UInt16.ofNat (256 * c + d)]
  | _ => none

/-- The pieces at the end of an address, where decimal bytes may stand. -/
def lastPieces? : List Text → Option (List UInt16)
  | [] => some []
  | [last] => ((piece? last).map fun piece => [piece]) <|> bytes? last
  | field :: rest =>
    match piece? field, lastPieces? rest with
    | some piece, some pieces => some (piece :: pieces)
    | _, _ => none

/-- The fields on one side of two colons, where there may be none. -/
def fields (side : Text) : List Text := if side.isEmpty then [] else segments (· == ':') side

def ofText? (t : Text) : Option Ipv6 :=
  match cut? "::".toList t with
  | some (before, after) =>
    match (fields before).mapM piece?, lastPieces? (fields after) with
    | some front, some back =>
      let missing := 8 - (front.length + back.length)
      if missing = 0 then none else ofPieces? (front ++ List.replicate missing 0 ++ back)
    | _, _ => none
  | none => (lastPieces? (segments (· == ':') t)).bind ofPieces?

/-- Where the longest row of zeros starts, and its length. -/
def longestZeros : List UInt16 → Nat × Nat
  | [] => (0, 0)
  | piece :: rest =>
    let here := ((piece :: rest).takeWhile (· == 0)).length
    let later := longestZeros rest
    if later.2 ≤ here then (0, here) else (later.1 + 1, later.2)

/-- Pieces with colons between them. -/
def renderPieces (pieces : List UInt16) : Text :=
  List.intercalate [':'] (pieces.map fun piece => hexDigits piece.toNat)

/-- The address in its shortest form. -/
def render (address : Ipv6) : Text :=
  let (start, count) := longestZeros address.pieces
  if count < 2 then renderPieces address.pieces
  else
    renderPieces (address.pieces.take start) ++ [':', ':'] ++
      renderPieces (address.pieces.drop (start + count))

end Ipv6

end DiagramStudio.Http
