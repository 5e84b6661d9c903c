import DiagramStudio.Text.Numeral
import DiagramStudio.Text.Utf8

/-!
# Percent-encoding

A byte that cannot stand for itself in an address is written as a percent sign and two hexadecimal
digits. Each part of an address has its own set of ASCII characters to encode; control characters
and everything beyond ASCII are encoded in all of them.
-/

namespace DiagramStudio.Http.Percent

open Text

/-- Two hexadecimal digits in upper case. -/
def hexByte (b : UInt8) : Text :=
  let digit (n : Nat) : Char := (Nat.digitChar n).toUpper
  [digit (b.toNat / 16), digit (b.toNat % 16)]

/-- A character as the percent-encoded bytes of its UTF-8 form. -/
def encodeChar (c : Char) : Text := (Utf8.encodeChar c).flatMap fun b => '%' :: hexByte b

/-- Encodes the control characters, everything beyond ASCII and the characters in `set`. -/
def encode (set : List Char) (t : Text) : Text :=
  t.flatMap fun c =>
    if c.toNat < 0x20 || 0x7F ≤ c.toNat || set.contains c then encodeChar c else [c]

/-- Each character is encoded by itself. -/
theorem encode_append (set : List Char) (s t : Text) :
    encode set (s ++ t) = encode set s ++ encode set t := by
  simp [encode]

/-- The bytes of a text. A percent sign without two digits stands for itself. -/
def decode : Text → List UInt8
  | [] => []
  | '%' :: a :: b :: t =>
    match hexValue? a, hexValue? b with
    | some high, some low => UInt8.ofNat (16 * high + low) :: decode t
    | _, _ => Utf8.encodeChar '%' ++ decode (a :: b :: t)
  | c :: t => Utf8.encodeChar c ++ decode t

/-- The characters of a text whose bytes are well-formed. -/
def decode? (t : Text) : Option Text := Utf8.decode? (decode t)

end DiagramStudio.Http.Percent
