import DiagramStudio.Json.Value
import DiagramStudio.Text.Numeral

/-!
# Reading JSON

A strict reader. Blanks are the space, the tab, the newline and the carriage return; nothing may
follow the value; strings hold no raw control characters. Each reader takes a text and answers
with what it read and the rest of the text. Nesting is bounded by an amount of fuel that the
length of the text supplies, so the reader itself sets no limit on depth.
-/

namespace DiagramStudio.Json

open Text

/-- The blanks of JSON. -/
def isSpace (c : Char) : Bool := c == ' ' || c == '\t' || c == '\n' || c == '\r'

def skipSpace (t : Text) : Text := t.dropWhile isSpace

/-! ## Strings -/

/-- A string is written with characters and with escaped UTF-16 code units. -/
inductive StringUnit
  | char (c : Char)
  | code (u : Nat)
  deriving Repr, DecidableEq

/-- The code unit of four hexadecimal digits. -/
def codeUnit? (a b c d : Char) : Option Nat :=
  match hexValue? a, hexValue? b, hexValue? c, hexValue? d with
  | some a, some b, some c, some d => some (((16 * a + b) * 16 + c) * 16 + d)
  | _, _, _, _ => none

/-- The character that a backslash and a letter or sign stand for. -/
def escaped? (c : Char) : Option Char :=
  if c = '\x22' ∨ c = '\x5c' ∨ c = '/' then some c
  else if c = 'n' then some '\n'
  else if c = 'r' then some '\r'
  else if c = 't' then some '\t'
  else if c = 'b' then some '\x08'
  else if c = 'f' then some '\x0c'
  else none

/-- The units of a string up to its closing quote, and what follows it. -/
def stringUnits? : Text → Option (List StringUnit × Text)
  | [] => none
  | '\x22' :: rest => some ([], rest)
  | '\x5c' :: 'u' :: a :: b :: c :: d :: rest =>
    match codeUnit? a b c d with
    | some u => (stringUnits? rest).map fun read => (.code u :: read.1, read.2)
    | none => none
  | '\x5c' :: c :: rest =>
    match escaped? c with
    | some c => (stringUnits? rest).map fun read => (.char c :: read.1, read.2)
    | none => none
  | c :: rest =>
    if c.toNat < 0x20 then none
    else (stringUnits? rest).map fun read => (.char c :: read.1, read.2)

/-- True of the first half of a surrogate pair. -/
def isHighSurrogate (u : Nat) : Bool := 0xD800 ≤ u && u ≤ 0xDBFF

/-- True of the second half of a surrogate pair. -/
def isLowSurrogate (u : Nat) : Bool := 0xDC00 ≤ u && u ≤ 0xDFFF

/-- The text of the units of a string. Two halves of a surrogate pair are one character; a half
alone stands for nothing. -/
def unitsText? : List StringUnit → Option Text
  | [] => some []
  | .char c :: rest => (unitsText? rest).map (c :: ·)
  | .code u :: .code v :: rest =>
    if isHighSurrogate u then
      if isLowSurrogate v then
        (unitsText? rest).map
          (Char.ofNat (0x10000 + (u - 0xD800) * 0x400 + (v - 0xDC00)) :: ·)
      else none
    else if isLowSurrogate u then none
    else (unitsText? (.code v :: rest)).map (Char.ofNat u :: ·)
  | .code u :: rest =>
    if isHighSurrogate u || isLowSurrogate u then none
    else (unitsText? rest).map (Char.ofNat u :: ·)

/-- The string whose opening quote has been read. -/
def readString? (t : Text) : Option (Option String × Text) :=
  (stringUnits? t).map fun read => ((unitsText? read.1).map String.ofList, read.2)

/-! ## Numbers -/

/-- The digits before the point: a zero stands alone. -/
def wholeDigits? (t : Text) : Option (Text × Text) :=
  match t with
  | '0' :: rest => some (['0'], rest)
  | _ =>
    let digits := t.takeWhile Char.isDigit
    if digits.isEmpty then none else some (digits, t.dropWhile Char.isDigit)

/-- The digits after the point, if there is one. -/
def fractionDigits? (t : Text) : Option (Option Text × Text) :=
  match t with
  | '.' :: rest =>
    let digits := rest.takeWhile Char.isDigit
    if digits.isEmpty then none else some (some digits, rest.dropWhile Char.isDigit)
  | _ => some (none, t)

/-- The digits of an exponent after its sign. -/
def exponentDigits? (negative : Bool) (t : Text) : Option (Option Int × Text) :=
  let digits := t.takeWhile Char.isDigit
  if digits.isEmpty then none
  else
    let n : Int := digitsValue digits
    some (some (if negative then -n else n), t.dropWhile Char.isDigit)

/-- The exponent, if there is one. -/
def exponent? (t : Text) : Option (Option Int × Text) :=
  match t with
  | c :: rest =>
    if c = 'e' ∨ c = 'E' then
      match rest with
      | '-' :: rest => exponentDigits? true rest
      | '+' :: rest => exponentDigits? false rest
      | _ => exponentDigits? false rest
    else some (none, t)
  | [] => some (none, t)

/-- The number that digits, fraction and exponent spell. -/
def Number.ofParts (negative : Bool) (digits : Text) (fraction : Option Text)
    (exponent : Option Int) : Number :=
  match negative, fraction, exponent with
  | false, none, none => .whole (digitsValue digits)
  | _, _, _ =>
    let places := fraction.getD []
    .decimal negative (digitsValue (digits ++ places)) (exponent.getD 0 - places.length)

/-- A number without its sign. -/
def readUnsigned? (negative : Bool) (t : Text) : Option (Number × Text) :=
  match wholeDigits? t with
  | none => none
  | some (digits, t) =>
    match fractionDigits? t with
    | none => none
    | some (fraction, t) =>
      (exponent? t).map fun read => (.ofParts negative digits fraction read.1, read.2)

/-- The number at the start of a text. -/
def readNumber? (t : Text) : Option (Number × Text) :=
  match t with
  | '-' :: rest => readUnsigned? true rest
  | _ => readUnsigned? false t

/-! ## Values -/

mutual

/-- The value at the start of a text, after blanks. -/
def readValue? : Nat → Text → Option (Source × Text)
  | 0, _ => none
  | fuel + 1, t =>
    match skipSpace t with
    | '\x22' :: rest => (readString? rest).map fun read => (.string read.1, read.2)
    | '[' :: rest =>
      match skipSpace rest with
      | ']' :: rest => some (.array [], rest)
      | _ => (readItems? fuel rest).map fun read => (.array read.1, read.2)
    | '\x7b' :: rest =>
      match skipSpace rest with
      | '\x7d' :: rest => some (.object [], rest)
      | _ => (readMembers? fuel rest).map fun read => (.object read.1, read.2)
    | 'n' :: 'u' :: 'l' :: 'l' :: rest => some (.null, rest)
    | 't' :: 'r' :: 'u' :: 'e' :: rest => some (.bool true, rest)
    | 'f' :: 'a' :: 'l' :: 's' :: 'e' :: rest => some (.bool false, rest)
    | t => (readNumber? t).map fun read => (.number read.1, read.2)

/-- The items of an array and its closing bracket; there is at least one item. -/
def readItems? : Nat → Text → Option (List Source × Text)
  | 0, _ => none
  | fuel + 1, t =>
    match readValue? fuel t with
    | none => none
    | some (item, rest) =>
      match skipSpace rest with
      | ',' :: rest => (readItems? fuel rest).map fun read => (item :: read.1, read.2)
      | ']' :: rest => some ([item], rest)
      | _ => none

/-- The members of an object and its closing brace; there is at least one member. -/
def readMembers? : Nat → Text → Option (List (Option String × Source) × Text)
  | 0, _ => none
  | fuel + 1, t =>
    match skipSpace t with
    | '\x22' :: rest =>
      match readString? rest with
      | none => none
      | some (key, rest) =>
        match skipSpace rest with
        | ':' :: rest =>
          match readValue? fuel rest with
          | none => none
          | some (member, rest) =>
            match skipSpace rest with
            | ',' :: rest =>
              (readMembers? fuel rest).map fun read => ((key, member) :: read.1, read.2)
            | '\x7d' :: rest => some ([(key, member)], rest)
            | _ => none
        | _ => none
    | _ => none

end

/-- The one value that a text holds. Each level of nesting takes at least one character and at
most two units of fuel. -/
def read? (t : Text) : Option Source :=
  match readValue? (2 * t.length + 2) t with
  | some (source, rest) => if (skipSpace rest).isEmpty then some source else none
  | none => none

/-- The value of a text: strict syntax, every part kept. -/
def readText? (t : Text) : Option Value := (read? t).bind fun source => source.value? depthLimit

end DiagramStudio.Json
