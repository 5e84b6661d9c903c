import DiagramStudio.Text.Basic

/-!
# UTF-8

A character is encoded in one to four bytes. The decoder reads bytes one at a time. Between
characters it is in state `boundary`; inside a multi-byte character it remembers how many bytes
are missing, the value collected so far and the range of the next byte. A byte out of that range
ends a malformed sequence and is then read as the first byte of what follows, so every maximal
malformed sequence counts once.
-/

namespace DiagramStudio.Text.Utf8

def encodeChar (c : Char) : List UInt8 :=
  let n := c.toNat
  let continuation (shift : Nat) : UInt8 := UInt8.ofNat (0x80 + n / Nat.pow 64 shift % 64)
  if n < 0x80 then [UInt8.ofNat n]
  else if n < 0x800 then [UInt8.ofNat (0xC0 + n / 64), continuation 0]
  else if n < 0x10000 then [UInt8.ofNat (0xE0 + n / Nat.pow 64 2), continuation 1, continuation 0]
  else [UInt8.ofNat (0xF0 + n / Nat.pow 64 3), continuation 2, continuation 1, continuation 0]

/-- Where the decoder stands. -/
inductive State
  | boundary
  | inside (missing : Nat) (value : Nat) (low high : UInt8)
  deriving Repr, DecidableEq

/-- What the first byte of a sequence decides. The tighter ranges for the second byte rule out
overlong forms, surrogates and values above U+10FFFF. -/
def first (b : UInt8) : List (Option Char) × State :=
  if b < 0x80 then ([some (Char.ofNat b.toNat)], .boundary)
  else if 0xC2 ≤ b && b ≤ 0xDF then ([], .inside 1 (b.toNat - 0xC0) 0x80 0xBF)
  else if b == 0xE0 then ([], .inside 2 0 0xA0 0xBF)
  else if b == 0xED then ([], .inside 2 0xD 0x80 0x9F)
  else if 0xE1 ≤ b && b ≤ 0xEF then ([], .inside 2 (b.toNat - 0xE0) 0x80 0xBF)
  else if b == 0xF0 then ([], .inside 3 0 0x90 0xBF)
  else if b == 0xF4 then ([], .inside 3 4 0x80 0x8F)
  else if 0xF1 ≤ b && b ≤ 0xF3 then ([], .inside 3 (b.toNat - 0xF0) 0x80 0xBF)
  else ([none], .boundary)

/-- One byte. `some c` is a finished character, `none` a malformed sequence. -/
def step : State → UInt8 → List (Option Char) × State
  | .boundary, b => first b
  | .inside missing value low high, b =>
    if low ≤ b && b ≤ high then
      let value := 64 * value + (b.toNat - 0x80)
      if missing ≤ 1 then ([some (Char.ofNat value)], .boundary)
      else ([], .inside (missing - 1) value 0x80 0xBF)
    else
      let next := first b
      (none :: next.1, next.2)

/-- The characters and malformed sequences of `bytes` in order. -/
def scan : State → List UInt8 → List (Option Char)
  | .boundary, [] => []
  | .inside .., [] => [none]
  | state, b :: bytes =>
    let next := step state b
    next.1 ++ scan next.2 bytes

/-- The text of `bytes` with U+FFFD in place of every maximal malformed sequence. -/
def decodeLossy (bytes : List UInt8) : Text :=
  (scan .boundary bytes).map fun c => c.getD '\uFFFD'

/-- The text of well-formed `bytes`. -/
def decode? (bytes : List UInt8) : Option Text :=
  (scan .boundary bytes).mapM id

end DiagramStudio.Text.Utf8
