import DiagramStudio.Text.Basic

/-!
# Punycode

An ASCII form for labels with other characters. The ASCII characters come first. After a hyphen
follow the other characters as insertions, ordered by code point and then by place. An insertion
is written as its distance from the one before it, counted over all code points and all places of
the text so far, in digits to base 36 whose weights adapt to the distances seen.
-/

namespace DiagramStudio.Hostname.Punycode

/-- True of the characters that stand for themselves. -/
def isBasic (c : Char) : Bool := c.toNat < 0x80

/-- The first code point that is inserted. -/
def firstCode : Nat := 0x80

/-- The bias before the first insertion. -/
def firstBias : Nat := 72

/-! ## Digits -/

/-- The digit at a place, counted in steps of 36 from 36, ends a number if it is below this. -/
def threshold (bias place : Nat) : Nat := min 26 (max 1 (place - bias))

theorem threshold_pos (bias place : Nat) : 0 < threshold bias place := by
  unfold threshold
  omega

/-- A threshold leaves at least ten digits above it. -/
theorem threshold_le (bias place : Nat) : threshold bias place ≤ 26 := by
  unfold threshold
  omega

/-- Letters are the digits up to 25, figures the others. -/
def digitChar (d : Nat) : Char := Char.ofNat (if d < 26 then 97 + d else 22 + d)

def digitValue? (c : Char) : Option Nat :=
  if c.isLower then some (c.toNat - 97)
  else if c.isDigit then some (c.toNat - 22)
  else none

theorem digitValue?_digitChar {d : Nat} (h : d < 36) : digitValue? (digitChar d) = some d := by
  have all : ∀ e ∈ List.range 36, digitValue? (digitChar e) = some e := by decide
  exact all d (List.mem_range.2 h)

/-- A number in digits, the lowest first, from `place` on. -/
def digits (bias place n : Nat) : Text :=
  let t := threshold bias place
  if n < t then [digitChar n]
  else digitChar (t + (n - t) % (36 - t)) :: digits bias (place + 36) ((n - t) / (36 - t))
termination_by n
decreasing_by
  have := threshold_pos bias place
  have := Nat.div_le_self (n - threshold bias place) (36 - threshold bias place)
  omega

/-- Divides by 35 until at most 455 is left, and counts the steps. -/
def shrink (n : Nat) : Nat × Nat :=
  if 455 < n then
    let rest := shrink (n / 35)
    (rest.1, rest.2 + 1)
  else (n, 0)
termination_by n

/-- The bias after an insertion at a distance into a text that then has `length` characters. -/
def nextBias (isFirst : Bool) (distance length : Nat) : Nat :=
  let start := if isFirst then distance / 700 else distance / 2
  let (rest, steps) := shrink (start + start / length)
  36 * steps + 36 * rest / (rest + 38)

/-! ## Writing -/

/-- A character to insert and the number of characters in front of it when it comes in. -/
structure Insertion where
  code : Nat
  place : Nat
  deriving Repr, DecidableEq

/-- The insertions of one code point. Characters of higher code points are not there yet. -/
def insertionsOf (code : Nat) (place : Nat) : Text → List Insertion
  | [] => []
  | c :: t =>
    if c.toNat = code then ⟨code, place⟩ :: insertionsOf code (place + 1) t
    else if c.toNat < code then insertionsOf code (place + 1) t
    else insertionsOf code place t

/-- The insertions of a text in order. -/
def insertions (t : Text) : List Insertion :=
  let codes := (t.filter fun c => !isBasic c).map Char.toNat
  (codes.mergeSort (· ≤ ·)).eraseDups.flatMap fun code => insertionsOf code 0 t

/-- Where an insertion stands: the code point and the place that come next, the length of the
text so far, the bias, and whether it is the first one. -/
structure Position where
  code : Nat
  place : Nat
  length : Nat
  bias : Nat
  isFirst : Bool
  deriving Repr, DecidableEq

namespace Position

/-- The position before the first insertion into a text of basic characters. -/
def start (length : Nat) : Position := ⟨firstCode, 0, length, firstBias, true⟩

def distance (p : Position) (i : Insertion) : Nat :=
  (i.code - p.code) * (p.length + 1) + i.place - p.place

def next (p : Position) (i : Insertion) (distance : Nat) : Position :=
  ⟨i.code, i.place + 1, p.length + 1, nextBias p.isFirst distance (p.length + 1), false⟩

def insertion (p : Position) (distance : Nat) : Insertion :=
  let total := p.place + distance
  ⟨p.code + total / (p.length + 1), total % (p.length + 1)⟩

/-- The distance to a later insertion leads to it. -/
theorem insertion_distance {p : Position} {i : Insertion} (fits : i.place ≤ p.length)
    (reached : p.place ≤ p.length + 1)
    (later : p.code < i.code ∨ p.code = i.code ∧ p.place ≤ i.place) :
    p.insertion (p.distance i) = i := by
  have total : p.place + p.distance i = (i.code - p.code) * (p.length + 1) + i.place := by
    unfold distance
    rcases later with h | ⟨h, hp⟩
    · have : 1 * (p.length + 1) ≤ (i.code - p.code) * (p.length + 1) :=
        Nat.mul_le_mul_right _ (by omega)
      omega
    · simp [h]
      omega
  have code : p.code + (i.code - p.code) = i.code := by omega
  have small : i.place < p.length + 1 := by omega
  simp only [insertion, total]
  rw [Nat.add_comm ((i.code - p.code) * (p.length + 1)), Nat.add_mul_div_right _ _ (by omega),
    Nat.add_mul_mod_self_right, Nat.div_eq_of_lt small, Nat.mod_eq_of_lt small, Nat.zero_add, code]

end Position

/-- The distances of insertions in digits. -/
def encodeInsertions (p : Position) : List Insertion → Text
  | [] => []
  | i :: rest =>
    digits p.bias 36 (p.distance i) ++ encodeInsertions (p.next i (p.distance i)) rest

/-- The ASCII form of a text. -/
def encode (t : Text) : Text :=
  let basic := t.filter isBasic
  let separator := if basic.isEmpty then [] else ['-']
  basic ++ separator ++ encodeInsertions (.start basic.length) (insertions t)

/-! ## Reading -/

/-- The text so far, the position of the next insertion, and the digits of its distance that were
read: their value, and the weight and the place of the next digit. -/
structure Progress where
  text : Text
  position : Position
  value : Nat
  weight : Nat
  place : Nat
  deriving Repr, DecidableEq

namespace Progress

/-- Between two insertions. -/
def between (text : Text) (position : Position) : Progress := ⟨text, position, 0, 1, 36⟩

/-- Inserts a character at the distance that was read. -/
def insert? (p : Progress) (distance : Nat) : Option Progress :=
  let i := p.position.insertion distance
  if i.code.isValidChar then
    some (between (p.text.insertIdx i.place (Char.ofNat i.code)) (p.position.next i distance))
  else none

def read? (p : Progress) (c : Char) : Option Progress :=
  (digitValue? c).bind fun digit =>
    let t := threshold p.position.bias p.place
    let value := p.value + digit * p.weight
    if digit < t then p.insert? value
    else some ⟨p.text, p.position, value, p.weight * (36 - t), p.place + 36⟩

/-- True if no number was begun. -/
def isBetween (p : Progress) : Bool := p.place = 36

end Progress

/-- The text of an ASCII form in lower case. The last hyphen ends the basic characters, unless it
comes first. -/
def decode? (code : Text) : Option Text :=
  let (basic, digits) :=
    match Text.cutLast? '-' code with
    | some (c :: basic, digits) => (c :: basic, digits)
    | _ => ([], code)
  let start := Progress.between basic (.start basic.length)
  ((digits.foldlM Progress.read? start).filter Progress.isBetween).map Progress.text

end DiagramStudio.Hostname.Punycode
