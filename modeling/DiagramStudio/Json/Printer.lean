import DiagramStudio.Json.Value
import DiagramStudio.Text.Numeral

/-!
# Writing JSON

One printer for both layouts of a JSON text: on one line without spaces, or indented by two spaces
per level with every item and member on a line of its own. The layouts differ in blanks only.
-/

namespace DiagramStudio.Json

/-- How a JSON text is laid out. -/
inductive Style
  | compact
  | indented
  deriving Repr, DecidableEq

namespace Style

/-- What stands before an item or a closing bracket at the given level. -/
def lineStart : Style → Nat → Text
  | compact, _ => []
  | indented, level => '\n' :: List.replicate (2 * level) ' '

/-- What stands between a key and its value. -/
def colon : Style → Text
  | compact => [':']
  | indented => [':', ' ']

end Style

def hexPair (n : Nat) : Text := [Nat.digitChar (n / 16), Nat.digitChar (n % 16)]

/-- How one character is written inside a string. Only the quote, the backslash and the control
characters below U+0020 are escaped. -/
def escapeChar (c : Char) : Text :=
  if c = '\x22' then ['\x5c', '\x22']
  else if c = '\x5c' then ['\x5c', '\x5c']
  else if c = '\n' then ['\x5c', 'n']
  else if c = '\r' then ['\x5c', 'r']
  else if c = '\t' then ['\x5c', 't']
  else if c = '\x08' then ['\x5c', 'b']
  else if c = '\x0c' then ['\x5c', 'f']
  else if c.toNat < 0x20 then ['\x5c', 'u', '0', '0'] ++ hexPair c.toNat
  else [c]

/-- A string with its quotes. -/
def writeString (s : String) : Text := '\x22' :: s.toList.flatMap escapeChar ++ ['\x22']

namespace Number

def write : Number → Text
  | whole n => Text.decimal n
  | decimal negative coefficient exponent =>
    (if negative then ['-'] else []) ++ Text.decimal coefficient ++ ['e'] ++
      (if exponent < 0 then ['-'] else []) ++ Text.decimal exponent.natAbs

end Number

namespace Value

mutual

/-- The text of a value that starts at the given level. -/
def write (style : Style) : Value → (level : Nat) → Text
  | null, _ => "null".toList
  | bool true, _ => "true".toList
  | bool false, _ => "false".toList
  | number n, _ => n.write
  | string s, _ => writeString s
  | array [], _ => ['[', ']']
  | array (item :: rest), level =>
    '[' :: style.lineStart (level + 1) ++ item.write style (level + 1) ++
      writeItems style rest (level + 1) ++ style.lineStart level ++ [']']
  | object [], _ => ['\x7b', '\x7d']
  | object (member :: rest), level =>
    '\x7b' :: style.lineStart (level + 1) ++ writeMember style member (level + 1) ++
      writeMembers style rest (level + 1) ++ style.lineStart level ++ ['\x7d']
termination_by structural v => v

/-- The items of an array after the first. -/
def writeItems (style : Style) : List Value → (level : Nat) → Text
  | [], _ => []
  | item :: rest, level =>
    ',' :: style.lineStart level ++ item.write style level ++ writeItems style rest level
termination_by structural items => items

/-- The members of an object after the first. -/
def writeMembers (style : Style) : List (String × Value) → (level : Nat) → Text
  | [], _ => []
  | member :: rest, level =>
    ',' :: style.lineStart level ++ writeMember style member level ++
      writeMembers style rest level
termination_by structural members => members

/-- One member of an object. -/
def writeMember (style : Style) : String × Value → (level : Nat) → Text
  | (key, value), level => writeString key ++ style.colon ++ value.write style level
termination_by structural member => member

end

def print (style : Style) (v : Value) : Text := v.write style 0

end Value

end DiagramStudio.Json
