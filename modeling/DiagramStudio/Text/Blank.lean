import DiagramStudio.Text.Basic

/-!
# Blank characters

The blank characters are the 25 code points with the Unicode property White_Space. Trimming,
blankness and the words of a text are all defined from this one class.
-/

namespace DiagramStudio.Text

/-- The Unicode property White_Space. -/
def isBlank (c : Char) : Bool :=
  let n := c.toNat
  (0x9 ≤ n && n ≤ 0xD) || n == 0x20 || n == 0x85 || n == 0xA0 || n == 0x1680 ||
    (0x2000 ≤ n && n ≤ 0x200A) || n == 0x2028 || n == 0x2029 || n == 0x202F || n == 0x205F ||
    n == 0x3000

def trimStart (t : Text) : Text := t.dropWhile isBlank

def trimEnd (t : Text) : Text := dropTrailing isBlank t

def trim (t : Text) : Text := trimEnd (trimStart t)

/-- True of a text that is empty or holds blanks only. -/
def blank (t : Text) : Bool := t.all isBlank

/-- The maximal runs of characters that are not blank, in order. -/
def words (t : Text) : List Text :=
  (segments isBlank t).filter fun word => !word.isEmpty

end DiagramStudio.Text
