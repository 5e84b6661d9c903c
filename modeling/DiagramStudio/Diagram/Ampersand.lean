import DiagramStudio.Text.Alphanumeric

/-!
# Ampersands in labels

Inside a label an ampersand is spelled out as a word, with a space on each side where the word
would otherwise touch a letter or a digit.
-/

namespace DiagramStudio.Ampersand

open Text

/-- True when the neighbour is a letter or a digit. -/
def touches (neighbour : Option Char) : Bool := neighbour.any isAlphanumeric

/-- The word in place of an ampersand between the last character written and the next one. -/
def spell (before after : Option Char) : Text :=
  (if touches before then [' '] else []) ++ ['a', 'n', 'd'] ++
    (if touches after then [' '] else [])

/-- The last character of that word. -/
def lastOfSpell (after : Option Char) : Char := if touches after then ' ' else 'd'

end DiagramStudio.Ampersand
