import DiagramStudio.Diagram.Ampersand
import DiagramStudio.Text.Blank

/-!
# Labels on edges

In `A -->|label| B` the label stands between two pipes of which the first directly follows the
arrow. Ampersands inside such labels are spelled out; elsewhere they join nodes and stay.
-/

namespace DiagramStudio.EdgeLabel

open Text

/-- The characters that an arrow can end in. -/
def endsArrow (c : Char) : Bool := c == '>' || c == '-' || c == '=' || c == '.'

/-- Where the pass stands: between labels with the last character written that is no blank, or
inside a label with the last character written. -/
inductive State
  | between (ink : Option Char)
  | label (last : Char)
  deriving Repr, DecidableEq

/-- The rest of a line with its labels spelled out. A pipe opens a label if the text before it ends
an arrow and another pipe follows; that next pipe closes the label. -/
def spellFrom : State → Text → Text
  | _, [] => []
  | .between ink, c :: t =>
    if c = '|' then
      if ink.any endsArrow && t.contains '|' then c :: spellFrom (.label c) t
      else c :: spellFrom (.between (some c)) t
    else c :: spellFrom (.between (if isBlank c then ink else some c)) t
  | .label last, c :: t =>
    if c = '|' then c :: spellFrom (.between (some c)) t
    else if c = '&' then
      Ampersand.spell (some last) t.head? ++
        spellFrom (.label (Ampersand.lastOfSpell t.head?)) t
    else c :: spellFrom (.label c) t

/-- Spells out the ampersands in the edge labels of one line. -/
def spellOut (line : Text) : Text := spellFrom (.between none) line

end DiagramStudio.EdgeLabel
