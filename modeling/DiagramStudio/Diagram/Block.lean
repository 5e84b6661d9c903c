import DiagramStudio.Diagram.Dialect

/-!
# Blocks and their ends

Subgraphs, and in sequence diagrams the control-flow keywords, open blocks that a line `end`
closes. An `end` without an open block is an error for a renderer and is dropped.
-/

namespace DiagramStudio.Block

open Text

/-- The keywords that open a block in a sequence diagram. -/
def sequenceKeywords : List Text :=
  ["loop", "alt", "opt", "par", "critical", "break", "rect", "box"].map String.toList

/-- The keywords that open a block. -/
def keywords (dialect : Option Dialect) : List Text :=
  if dialect = some .sequence then "subgraph".toList :: sequenceKeywords
  else ["subgraph".toList]

/-- True of a line that opens a block. -/
def opens (dialect : Option Dialect) (line : Text) : Bool :=
  (keywords dialect).any fun keyword => startsWithWord keyword (trim line)

/-- True of a line that closes a block. -/
def isEnd (line : Text) : Bool := trim line == "end".toList

/-- Drops the ends without an open block, where `depth` blocks are open before the lines. -/
def balanceFrom (dialect : Option Dialect) : Nat → List Text → List Text
  | _, [] => []
  | depth, line :: rest =>
    if isEnd line then
      match depth with
      | 0 => balanceFrom dialect 0 rest
      | depth + 1 => line :: balanceFrom dialect depth rest
    else if opens dialect line then line :: balanceFrom dialect (depth + 1) rest
    else line :: balanceFrom dialect depth rest

/-- The lines without the ends that close nothing. -/
def balance (dialect : Option Dialect) (lines : List Text) : List Text :=
  balanceFrom dialect 0 lines

end DiagramStudio.Block
