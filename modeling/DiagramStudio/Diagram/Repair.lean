import DiagramStudio.Diagram.Block
import DiagramStudio.Diagram.ClassBlock
import DiagramStudio.Diagram.Fence
import DiagramStudio.Diagram.Label
import DiagramStudio.Diagram.Layout
import DiagramStudio.Diagram.Separator

/-!
# Repairing a diagram source

`repair` turns whatever a model wrote into a source that a renderer can read, or into the empty
text if nothing usable is left. It never fails.
-/

namespace DiagramStudio.Repair

open Text

/-- The source to repair: separators normalized, blanks around it and a stray fence removed. -/
def source (code : Text) : Text := Fence.strip (trim (Separator.normalize code))

/-- The source with the blocks of class diagrams rebuilt; other dialects have none. -/
def rebuilt (dialect : Option Dialect) (source : Text) : Text :=
  if dialect = some .classes then ClassBlock.rebuild source else source

def repairedLines (dialect : Option Dialect) (source : Text) : List Text :=
  Block.balance dialect
    (Layout.align (Layout.compact (Label.normalize dialect (rebuilt dialect source))))

/-- The repaired diagram, empty if nothing usable is left. -/
def repair (code : Text) : Text :=
  if blank code then []
  else
    let source := source code
    trim (joinLines (repairedLines (Dialect.detect? source) source))

end DiagramStudio.Repair
