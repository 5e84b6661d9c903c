import DiagramStudio.Diagram.Dialect
import DiagramStudio.Diagram.EdgeLabel
import DiagramStudio.Diagram.Span

/-!
# Labels

All label passes over a source: the spans of each kind of delimiter in turn, then the edge labels
of each line.
-/

namespace DiagramStudio.Label

open Text

/-- The delimiters whose spans are labels. In class diagrams curly braces enclose class bodies. -/
def delimiters (dialect : Option Dialect) : List Delimiter :=
  if dialect = some .classes then [.square, .round, .quote]
  else [.square, .round, .curly, .quote]

/-- The source with the spans of all delimiters tidied, one kind after the other. -/
def collapseAll (dialect : Option Dialect) (code : Text) : Text :=
  (delimiters dialect).foldl (fun t d => Span.collapse d t) code

/-- The source with all labels normalized. -/
def normalize (dialect : Option Dialect) (code : Text) : Text :=
  joinLines ((segmentLines (collapseAll dialect code)).map EdgeLabel.spellOut)

end DiagramStudio.Label
