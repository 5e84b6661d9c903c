import DiagramStudio.Text.Alphanumeric
import DiagramStudio.Text.Blank
import DiagramStudio.Text.Lines

/-!
# Dialects

Every diagram source opens with a directive line, whose keyword names the dialect of the rest.
-/

namespace DiagramStudio

open Text

/-- The dialects that a directive can declare. -/
inductive Dialect
  | graph
  | flowchart
  | sequence
  | classes
  | states
  | statesV2
  deriving Repr, DecidableEq

namespace Dialect

def keyword : Dialect → Text
  | graph => "graph".toList
  | flowchart => "flowchart".toList
  | sequence => "sequenceDiagram".toList
  | classes => "classDiagram".toList
  | states => "stateDiagram".toList
  | statesV2 => "stateDiagram-v2".toList

/-- All dialects, longer keywords first, so that a keyword is tried before its beginnings. -/
def all : List Dialect := [statesV2, sequence, classes, states, flowchart, graph]

/-- The dialect that a line declares. Blanks around the line do not matter, and the keyword
must end where a word ends. -/
def ofDirective? (line : Text) : Option Dialect :=
  all.find? fun dialect => startsWithWord dialect.keyword (trim line)

/-- The dialect of the first directive line of a source. -/
def detect? (source : Text) : Option Dialect :=
  (lines source).findSome? ofDirective?

end Dialect

end DiagramStudio
