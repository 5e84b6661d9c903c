import DiagramStudio.Diagram.Dialect

/-!
# Layout of lines

Compact lines keep their indentation, have no trailing blanks and hold at most one blank between
words; blank lines are dropped. Aligned lines start with the directive, if there is one.
-/

namespace DiagramStudio.Layout

open Text

/-- What stands between two words: a single blank stays, a longer run becomes one space. -/
def gap : Text → Text
  | [] => []
  | [c] => [c]
  | _ => [' ']

/-- The text with its inner runs of blanks shortened, after a run `run` already read. Trailing
blanks are lost. -/
def squeeze (run : Text) : Text → Text
  | [] => []
  | c :: t => if isBlank c then squeeze (run ++ [c]) t else gap run ++ c :: squeeze [] t

def compactLine (line : Text) : Text :=
  let kept := trimEnd line
  kept.takeWhile isBlank ++ squeeze [] (trimStart kept)

def compact (code : Text) : List Text :=
  ((segmentLines code).map compactLine).filter fun line => !line.isEmpty

/-- True of a line that declares a dialect. -/
def isDirective (line : Text) : Bool := (Dialect.ofDirective? line).isSome

/-- The lines from the first directive on; all lines if there is none. -/
def align (lines : List Text) : List Text :=
  if lines.any isDirective then lines.dropWhile fun line => !isDirective line else lines

end DiagramStudio.Layout
