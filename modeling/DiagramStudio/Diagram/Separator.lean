import DiagramStudio.Text.Basic

/-!
# Separators

Renderers know the newline and the plain space only. The other line separators become newlines,
the spaces that forbid a line break become plain ones, and characters without width are dropped.
-/

namespace DiagramStudio.Separator

/-- Carriage returns, alone or before a newline, become newlines. -/
def unifyLineEnds : Text → Text
  | [] => []
  | '\r' :: '\n' :: t => '\n' :: unifyLineEnds t
  | c :: t => (if c = '\r' then '\n' else c) :: unifyLineEnds t

/-- Line separator, paragraph separator and next line. -/
def isLineSeparator (c : Char) : Bool :=
  c == '\u2028' || c == '\u2029' || c == '\u0085'

/-- The no-break space, the narrow one and the figure space. -/
def isFixedSpace (c : Char) : Bool :=
  c == '\u00A0' || c == '\u202F' || c == '\u2007'

/-- The zero-width space, non-joiner and joiner, the word joiner and the byte order mark. -/
def isWidthless (c : Char) : Bool :=
  c == '\u200B' || c == '\u200C' || c == '\u200D' || c == '\u2060' || c == '\uFEFF'

/-- What stands for `c` in a normalized text. -/
def spell (c : Char) : Text :=
  if isLineSeparator c then ['\n']
  else if isFixedSpace c then [' ']
  else if isWidthless c then []
  else [c]

/-- The text with newlines and plain spaces for all separators, without widthless characters. -/
def normalize (t : Text) : Text := (unifyLineEnds t).flatMap spell

end DiagramStudio.Separator
