import DiagramStudio.Diagram.Ampersand
import DiagramStudio.Text.Blank

/-!
# Delimited spans

A label may be wrapped over several lines inside its delimiters, which renderers reject. One pass
over a text tidies every closed span of one kind of delimiter: each run of blanks becomes one
space and each ampersand the word it stands for. Text outside spans stays as it is, and so does
everything from an opening delimiter that is never closed.

The pass reads each character once. `outside` and `inside` call each other on the rest of the
text; `inside` answers `none` when the text ends before its span does, and then the opening
delimiter and all that follows are kept.
-/

namespace DiagramStudio

open Text

/-- The kinds of delimiters around labels. -/
inductive Delimiter
  | square
  | round
  | curly
  | quote
  deriving Repr, DecidableEq

namespace Delimiter

def opener : Delimiter → Char
  | square => '['
  | round => '('
  | curly => '{'
  | quote => '\x22'

def closer : Delimiter → Char
  | square => ']'
  | round => ')'
  | curly => '}'
  | quote => '\x22'

end Delimiter

namespace Span

/-- Where a pass stands inside a span. -/
structure State where
  /-- How many delimiters are open. -/
  depth : Nat
  /-- A backslash stands directly before, in a quoted span. -/
  escaped : Bool
  /-- Blanks have been read since the last character was written. -/
  gap : Bool
  /-- The last character written. -/
  last : Char
  deriving Repr, DecidableEq

/-- The state right after an opening delimiter. -/
def State.start (d : Delimiter) : State := ⟨1, false, false, d.opener⟩

/-- The space that a pending gap leaves before the next character. -/
def State.space (s : State) : Text := if s.gap then [' '] else []

/-- The last character written once a pending gap is filled. -/
def State.before (s : State) : Char := if s.gap then ' ' else s.last

def State.blank (s : State) : State := { s with escaped := false, gap := true }

/-- The state after writing `c`, which leaves `depth` delimiters open. -/
def State.wrote (c : Char) (depth : Nat) : State := ⟨depth, false, false, c⟩

/-- The state after a backslash that escapes the next character. -/
def State.escape (c : Char) (depth : Nat) : State := ⟨depth, true, false, c⟩

mutual

/-- The tidied text from a point outside all spans. -/
def outside (d : Delimiter) : Text → Text
  | [] => []
  | c :: t =>
    if c = d.opener then
      match inside d (.start d) t with
      | some rest => c :: rest
      | none => c :: t
    else c :: outside d t

/-- The tidied text from a point inside a span, if that span is closed. -/
def inside (d : Delimiter) (s : State) : Text → Option Text
  | [] => none
  | c :: t =>
    if isBlank c then inside d s.blank t
    else if s.escaped then
      (inside d (.wrote c s.depth) t).map fun rest => s.space ++ c :: rest
    else if c = '\x5c' ∧ d = .quote then
      (inside d (.escape c s.depth) t).map fun rest => s.space ++ c :: rest
    else if c = '&' then
      (inside d (.wrote (Ampersand.lastOfSpell t.head?) s.depth) t).map fun rest =>
        s.space ++ Ampersand.spell (some s.before) t.head? ++ rest
    else if c = d.closer then
      if s.depth ≤ 1 then some (s.space ++ c :: outside d t)
      else (inside d (.wrote c (s.depth - 1)) t).map fun rest => s.space ++ c :: rest
    else if c = d.opener then
      (inside d (.wrote c (s.depth + 1)) t).map fun rest => s.space ++ c :: rest
    else (inside d (.wrote c s.depth) t).map fun rest => s.space ++ c :: rest

end

/-- The text with every closed span of `d` tidied. -/
def collapse (d : Delimiter) (t : Text) : Text := outside d t

end Span

end DiagramStudio
