import DiagramStudio.Text.Alphanumeric
import DiagramStudio.Text.Blank
import DiagramStudio.Text.Lines

/-!
# Class blocks

Replies often misplace the braces of class bodies, put prose between the members or leave a block
open. The lines are read one at a time with at most one class open; a block is written as a whole
when it ends, at its closing brace, at the next class or at the end of the text, so every block
written is complete. Other scopes, such as namespaces, pass through; only as many of their closing
braces are kept as scopes were opened.
-/

namespace DiagramStudio.ClassBlock

open Text

/-! ## Reading a line -/

/-- The two parts of a line around its first shaft, `--` or `..`. -/
def cutShaft? : Text → Option (Text × Text)
  | '-' :: '-' :: t => some ([], t)
  | '.' :: '.' :: t => some ([], t)
  | c :: t => (cutShaft? t).map fun parts => (c :: parts.1, parts.2)
  | [] => none

/-- The characters that a left arrow head is made of, and the space before it. -/
def isLeftHead (c : Char) : Bool := c == '<' || c == '|' || c == '*' || c == 'o' || c == ' '

/-- The characters that the rest of a shaft and a right arrow head are made of, and the space
after them. -/
def isRightHead (c : Char) : Bool :=
  c == '-' || c == '.' || c == '>' || c == '|' || c == '*' || c == 'o' || c == ' '

/-- A relationship has a shaft with an operand on each side. A left operand with a colon or a
parenthesis is a member that happens to hold a shaft. -/
def isRelationship (line : Text) : Bool :=
  match cutShaft? line with
  | none => false
  | some (before, after) =>
    let left := dropTrailing isLeftHead before
    let right := after.dropWhile isRightHead
    !blank left && !right.isEmpty && !left.any fun c => c == ':' || c == '('

def isComment (line : Text) : Bool := (stripStart? "%%".toList line).isSome

/-- What follows the keyword `class`, which must be a word of its own. -/
def classKeyword? (line : Text) : Option Text :=
  match stripStart? "class".toList line with
  | some (c :: rest) => if isBlank c then some (trim (c :: rest)) else none
  | _ => none

/-- A class name is one word without braces. -/
def isClassName (name : Text) : Bool :=
  !name.isEmpty && !name.any fun c => isBlank c || c == '{' || c == '}'

/-- A method: parameters in parentheses after a name, then markers and at most one word. -/
def endsWithSignature (line : Text) : Bool :=
  match cutLast? ')' line with
  | none => false
  | some (before, after) =>
    before.contains '(' && before.head? != some '(' &&
      !(trim (after.dropWhile fun c => c == '$' || c == '*')).any isBlank

/-- A member: an attribute with a type, or a method. -/
def isMember (line : Text) : Bool := line.contains ':' || endsWithSignature line

/-- What a trimmed, non-empty line is. -/
inductive LineKind
  /-- The directive of a class diagram. -/
  | directive
  /-- A comment or a relationship, which may stand anywhere. -/
  | aside
  /-- The header of a class with a body. -/
  | header (name : Text)
  /-- A class without a body. -/
  | bare (name : Text)
  /-- Any other line with the keyword `class`. -/
  | otherClass
  /-- A closing brace alone. -/
  | closer
  /-- A line with the form of a member. -/
  | member
  /-- Anything else. -/
  | other
  deriving Repr, DecidableEq

/-- What the text after the keyword `class` declares. -/
def declaration (rest : Text) : LineKind :=
  match stripEnd? ['{'] rest with
  | some name => if isClassName (trim name) then .header (trim name) else .otherClass
  | none => if isClassName rest then .bare rest else .otherClass

def LineKind.of (line : Text) : LineKind :=
  if startsWithWord "classDiagram".toList line then .directive
  else if isComment line || isRelationship line then .aside
  else
    match classKeyword? line with
    | some rest => declaration rest
    | none =>
      if line = ['}'] then .closer
      else if isMember line then .member
      else .other

/-! ## Writing lines -/

def statementIndent : Text := List.replicate 4 ' '

def memberIndent : Text := List.replicate 8 ' '

def statement (line : Text) : Text := statementIndent ++ line

def memberLine (line : Text) : Text := memberIndent ++ line

/-- A class whose body is being read. -/
structure OpenClass where
  name : Text
  members : List Text
  deriving Repr, DecidableEq

/-- The lines of a finished class. A class without members has no body. -/
def OpenClass.written (c : OpenClass) : List Text :=
  if c.members.isEmpty then [statement ("class ".toList ++ c.name)]
  else
    statement ("class ".toList ++ c.name ++ [' ', '{']) ::
      c.members.map memberLine ++ [statement ['}']]

/-! ## The fold -/

/-- Where the fold stands: the class that is open, and how many other scopes are. -/
structure State where
  block : Option OpenClass
  scopes : Nat
  deriving Repr, DecidableEq

def State.start : State := ⟨none, 0⟩

/-- The lines of the open class, if there is one. -/
def State.flushed (s : State) : List Text :=
  match s.block with
  | some c => c.written
  | none => []

/-- How many scopes are open after a statement. -/
def State.scopesAfter (s : State) (line : Text) : Nat :=
  if line.getLast? = some '{' then s.scopes + 1 else s.scopes

/-- The state after one line, and the lines it writes. -/
def step (s : State) (line : Text) : State × List Text :=
  match LineKind.of line with
  | .directive => (s, [line])
  | .aside => (s, [statement line])
  | .header name => (⟨some ⟨name, []⟩, s.scopes⟩, s.flushed)
  | .bare name => (⟨none, s.scopes⟩, s.flushed ++ [statement ("class ".toList ++ name)])
  | .otherClass => (⟨none, s.scopesAfter line⟩, s.flushed ++ [statement line])
  | .closer =>
    match s.block with
    | some _ => (⟨none, s.scopes⟩, s.flushed)
    | none => if s.scopes = 0 then (s, []) else (⟨none, s.scopes - 1⟩, [statement line])
  | .member =>
    match s.block with
    | some c => (⟨some ⟨c.name, c.members ++ [line]⟩, s.scopes⟩, [])
    | none => (⟨none, s.scopesAfter line⟩, [statement line])
  | .other =>
    match s.block with
    | some _ => (s, [])
    | none => (⟨none, s.scopesAfter line⟩, [statement line])

/-- The lines written from state `s` on. -/
def run (s : State) : List Text → List Text
  | [] => s.flushed
  | line :: rest =>
    let next := step s line
    next.2 ++ run next.1 rest

/-- The trimmed lines of a text that are not blank. -/
def inkedLines (code : Text) : List Text :=
  ((lines code).map trim).filter fun line => !line.isEmpty

/-- The source with all its class blocks complete and its statements indented. -/
def rebuild (code : Text) : Text := joinLines (run .start (inkedLines code))

end DiagramStudio.ClassBlock
