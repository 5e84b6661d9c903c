import DiagramStudio.CommandLine.Environment
import DiagramStudio.Text.Alphanumeric
import DiagramStudio.Text.Lines

/-!
# Environment files

A file of assignments `NAME=value` adds variables to an environment, without changing those that
are there. Values may be quoted, hold escapes and refer to other variables; a quote that is open at
the end of a line goes on in the next. Loading stops at the first line that cannot be read.
-/

namespace DiagramStudio.EnvFile

open Text

/-! ## Logical lines -/

/-- What is open at the end of a line. -/
inductive Openness
  /-- Nothing: the logical line is complete. -/
  | complete
  /-- A backslash stands before. -/
  | escape
  /-- A blank stands before, after which a number sign starts a comment. -/
  | blank
  /-- A single or a double quote is open. -/
  | quoted (double : Bool)
  /-- A backslash stands before, inside quotes. -/
  | quotedEscape (double : Bool)
  deriving Repr, DecidableEq

/-- What is open after a character outside quotes and escapes. -/
def Openness.afterPlain (c : Char) : Openness :=
  if c = '\x5c' then .escape
  else if c = '\x22' then .quoted true
  else if c = '\x27' then .quoted false
  else .complete

/-- What is open after a character. -/
def Openness.step (c : Char) : Openness → Openness
  | complete => if isBlank c && c != '\n' && c != '\r' then blank else afterPlain c
  | blank => afterPlain c
  | escape => complete
  | quoted double =>
    if c = '\x5c' then quotedEscape double
    else if c = (if double then '\x22' else '\x27') then complete
    else quoted double
  | quotedEscape double => quoted double

/-- What a physical line leaves: something open or nothing, or the text before a comment. -/
inductive LineEnd
  | remains (openness : Openness)
  | comment (before : Text)
  deriving Repr, DecidableEq

/-- Reads a physical line. -/
def lineEnd (openness : Openness) : Text → LineEnd
  | [] => .remains openness
  | c :: t =>
    if openness = .blank ∧ c = '#' then .comment []
    else
      match lineEnd (openness.step c) t with
      | .comment before => .comment (c :: before)
      | remains => remains

/-- The physical lines of a text, each with its newline. -/
def physicalLines (t : Text) : List Text :=
  let pieces := segmentLines t
  pieces.dropLast.map (· ++ ['\n']) ++ (pieces.getLast?.filter fun last => !last.isEmpty).toList

/-- A line without the newline at its end, or the carriage return and newline. -/
def dropLineEnd (line : Text) : Text :=
  match stripEnd? ['\n'] line with
  | some before => (stripEnd? ['\r'] before).getD before
  | none => line

/-- The logical lines of physical ones, where `held` is what was read of the current one. A text
that ends inside a logical line yields `none` for it. -/
def logicalLines (held : Text) (openness : Openness) : List Text → List (Option Text)
  | [] => if openness = .complete then [] else [none]
  | line :: rest =>
    let whole := held ++ line
    if (trimStart whole).head? = some '#' then some [] :: logicalLines [] .complete rest
    else
      match lineEnd openness line with
      | .comment before => some (held ++ before) :: logicalLines [] .complete rest
      | .remains .complete => some (dropLineEnd whole) :: logicalLines [] .complete rest
      | .remains openness => logicalLines whole openness rest

/-! ## Values -/

/-- Where the reader of a value stands. -/
inductive ValueState
  /-- Outside quotes, or inside double ones. -/
  | plain (quoted : Bool)
  /-- After a backslash. -/
  | escaped (quoted : Bool)
  /-- Inside single quotes, where nothing has a meaning of its own. -/
  | literal
  /-- After a dollar sign, with the name read so far. -/
  | name (quoted : Bool) (sofar : Text)
  /-- After a dollar sign and a brace, with the name read so far. -/
  | braced (quoted : Bool) (sofar : Text)
  /-- After the value, where only blanks and a comment may stand. -/
  | ended
  deriving Repr, DecidableEq

/-- The character that a backslash stands for together with the next one. -/
def unescape? (c : Char) : Option Char :=
  if c = 'n' then some '\n'
  else if ['\x5c', '\x27', '\x22', '$', ' '].contains c then some c
  else none

/-- The value of a written value from state `state` on. `resolve` gives the text of a name. -/
def readValue? (resolve : Text → Text) : ValueState → Text → Option Text
  | .plain false, [] => some []
  | .escaped false, [] => some []
  | .name false sofar, [] => some (resolve sofar)
  | .ended, [] => some []
  | _, [] => none
  | .plain quoted, c :: t =>
    if c = '$' then readValue? resolve (.name quoted []) t
    else if c = '\x5c' then readValue? resolve (.escaped quoted) t
    else if c = '\x22' then readValue? resolve (.plain (!quoted)) t
    else if !quoted && c == '\x27' then readValue? resolve .literal t
    else if !quoted && (c == ' ' || c == '\t') then readValue? resolve .ended t
    else (readValue? resolve (.plain quoted) t).map (c :: ·)
  | .escaped quoted, c :: t =>
    match unescape? c with
    | some c => (readValue? resolve (.plain quoted) t).map (c :: ·)
    | none => none
  | .literal, c :: t =>
    if c = '\x27' then readValue? resolve (.plain false) t
    else (readValue? resolve .literal t).map (c :: ·)
  | .name quoted sofar, c :: t =>
    if isAlphanumeric c then readValue? resolve (.name quoted (sofar ++ [c])) t
    else if c = '\x7b' ∧ sofar = [] then readValue? resolve (.braced quoted []) t
    else if c = '$' then
      (readValue? resolve (.name quoted []) t).map fun rest => resolve sofar ++ rest
    else (readValue? resolve (.plain quoted) t).map fun rest => resolve sofar ++ c :: rest
  | .braced quoted sofar, c :: t =>
    if c = '\x7d' then
      (readValue? resolve (.plain quoted) t).map fun rest => resolve sofar ++ rest
    else readValue? resolve (.braced quoted (sofar ++ [c])) t
  | .ended, c :: t =>
    if c = ' ' ∨ c = '\t' then readValue? resolve .ended t
    else if c = '#' then some []
    else none

/-! ## Assignments -/

/-- The characters that continue a name. -/
def isNameChar (c : Char) : Bool := c.isAlphanum || c == '_' || c == '.'

/-- A name and what follows it, without blanks between. -/
def readName? (t : Text) : Option (Text × Text) :=
  match t with
  | c :: _ =>
    if c.isAlpha || c == '_' then
      some (t.takeWhile isNameChar, trimStart (t.dropWhile isNameChar))
    else none
  | [] => none

/-- The name and the written value of an assignment. The word `export` may stand before it, and is
a name itself if an equals sign follows. -/
def assignment? (t : Text) : Option (Text × Text) :=
  match readName? t with
  | none => none
  | some (name, '=' :: rest) => some (name, trimStart rest)
  | some (name, rest) =>
    if name = "export".toList then
      match readName? rest with
      | some (name, '=' :: rest) => some (name, trimStart rest)
      | _ => none
    else none

/-- What the loader knows: the environment, and the values of all assignments so far, the latest
first. -/
structure Loaded where
  environment : Environment
  assigned : List (String × String)

namespace Loaded

/-- The text of a name: from the environment, else from an assignment, else empty. -/
def resolve (l : Loaded) (name : Text) : Text :=
  let key := String.ofList name
  (((l.environment.find? key).or (l.assigned.lookup key)).getD "").toList

/-- The state after one logical line, if it can be read. -/
def addLine? (l : Loaded) (line : Text) : Option Loaded :=
  let text := trimStart (trimEnd line)
  if text.isEmpty || text.head? == some '#' then some l
  else
    match assignment? text with
    | none => none
    | some (name, written) =>
      let value :=
        if written.head? = some '#' then some []
        else readValue? l.resolve (.plain false) written
      value.map fun value =>
        let name := String.ofList name
        let value := String.ofList value
        ⟨l.environment.addMissing name value, (name, value) :: l.assigned⟩

/-- The state after the logical lines up to the first that cannot be read. -/
def addLines (l : Loaded) : List (Option Text) → Loaded
  | [] => l
  | none :: _ => l
  | some line :: rest =>
    match l.addLine? line with
    | some l => l.addLines rest
    | none => l

end Loaded

/-- The text of a file without the byte order mark at its start. -/
def withoutMark (t : Text) : Text :=
  match t with
  | '\uFEFF' :: rest => rest
  | _ => t

/-- The environment with the assignments of a file added. -/
def load (env : Environment) (file : Text) : Environment :=
  let lines := logicalLines [] .complete (physicalLines (withoutMark file))
  (Loaded.addLines ⟨env, []⟩ lines).environment

end DiagramStudio.EnvFile
