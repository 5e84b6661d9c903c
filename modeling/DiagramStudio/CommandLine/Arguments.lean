import DiagramStudio.CommandLine.Environment

/-!
# Arguments

The commands and the grammar of their arguments. An option takes its value from the same argument,
after an equals sign, or from the next one; two dashes end the options; a dash alone is an operand.
Arguments are read in order, and the first fault or request for help ends the reading.
-/

namespace DiagramStudio

open Text

/-- What the program is asked to do. Every command reads one input: a file, or standard input for
a single dash. A fenced input is a reply, whose diagram is extracted before it is repaired. -/
inductive Command
  | extract (input : String)
  | sanitize (input : String) (fenced : Bool)
  | fallback (input : String)
  | generate (input : String) (platform : Option String) (maxTokens : Option UInt32)
  deriving Repr, DecidableEq

namespace Command

def input : Command → String
  | extract input => input
  | sanitize input _ => input
  | fallback input => input
  | generate input _ _ => input

end Command

namespace Arguments

/-- Why the arguments are no command. -/
inductive UsageError
  | missingCommand
  | unknownCommand (name : String)
  | unexpected (argument : String)
  | missingValue (option : String)
  | unneededValue (option : String)
  | repeated (option : String)
  | malformedNumber (value : String)
  deriving Repr, DecidableEq

/-- Why reading the arguments ends without a command. -/
inductive Stop
  | help
  | usage (e : UsageError)
  deriving Repr, DecidableEq

/-- The names of the commands. -/
inductive Verb
  | extract
  | sanitize
  | fallback
  | generate
  deriving Repr, DecidableEq

namespace Verb

def ofName? (name : String) : Option Verb :=
  if name = "extract" then some extract
  else if name = "sanitize" then some sanitize
  else if name = "fallback" then some fallback
  else if name = "generate" then some generate
  else none

/-- The options without a value. -/
def flags : Verb → List String
  | sanitize => ["extract"]
  | _ => []

/-- The options with a value. -/
def valued : Verb → List String
  | generate => ["platform", "max-tokens"]
  | _ => []

end Verb

/-- The arguments of a verb as read so far. -/
structure Given where
  operand : Option String
  flags : List String
  values : List (String × String)
  deriving Repr, DecidableEq

/-- A limit in tokens: a signed numeral in the range of 32 bits. -/
def tokenLimit? (raw : String) : Option UInt32 :=
  match integer? raw.toList with
  | some n => if 0 ≤ n ∧ n < Int.pow 2 32 then some (UInt32.ofNat n.toNat) else none
  | none => none

/-- True of an argument that is not an operand or a value: it starts with a dash and goes on. -/
def isOption (argument : String) : Bool :=
  match argument.toList with
  | '-' :: _ :: _ => true
  | _ => false

/-- An option in two parts: its name and the value after an equals sign. -/
def splitOption (name : Text) : String × Option String :=
  match cut? ['='] name with
  | some (name, value) => (String.ofList name, some (String.ofList value))
  | none => (String.ofList name, none)

namespace Given

def nothing : Given := ⟨none, [], []⟩

/-- Adds an operand; there is room for one. -/
def addOperand (g : Given) (operand : String) : Except Stop Given :=
  if g.operand.isSome then .error (.usage (.unexpected operand))
  else .ok { g with operand := some operand }

def addFlag (g : Given) (name : String) : Except Stop Given :=
  if g.flags.contains name then .error (.usage (.repeated name))
  else .ok { g with flags := name :: g.flags }

def addValue (g : Given) (name value : String) : Except Stop Given :=
  if (g.values.lookup name).isSome then .error (.usage (.repeated name))
  else if name = "max-tokens" ∧ (tokenLimit? value).isNone then
    .error (.usage (.malformedNumber value))
  else .ok { g with values := (name, value) :: g.values }

/-- Adds operands after the end of the options. -/
def addOperands (g : Given) : List String → Except Stop Given
  | [] => .ok g
  | operand :: rest =>
    match g.addOperand operand with
    | .ok g => g.addOperands rest
    | .error stop => .error stop

end Given

/-- Reads the arguments of a verb. -/
def collect (verb : Verb) (g : Given) : List String → Except Stop Given
  | [] => .ok g
  | argument :: rest =>
    match argument.toList with
    | ['-', '-'] => g.addOperands rest
    | '-' :: '-' :: name =>
      match splitOption name with
      | (name, attached) =>
        if name = "help" then
          if attached.isSome then .error (.usage (.unneededValue name)) else .error .help
        else if verb.flags.contains name then
          if attached.isSome then .error (.usage (.unneededValue name))
          else
            match g.addFlag name with
            | .ok g => collect verb g rest
            | .error stop => .error stop
        else if verb.valued.contains name then
          match attached, rest with
          | some value, rest =>
            match g.addValue name value with
            | .ok g => collect verb g rest
            | .error stop => .error stop
          | none, [] => .error (.usage (.missingValue name))
          | none, value :: rest =>
            if isOption value then .error (.usage (.missingValue name))
            else
              match g.addValue name value with
              | .ok g => collect verb g rest
              | .error stop => .error stop
        else .error (.usage (.unexpected argument))
    | '-' :: 'h' :: _ => .error .help
    | '-' :: _ :: _ => .error (.usage (.unexpected argument))
    | _ =>
      match g.addOperand argument with
      | .ok g => collect verb g rest
      | .error stop => .error stop

/-- The limit in tokens: as given, else from the environment. -/
def tokenLimit (env : Environment) (g : Given) : Except Stop (Option UInt32) :=
  match (g.values.lookup "max-tokens").or (env.find? "DIAGRAM_MAX_TOKENS") with
  | none => .ok none
  | some raw =>
    match tokenLimit? raw with
    | some n => .ok (some n)
    | none => .error (.usage (.malformedNumber raw))

/-- The command of a verb with its arguments. The input is standard input unless given. -/
def command (env : Environment) (verb : Verb) (g : Given) : Except Stop Command :=
  let input := g.operand.getD "-"
  match verb with
  | .extract => .ok (.extract input)
  | .sanitize => .ok (.sanitize input (g.flags.contains "extract"))
  | .fallback => .ok (.fallback input)
  | .generate =>
    (tokenLimit env g).map fun limit => .generate input (g.values.lookup "platform") limit

/-- Reads the names after the command `help`. -/
def helpOn (names : List String) : Stop :=
  match names with
  | [] => .help
  | [name] =>
    if (Verb.ofName? name).isSome || name == "help" then .help
    else .usage (.unknownCommand name)
  | _ :: name :: _ => .usage (.unknownCommand name)

/-- Reads all arguments as a command. -/
def parse (env : Environment) (arguments : List String) : Except Stop Command :=
  match arguments with
  | [] => .error (.usage .missingCommand)
  | first :: rest =>
    match Verb.ofName? first with
    | some verb =>
      match collect verb .nothing rest with
      | .ok g => command env verb g
      | .error stop => .error stop
    | none =>
      if first = "help" then .error (helpOn rest)
      else if first = "--help" then .error .help
      else if (stripStart? "-h".toList first.toList).isSome then .error .help
      else if isOption first then .error (.usage (.unexpected first))
      else .error (.usage (.unknownCommand first))

end Arguments

end DiagramStudio
