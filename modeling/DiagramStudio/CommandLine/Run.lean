import DiagramStudio.CommandLine.Arguments
import DiagramStudio.CommandLine.EnvFile
import DiagramStudio.CommandLine.Input
import DiagramStudio.Service.Generator

/-!
# Running a command

What a command prints, how it ends and what it sends, as a function of its input, the environment
and the network.
-/

namespace DiagramStudio

open Text

/-- Why a command failed. -/
inductive CommandError
  | input (path : String) (reason : InputError)
  | generation (message : String)
  deriving Repr, DecidableEq

namespace CommandError

def report : CommandError → Text
  | input path reason =>
    "Error: Input \x7b path: ".toList ++ quote path.toList ++ ", source: ".toList ++
      reason.details ++ " \x7d".toList
  | generation message => "Error: Generation(".toList ++ quote message.toList ++ ")".toList

end CommandError

/-- How a run ends. -/
structure RunOutcome where
  exitCode : UInt8
  output : Text
  error : Option CommandError
  requests : List Http.Request

namespace RunOutcome

def success (output : Text) : RunOutcome := ⟨0, output, none, []⟩

/-- A run that fails before it prints anything. -/
def failure (e : CommandError) : RunOutcome := ⟨1, [], some e, []⟩

/-- A run that never becomes a command. Help is a success, a usage error has a code of its own. -/
def stopped : Arguments.Stop → RunOutcome
  | .help => ⟨0, [], none, []⟩
  | .usage _ => ⟨2, [], none, []⟩

end RunOutcome

namespace DiagramResult

/-- The error that a result makes the command end with. -/
def commandError? (r : DiagramResult) : Option CommandError :=
  match r.status with
  | .success => none
  | .error => some (.generation (r.error.getD "unknown error"))

end DiagramResult

namespace Command

/-- The generator of the command line: the configured model, if the settings are valid, and the
options of the environment with the given limit in tokens. -/
def generator (env : Environment) (maxTokens : Option UInt32) : Generator Network where
  model := ((Settings.resolve env.settings).toOption).map Settings.chatModel
  options :=
    let options := Options.resolve env.settings
    { options with maxTokens := maxTokens.getD options.maxTokens }

/-- Runs the command that generates a diagram: it prints the result, also when it fails. -/
def runGenerate (env : Environment) (network : Network) (r : DiagramRequest)
    (maxTokens : Option UInt32) : RunOutcome :=
  let (result, network) := (generator env maxTokens).generate r network
  let error := result.commandError?
  { exitCode := if error.isSome then 1 else 0
    output := result.print ++ ['\n']
    error
    requests := network.seen }

/-- Runs a command on the text of its input. -/
def runOn (env : Environment) (network : Network) (text : Text) : Command → RunOutcome
  | extract _ => .success (Fence.extract text ++ ['\n'])
  | sanitize _ fenced =>
    .success (Repair.repair (if fenced then Fence.extract text else text) ++ ['\n'])
  | fallback _ => .success (Fallback.diagram text)
  | generate _ platform maxTokens =>
    runGenerate env network ⟨String.ofList text, platform⟩ maxTokens

/-- Runs a command on its input, if that can be read. -/
def run (env : Environment) (network : Network) (input : Except InputError Text)
    (c : Command) : RunOutcome :=
  match input with
  | .error reason => .failure (.input c.input reason)
  | .ok text => c.runOn env network text

end Command

/-- Everything around a run. -/
structure Surroundings where
  environment : Environment
  standardInput : List UInt8
  folder : Folder
  network : Network

namespace Surroundings

/-- The environment of the run: the one it is given, with the assignments of the file `.env` of
the working directory added. -/
def fullEnvironment (s : Surroundings) : Environment :=
  match (s.folder.read ".env").toOption.bind Utf8.decode? with
  | some file => EnvFile.load s.environment file
  | none => s.environment

def input (s : Surroundings) (path : String) : Except InputError Text :=
  if path = "-" then readText s.standardInput
  else
    match s.folder.read path with
    | .ok bytes => readText bytes
    | .error e => .error e

def run (s : Surroundings) (arguments : List String) : RunOutcome :=
  let env := s.fullEnvironment
  match Arguments.parse env arguments with
  | .error stop => .stopped stop
  | .ok command => command.run env s.network (s.input command.input)

end Surroundings

end DiagramStudio
