import DiagramStudio.CommandLine.Run

/-!
# The program

The outermost layer: it collects what surrounds the run, runs the command and prints what came of
it. No transport to a provider is built in, so every request ends as a failed connection.
-/

namespace DiagramStudio.Program

/-- The entries of the process environment, as the system lists them. -/
def readEnvironment : IO Environment := do
  let bytes ← IO.FS.readBinFile "/proc/self/environ"
  let entries := Text.segments (· == '\x00') (Text.Utf8.decodeLossy bytes.toList)
  return entries.filterMap fun entry =>
    (Text.cut? ['='] entry).map fun parts => (String.ofList parts.1, String.ofList parts.2)

/-- The nearest environment file in the working directory or above it, up to `levels` levels. -/
def readEnvFile (levels : Nat) (directory : String) : IO (Option Text) := do
  match levels with
  | 0 => return none
  | levels + 1 =>
    try
      let bytes ← IO.FS.readBinFile (directory ++ ".env")
      return Text.Utf8.decode? bytes.toList
    catch _ => readEnvFile levels (directory ++ "../")

partial def readAll (stream : IO.FS.Stream) (before : ByteArray) : IO ByteArray := do
  let bytes ← stream.read 65536
  if bytes.isEmpty then return before else readAll stream (before ++ bytes)

/-- The cause of a failed attempt to read a file. -/
def inputError : IO.Error → InputError
  | .inappropriateType .. => .directory
  | _ => .missing

/-- The text of an input: a file, or standard input for a single dash. -/
def readInput (path : String) : IO (Except InputError Text) := do
  if path = "-" then
    return readText (← readAll (← IO.getStdin) ByteArray.empty).toList
  else
    try return readText (← IO.FS.readBinFile path).toList
    catch e => return .error (inputError e)

/-- A network that reaches nobody. -/
def noNetwork : Network := ⟨[], .unreachable, []⟩

/-- Reads the arguments and runs the command that they name. -/
def run (arguments : List String) : IO RunOutcome := do
  let own ← readEnvironment
  let env := match ← readEnvFile 64 "" with
    | some file => EnvFile.load own file
    | none => own
  match Arguments.parse env arguments with
  | .error stop => return .stopped stop
  | .ok command => return command.run env noNetwork (← readInput command.input)

end DiagramStudio.Program

/-- Runs the program, prints its output and reports its error. -/
def main (arguments : List String) : IO UInt32 := do
  let outcome ← DiagramStudio.Program.run arguments
  IO.print (String.ofList outcome.output)
  if let some error := outcome.error then
    IO.eprintln (String.ofList error.report)
  return outcome.exitCode.toUInt32
