import TemplateStream.Description.Surroundings
import TemplateStream.Format.Json

/-!
# The program

The program carries out its arguments in the surroundings that are described on its standard
input, writes what the command writes, and ends with its status.
-/

open TemplateStream

/-- How the command is used. -/
def usageLine : String :=
  "usage: templatestream [-h] [-v] (render TEMPLATE | plugins | extensions) [OPTION ...]"

/-- The status of a fault that is not reported. -/
def faultStatus : UInt32 := 1

/-- The rest of a stream. -/
partial def restOf (stream : IO.FS.Stream) (before : String) : IO String := do
  let line ← stream.getLine
  if line.isEmpty then pure before else restOf stream (before ++ line)

/-- Carries out an invocation in described surroundings. -/
def carryOut (invocation : CommandLine.Invocation) (surroundings : Value) : IO UInt32 := do
  let (result, terminal) := invocation.perform.run (Description.terminal surroundings)
  IO.print terminal.written
  IO.eprint terminal.reported
  match result with
  | .ok status => pure status.toUInt32
  | .error fault =>
    IO.eprintln s!"{fault.kind.label}: {fault.message}"
    pure faultStatus

/-- Carries out the arguments of the program. -/
def main (arguments : List String) : IO UInt32 := do
  match CommandLine.Invocation.ofTexts arguments with
  | .error .usage =>
    IO.eprintln usageLine
    pure CommandLine.failureStatus.toUInt32
  | .error .help =>
    IO.println usageLine
    pure CommandLine.successStatus.toUInt32
  | .ok invocation =>
    match Format.Json.read (← restOf (← IO.getStdin) "") with
    | .ok surroundings => carryOut invocation surroundings
    | .error fault =>
      IO.eprintln s!"error: {fault.message}"
      pure CommandLine.failureStatus.toUInt32
