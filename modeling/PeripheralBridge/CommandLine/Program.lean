import PeripheralBridge.CommandLine.LogFilter
import PeripheralBridge.CommandLine.Run

/-!
# The program

The words of its command line and the log filter of its environment determine what the
program writes and how it ends. The settings of output and log may stand before or after
the name of the command, and the later place wins.
-/

namespace PeripheralBridge.CommandLine

structure Shared where
  format : Option OutputFormat := none
  logFormat : Option LogFormat := none
  logLevel : Option LogLevel := none
  deriving DecidableEq, Repr

namespace Shared

def choice {α : Type} (name : String) (read : String → Except String α)
    (get : Shared → Option α) (set : α → Shared → Shared) : Switch Shared :=
  .keep name (fun text => (read text).mapError fun _ => .badChoice) get set

def switches : List (Switch Shared) := [
  choice "format" OutputFormat.read format fun v s => { s with format := some v },
  choice "log-format" LogFormat.read logFormat fun v s => { s with logFormat := some v },
  choice "log-level" LogLevel.read logLevel fun v s => { s with logLevel := some v }]

/-- What was set later counts, and what was not is as it was before. -/
def merge (before after : Shared) : Shared where
  format := after.format <|> before.format
  logFormat := after.logFormat <|> before.logFormat
  logLevel := after.logLevel <|> before.logLevel

end Shared

structure Invocation where
  shared : Shared
  command : Command
  deriving DecidableEq, Repr

def Invocation.parse (words : List String) : Except Halt Invocation :=
  (readLine Shared.switches [.version] Shared.merge {} words).map fun p => ⟨p.1, p.2⟩

structure Outcome where
  exit : ExitCode
  output : Bytes := []
  errors : String := ""
  deriving DecidableEq, Repr

/-- Run the program where there is no hardware. `form` is the form of its output when none is
given. A command line that names no command leaves its reason instead. -/
def runProgram (arrange : Table.Arrangement) (form : OutputFormat) (filter? : Option String)
    (words : List String) : Except Halt Outcome :=
  match Invocation.parse words with
  | .error .version => .ok { exit := .success, output := Utf8.encode versionText }
  | .error why => .error why
  | .ok i =>
    let notice := LogFilter.complaint filter?
    match (i.command.run Target.refuse arrange (i.shared.format.getD form) ()).1 with
    | .ok report => .ok { exit := report.exit, output := report.output, errors := notice }
    | .error failure =>
      .ok { exit := failure.exit, errors := notice ++ line ("error: " ++ failure.message) }

namespace Halt

/-- The exit code when there is no command to run. -/
def exit : Halt → Nat
  | help | version => 0
  | _ => 2

def message : Halt → String
  | help => "usage: " ++ programName ++ " [OPTIONS] <COMMAND>"
  | version => programName ++ " " ++ programVersion
  | noCommand => "error: no command given"
  | unknownCommand => "error: unknown command"
  | unknownArgument => "error: unknown argument"
  | missingValue => "error: a value is missing"
  | unexpectedValue => "error: a switch takes no value"
  | badValue | badChoice => "error: invalid value"
  | conflict => "error: switches cannot be used together"
  | missingArgument => "error: a required argument is missing"

end Halt

end PeripheralBridge.CommandLine
