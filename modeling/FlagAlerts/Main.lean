import FlagAlerts.CommandLine.Run
import Std.Time.DateTime

/-!
# The program

Reads the settings file, the environment variables and the clock, runs the command line and prints
the lines of the command. The program itself has no connection to webhooks, so that every delivery
from it fails.
-/

namespace FlagAlerts

/-- The text of a file; none if it cannot be read. -/
def readText? (path : String) : IO (Option String) := do
  try return some (← IO.FS.readFile path) catch _ => return none

/-- The environment variables of the program. -/
def readVariables : IO (List (String × String)) := do
  let text := (← readText? "/proc/self/environ").getD ""
  let entries := text.splitOn "\x00"
  return entries.filterMap fun entry =>
    match entry.splitOn "=" with
    | name :: value@(_ :: _) => some (name, "=".intercalate value)
    | _ => none

/-- The settings file that a command line names. -/
def configPath? (args : List String) : Option String :=
  (Arguments.parse args).toOption.bind (·.configPath)

end FlagAlerts

open FlagAlerts

/-- Runs a command line and gives its exit code. -/
def main (args : List String) : IO UInt32 := do
  let path := (configPath? args).getD ""
  let text ← readText? path
  let inEnvironment ← readVariables
  let now ← Std.Time.Timestamp.now
  let file (p : String) : Option String := if p == path then text else none
  let result := Command.run args file inEnvironment now.toSecondsSinceUnixEpoch.val .offline
  result.lines.forM IO.println
  return UInt32.ofNat result.exitCode
