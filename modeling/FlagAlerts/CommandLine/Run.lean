import FlagAlerts.Calendar.Month
import FlagAlerts.CommandLine.Arguments
import FlagAlerts.Config.Load
import FlagAlerts.Delivery.Notifier
import FlagAlerts.Schedule.Next

/-!
# Running commands

The commands need no stores: one checks the settings and shows when each job runs next, the other
delivers a sample notification. A command ends with an exit code: zero, one for settings or a
delivery that failed, and two for a command line that cannot be used.
-/

namespace FlagAlerts

open FlagAlerts.Text FlagAlerts.Calendar

/-- How a command ends, and the lines that it prints. -/
structure CommandResult where
  exitCode : Nat
  lines : List String := []
  deriving Repr, DecidableEq, Inhabited

/-- The exit code for a command line that names no command to run. -/
def UsageError.exitCode : UsageError → Nat
  | .help | .version => 0
  | _ => 2

namespace Command

/-- A text with blanks after it up to the given width. -/
def padTo (width : Nat) (s : String) : String :=
  s ++ String.ofList (List.replicate (width - s.length) ' ')

/-- The line of a job: its name, its schedule, and when it runs next. -/
def jobLine (z : Zone) (now : Int) (upcoming : Nat) (job expression : String) : Option String := do
  let schedule ← Schedule.parse? expression
  let times := (schedule.upcoming z now upcoming).map z.text
  return padTo 28 job ++ " " ++ padTo 16 expression ++ " " ++ ", ".intercalate times

/-- Shows when each job runs next. -/
def runValidate (config : Config) (now : Int) (upcoming : Nat) : CommandResult :=
  match Zone.ofName? config.scheduler.timezone with
  | none => ⟨1, []⟩
  | some z =>
    let line := fun (job, expression) => jobLine z now upcoming job expression
    match config.jobSchedules.mapM line with
    | none => ⟨1, []⟩
    | some lines => ⟨0, lines⟩

/-- The body of a sample notification. -/
def sampleBody (config : Config) (now : Int) : SampleKind → Option NotificationBody
  | .domainEvent =>
    some (.domainEvent ⟨"operator@example.com", "Operator", false⟩ (.known .feature)
      "sample-feature" "FEATURE_CREATED"
      "\x7b\"id\":\"sample-feature\",\"tags\":[\"sample\"]\x7d")
  | .featureStale =>
    let lastUsed := now - config.watchers.staleThresholdSeconds.toInt - 1
    some (.featureStale [{ id := "sample-feature", name := "Sample feature", enabled := true,
                           lastUsedAt := some (Int64.ofInt lastUsed) }])
  | .experimentRunning =>
    some (.experimentRunning [⟨"sample-experiment", "Sample experiment", "sample-feature", .running,
      Int64.ofInt (now - 86400), Int64.ofInt (now + 86400)⟩])
  | .mauCount => do
    let z ← Zone.ofName? config.watchers.mauReferenceTimezone
    let month := Month.lastBefore z now
    return .mauCount ⟨1000, 100⟩ (Int32.ofInt month.year) (UInt32.ofNat month.month)

/-- Delivers a sample notification. -/
def runSendTest (config : Config) (now : Int) (transport : Transport) (webhookUrl language : String)
    (kind : SampleKind) : CommandResult :=
  match sampleBody config now kind with
  | none => ⟨1, []⟩
  | some body =>
    let notifier := Notifier.slack config.webUrl transport
    match (notifier.deliver 0 ⟨"sample-environment", "sample", body⟩
        (.slack webhookUrl language)).value with
    | .ok () => ⟨0, []⟩
    | .error _ => ⟨1, []⟩

/-- Runs a command line, with the text of a settings file by its path. -/
def run (args : List String) (file : String → Option String)
    (inEnvironment : List (String × String)) (now : Int) (transport : Transport) : CommandResult :=
  match Arguments.parse args with
  | .error e => ⟨e.exitCode, []⟩
  | .ok arguments =>
    let sources : ConfigSources :=
      ⟨arguments.configPath.bind file, inEnvironment, arguments.overrides⟩
    match sources.load with
    | .error _ => ⟨1, []⟩
    | .ok config =>
      match arguments.command with
      | .validate upcoming => runValidate config now upcoming
      | .sendTest webhookUrl language kind =>
        runSendTest config now transport webhookUrl language kind

end Command

end FlagAlerts
