import FlagAlerts.Config.Toml
import FlagAlerts.Config.Validate
import FlagAlerts.Config.Variable

/-!
# Loading settings

Settings come from the defaults, a file, environment variables and the command line, each laid over
those before it, and are checked at the end.
-/

namespace FlagAlerts

/-- Why settings cannot be loaded. -/
inductive LoadError where
  | unreadable (fault : ConfigFault)
  | refused (e : ConfigError)
  deriving Repr, DecidableEq, Inhabited

/-- Where settings come from besides the defaults; a missing file has no settings. -/
structure ConfigSources where
  file : Option String := none
  inEnvironment : List (String × String) := []
  overrides : List (String × String) := []
  deriving Repr, DecidableEq, Inhabited

namespace ConfigSources

/-- The settings of the file. -/
def fileTree (s : ConfigSources) : Except ConfigFault ConfigTree :=
  match s.file with
  | none => .ok (.table [])
  | some text => (Config.Toml.parse? text).elim (.error ⟨.text, []⟩) .ok

/-- The settings of the environment. A variable is laid over those before it. -/
def environmentTree (s : ConfigSources) : ConfigTree :=
  .ofLayers (s.inEnvironment.filterMap fun (name, value) => Config.Variable.tree? name value)

/-- The settings of the command line. -/
def overrideTree (s : ConfigSources) : ConfigTree :=
  .table (s.overrides.map fun (name, value) => (name, .text value))

/-- Loads the settings. -/
def load (s : ConfigSources) : Except LoadError Config := do
  let file ← s.fileTree.mapError .unreadable
  let config ←
    (Config.ofTrees false [file, s.environmentTree, s.overrideTree]).mapError .unreadable
  config.validate.mapError .refused
  return config

end ConfigSources

end FlagAlerts
