import FlagAlerts.Text.Decimal

/-!
# Command line arguments

A command with its options. Options for all commands may stand before or after the name of the
command, where the later place wins; in one place an option stands once.
-/

namespace FlagAlerts

open FlagAlerts.Text

/-- A kind of notification that can be tried out. -/
inductive SampleKind where
  | domainEvent
  | featureStale
  | experimentRunning
  | mauCount
  deriving Repr, DecidableEq, Inhabited

/-- What the command line asks for. -/
inductive Command where
  /-- Check the settings and show when jobs run next. -/
  | validate (upcoming : Nat)
  /-- Deliver a sample notification to a webhook. -/
  | sendTest (webhookUrl language : String) (kind : SampleKind)
  deriving Repr, DecidableEq, Inhabited

/-- The command line. -/
structure Arguments where
  /-- The settings file. -/
  configPath : Option String := none
  logLevel : Option String := none
  webUrl : Option String := none
  command : Command
  deriving Repr, DecidableEq, Inhabited

/-- Why a command line does not name a command to run. -/
inductive UsageError where
  | help
  | helpForMissingCommand
  | version
  | unknownArgument
  | unknownCommand
  | missingCommand
  | missingArgument
  /-- A value is missing or none of the possible ones. -/
  | invalidValue
  /-- A value is not of the right form. -/
  | badValue
  /-- A flag is given a value. -/
  | tooManyValues
  /-- An option stands twice. -/
  | repeated
  deriving Repr, DecidableEq, Inhabited

namespace Arguments

/-- An option with a value. -/
inductive Flag where
  | config
  | logLevel
  | webUrl
  | upcoming
  | webhookUrl
  | language
  | kind
  deriving Repr, DecidableEq, Inhabited

/-- A place for options: before the name of the command, or after it. -/
inductive Level where
  | top
  | validate
  | sendTest
  deriving Repr, DecidableEq, Inhabited

/-- The long names of the options for all commands. -/
def commonFlags : List (String × Flag) :=
  [("config", .config), ("log-level", .logLevel), ("web-url", .webUrl)]

/-- The long names of the options of a place. -/
def flags : Level → List (String × Flag)
  | .top => commonFlags
  | .validate => commonFlags ++ [("upcoming", .upcoming)]
  | .sendTest =>
    commonFlags ++ [("webhook-url", .webhookUrl), ("language", .language), ("kind", .kind)]

/-- The sample kinds by name. -/
def kinds : List (String × SampleKind) :=
  [("domain-event", .domainEvent), ("feature-stale", .featureStale),
    ("experiment-running", .experimentRunning), ("mau-count", .mauCount)]

/-- The options read in one place, last first. -/
abbrev Values := List (Flag × String)

/-- Reads a count. -/
def count? (s : String) : Option Nat := readNat? maxUInt64 s.toList

/-- Checks the value of an option. -/
def checkValue (flag : Flag) (value : String) : Except UsageError Unit :=
  match flag with
  | .upcoming => if (count? value).isSome then .ok () else .error .badValue
  | .kind => if (kinds.lookup value).isSome then .ok () else .error .invalidValue
  | .config => if value.isEmpty then .error .invalidValue else .ok ()
  | _ => .ok ()

/-- Adds the value of an option. -/
def add (flag : Flag) (value : String) (values : Values) : Except UsageError Values := do
  if (values.lookup flag).isSome then throw .repeated
  checkValue flag value
  return (flag, value) :: values

/-- What an argument is. -/
inductive Token where
  | escape
  | long (name : String) (value : Option String)
  | short (letters : List Char)
  | word (s : String)
  deriving Repr, DecidableEq, Inhabited

/-- Classifies an argument. -/
def tokenOf (arg : String) : Token :=
  match arg.toList with
  | ['-', '-'] => .escape
  | '-' :: '-' :: rest =>
    let name := String.ofList (rest.takeWhile (· != '='))
    .long name <| match rest.dropWhile (· != '=') with
      | _ :: value => some (String.ofList value)
      | [] => none
  | '-' :: c :: rest => .short (c :: rest)
  | _ => .word arg

/-- The options read so far in one place. The value of the last one is checked only when another
option follows, or the place ends. -/
structure Reading where
  values : Values := []
  /-- The last option, if it is not checked yet, with its value if that has been read. -/
  pending : Option (Flag × Option String) := none
  deriving Repr, DecidableEq, Inhabited

namespace Reading

/-- Checks the last option. -/
def settle (r : Reading) : Except UsageError Values :=
  match r.pending with
  | none => .ok r.values
  | some (_, none) => .error .invalidValue
  | some (flag, some value) => add flag value r.values

/-- Takes a word as the value of the last option, if that one has none yet. -/
def take? (r : Reading) (word : String) : Option Reading :=
  match r.pending with
  | some (flag, none) => some { r with pending := some (flag, some word) }
  | _ => none

/-- Reads an option, whose value is the given one or the next word. -/
def option (r : Reading) (flag : Flag) (value : Option String) : Except UsageError Reading := do
  let values ← r.settle
  match value with
  | some v => return { values := ← add flag v values }
  | none => return { values := values, pending := some (flag, none) }

/-- Asks for help, or for the version. -/
def ask (r : Reading) (answer : UsageError) : Except UsageError Reading := do
  let _ ← r.settle
  throw answer

/-- Reads an option with a long name. -/
def long (r : Reading) (level : Level) (name : String) (value : Option String) :
    Except UsageError Reading :=
  match (flags level).lookup name with
  | some flag => r.option flag value
  | none =>
    if name == "help" || (name == "version" && level == .top) then
      if value.isSome then throw .tooManyValues
      else r.ask (if name == "help" then .help else .version)
    else throw .unknownArgument

/-- Reads an option with a short name. -/
def short (r : Reading) (level : Level) : List Char → Except UsageError Reading
  | ['c'] => r.option .config none
  | 'c' :: '=' :: value => r.option .config (some (String.ofList value))
  | 'c' :: value => r.option .config (some (String.ofList value))
  | 'h' :: _ => r.ask .help
  | 'V' :: _ => if level == .top then r.ask .version else throw .unknownArgument
  | _ => throw .unknownArgument

end Reading

/-- Where the options of a place end: at a word with what follows it, which may be behind two
hyphens, or at the end of the command line. -/
structure Stop where
  word : Option (String × List String) := none
  isEscaped : Bool := false
  deriving Repr, DecidableEq, Inhabited

/-- Reads the options of a place. -/
def readOptions (level : Level) : List String → Reading → Except UsageError (Reading × Stop)
  | [], r => .ok (r, {})
  | arg :: rest, r =>
    match tokenOf arg with
    | .escape =>
      .ok (r, ⟨match rest with | word :: rest => some (word, rest) | [] => none, true⟩)
    | .word s =>
      match r.take? s with
      | some r => readOptions level rest r
      | none => .ok (r, ⟨some (s, rest), false⟩)
    | .long name value => do
      let r ← r.long level name value
      readOptions level rest r
    | .short letters => do
      let r ← r.short level letters
      readOptions level rest r

/-- The command of the options read after its name. -/
def commandOf (level : Level) (values : Values) : Except UsageError Command :=
  match level with
  | .sendTest =>
    match values.lookup .webhookUrl with
    | none => .error .missingArgument
    | some url =>
      .ok (.sendTest url ((values.lookup .language).getD "en")
        (((values.lookup .kind).bind fun k => kinds.lookup k).getD .domainEvent))
  | _ => .ok (.validate (((values.lookup .upcoming).bind count?).getD 3))

/-- The place after the name of a command. -/
def level? (name : String) : Option Level :=
  if name == "validate" then some .validate
  else if name == "send-test" then some .sendTest
  else none

/-- The error of a help command, which may name a command. -/
def helpError : List String → UsageError
  | [] => .help
  | [name] => if (level? name).isSome || name == "help" then .help else .unknownCommand
  | _ => .unknownCommand

/-- The error of a word that is not the name of a command, or stands where none can be. -/
def wordError (name : String) (rest : List String) (isEscaped : Bool) : UsageError :=
  if isEscaped && ((level? name).isSome || name == "help") then .unknownArgument
  else if name == "help" then helpError rest
  else .unknownCommand

/-- Reads a command and its options, and checks the last option before it. -/
def parseCommand (outer : Reading) (level : Level) (args : List String) :
    Except UsageError Arguments := do
  let (inner, stop) ← readOptions level args {}
  if stop.word.isSome then throw .unknownArgument
  let inner ← inner.settle
  let command ← commandOf level inner
  let outer ← outer.settle
  let value (flag : Flag) := (inner.lookup flag).or (outer.lookup flag)
  return ⟨value .config, value .logLevel, value .webUrl, command⟩

/-- Reads a command line without the name of the program. -/
def parse (args : List String) : Except UsageError Arguments := do
  let (outer, stop) ← readOptions .top args {}
  match stop.word with
  | none =>
    let values ← outer.settle
    throw (if values.isEmpty then .helpForMissingCommand else .missingCommand)
  | some (name, rest) =>
    match (level? name).filter fun _ => !stop.isEscaped with
    | some level => parseCommand outer level rest
    | none => throw (wordError name rest stop.isEscaped)

/-- The settings that the command line overrides. -/
def overrides (a : Arguments) : List (String × String) :=
  (a.logLevel.map fun v => ("log_level", v)).toList ++ (a.webUrl.map fun v => ("web_url", v)).toList

end Arguments

end FlagAlerts
