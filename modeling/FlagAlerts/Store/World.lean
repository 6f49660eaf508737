import FlagAlerts.Store.Platform

/-!
# Stores in memory

A world is everything that the stores hold, with the failures and delays of their answers.
-/

namespace FlagAlerts

/-- What the stores hold and how they fail. -/
structure World where
  environments : List (String × Environment) := []
  projects : List Project := []
  features : List (String × Feature) := []
  experiments : List (String × Experiment) := []
  /-- By environment and month. -/
  usage : List ((String × String) × MauCount) := []
  subscriptions : List Subscription := []
  /-- The answer to every look-up. -/
  lookupError : Option StoreError := none
  /-- Look-ups of these namespaces are refused before they are counted. -/
  lookupErrors : List (String × StoreError) := []
  listError : Option StoreError := none
  projectErrors : List (String × StoreError) := []
  featureErrors : List (String × StoreError) := []
  experimentErrors : List (String × StoreError) := []
  usageErrors : List (String × StoreError) := []
  subscriptionError : Option StoreError := none
  lookupDelay : Nat := 0
  listDelay : Nat := 0
  deriving Repr, Inhabited

namespace World

variable {α : Type}

/-- The members of a list of pairs that belong to a key. -/
def of (key : String) (pairs : List (String × α)) : List α :=
  (pairs.filter (·.1 == key)).map (·.2)

/-- Fails if there is an error. -/
def check : Option StoreError → Except StoreError Unit
  | none => .ok ()
  | some e => .error e

/-- The environment of a namespace. -/
def lookup (w : World) (environmentNamespace : String) : Except StoreError Environment := do
  check (w.lookupErrors.lookup environmentNamespace)
  check w.lookupError
  match w.environments.lookup environmentNamespace with
  | some e => return e
  | none => throw (.notFound ("environment " ++ environmentNamespace))

/-- The number of look-ups that are counted: those of namespaces that are not refused. -/
def countLookups (w : World) (environmentNamespaces : List String) : Nat :=
  environmentNamespaces.countP fun n => (w.lookupErrors.lookup n).isNone

/-- A page of the environments that pass a filter. -/
def listEnvironments (w : World) (filter : EnvironmentFilter) (request : ListRequest) :
    Except StoreError (Page Environment) := do
  check (filter.projectId.bind fun id => w.projectErrors.lookup id)
  check w.listError
  Page.ofList ((w.environments.map (·.2)).filter fun e =>
    filter.archived.all (e.archived == ·) && filter.projectId.all (e.projectId == ·)) request

/-- A page of the projects. -/
def listProjects (w : World) (request : ListRequest) : Except StoreError (Page Project) := do
  check w.listError
  Page.ofList w.projects request

/-- A page of the feature flags of an environment. -/
def listFeatures (w : World) (environmentId : String) (archived : Option Bool)
    (request : ListRequest) : Except StoreError (Page Feature) := do
  check (w.featureErrors.lookup environmentId)
  Page.ofList ((of environmentId w.features).filter fun f => archived.all (f.archived == ·)) request

/-- A page of the experiments of an environment. -/
def listExperiments (w : World) (environmentId : String) (filter : ExperimentFilter)
    (request : ListRequest) : Except StoreError (Page Experiment) := do
  check (w.experimentErrors.lookup environmentId)
  Page.ofList ((of environmentId w.experiments).filter fun e =>
    filter.statuses.isEmpty || filter.statuses.contains e.status) request

/-- The usage of an environment in a month; zero if there is none. -/
def usageOf (w : World) (environmentId month : String) : Except StoreError MauCount := do
  check (w.usageErrors.lookup environmentId)
  return (w.usage.reverse.lookup (environmentId, month)).getD {}

/-- The environment that subscriptions of a scope belong to. -/
def scopeId : Scope → String
  | .environment id => id
  | .admin => ""

/-- The enabled subscriptions of a scope that listen to one of the source types, in order. -/
def matching (w : World) (scope : Scope) (sourceTypes : List SourceType) : List Subscription :=
  w.subscriptions.filter fun s =>
    s.enabled && s.environmentId == scopeId scope && s.sourceTypes.any sourceTypes.contains

/-- A page of the subscriptions of a scope. -/
def listSubscriptions (w : World) (scope : Scope) (sourceTypes : List SourceType)
    (request : ListRequest) : Except StoreError (Page Subscription) := do
  check w.subscriptionError
  Page.ofList (w.matching scope sourceTypes) request

/-- The stores of a world. -/
def platform (w : World) : Platform where
  lookup environmentNamespace := ⟨w.lookupDelay, w.lookup environmentNamespace⟩
  environments filter request := ⟨w.listDelay, w.listEnvironments filter request⟩
  projects request := ⟨w.listDelay, w.listProjects request⟩
  features id archived request := ⟨0, w.listFeatures id archived request⟩
  experiments id filter request := ⟨0, w.listExperiments id filter request⟩
  usage id month := ⟨0, w.usageOf id month⟩
  subscriptions scope sourceTypes request := ⟨0, w.listSubscriptions scope sourceTypes request⟩
  pages := w.environments.length + w.projects.length + w.features.length + w.experiments.length +
    w.subscriptions.length + 1

end World

end FlagAlerts
