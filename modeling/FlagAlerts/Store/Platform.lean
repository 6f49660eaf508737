import FlagAlerts.Effect
import FlagAlerts.Store.Page
import FlagAlerts.Subscription

/-!
# The stores of the platform

What the service asks the platform's stores for. Every answer may take time and may be an error.
-/

namespace FlagAlerts

/-- An answer of a store. -/
abbrev StoreAnswer (α : Type) := Delayed (Except StoreError α)

/-- Which environments are listed. -/
structure EnvironmentFilter where
  projectId : Option String := none
  archived : Option Bool := none
  deriving Repr, DecidableEq, Inhabited

/-- Which experiments are listed; no status stands for any. -/
structure ExperimentFilter where
  statuses : List ExperimentStatus := []
  archived : Option Bool := none
  deriving Repr, DecidableEq, Inhabited

/-- Whose subscriptions are listed: those of one environment, or those across all. -/
inductive Scope where
  | environment (id : String)
  | admin
  deriving Repr, DecidableEq, Inhabited

/-- The stores of the platform. -/
structure Platform where
  lookup : (environmentNamespace : String) → StoreAnswer Environment
  environments : EnvironmentFilter → ListRequest → StoreAnswer (Page Environment)
  projects : ListRequest → StoreAnswer (Page Project)
  features : (environmentId : String) → (archived : Option Bool) → ListRequest →
    StoreAnswer (Page Feature)
  experiments : (environmentId : String) → ExperimentFilter → ListRequest →
    StoreAnswer (Page Experiment)
  usage : (environmentId month : String) → StoreAnswer MauCount
  subscriptions : Scope → List SourceType → ListRequest → StoreAnswer (Page Subscription)
  /-- The most pages that a listing has. -/
  pages : Nat

namespace Platform

/-- The size of every page that is asked for. -/
def pageSize : Nat := 500

/-- Lists all the environments that pass a filter. -/
def allEnvironments (p : Platform) (filter : EnvironmentFilter) :
    Work (Except StoreError (List Environment)) :=
  Page.collectAll pageSize p.pages fun request => Timed.await (p.environments filter request)

/-- Lists all projects. -/
def allProjects (p : Platform) : Work (Except StoreError (List Project)) :=
  Page.collectAll pageSize p.pages fun request => Timed.await (p.projects request)

/-- Lists all feature flags of an environment that are not archived. -/
def allFeatures (p : Platform) (environmentId : String) : Work (Except StoreError (List Feature)) :=
  Page.collectAll pageSize p.pages fun request => do
    Timed.tell (.listedFeatures environmentId)
    Timed.await (p.features environmentId (some false) request)

/-- Lists all running experiments of an environment. -/
def allRunningExperiments (p : Platform) (environmentId : String) :
    Work (Except StoreError (List Experiment)) :=
  Page.collectAll pageSize p.pages fun request => do
    Timed.tell (.listedExperiments environmentId)
    Timed.await (p.experiments environmentId ⟨[.running], some false⟩ request)

/-- Lists all subscriptions of a scope that listen to a source type. -/
def allSubscriptions (p : Platform) (scope : Scope) (sourceType : SourceType) :
    Work (Except StoreError (List Subscription)) :=
  Page.collectAll pageSize p.pages fun request => do
    Timed.tell .listedSubscriptions
    Timed.await (p.subscriptions scope [sourceType] request)

/-- Looks up an environment. -/
def lookUp (p : Platform) (environmentNamespace : String) :
    Work (Except StoreError Environment) := do
  Timed.tell (.lookingUp environmentNamespace)
  let answer ← Timed.await (p.lookup environmentNamespace)
  Timed.tell (.lookedUp environmentNamespace)
  return answer

/-- Asks for the usage of an environment in a month. -/
def usageOf (p : Platform) (environmentId month : String) : Work (Except StoreError MauCount) := do
  Timed.tell (.askedUsage environmentId month)
  Timed.await (p.usage environmentId month)

end Platform

end FlagAlerts
