import FlagAlerts.Proofs.Store.Listing
import FlagAlerts.Store.World

/-!
# What stores hold

What watchers find does not depend on how a store cuts its listings into pages, on how long it takes,
or on the page at which it fails. All that matters is what the stores hold and what they refuse: the
contents that a platform offers. The number of pages only tells how often a listing is asked for. Every
world of stores in memory offers its own contents.
-/

namespace FlagAlerts

/-- What the stores hold, archived or not, or the error with which they refuse to tell it, and how many
pages some of it is listed on. -/
structure Contents where
  environments : Except StoreError (List Environment)
  projects : Except StoreError (List Project)
  environmentsOf : (projectId : String) → Except StoreError (List Environment)
  features : (environmentId : String) → Except StoreError (List Feature)
  experiments : (environmentId : String) → Except StoreError (List Experiment)
  usage : (environmentId month : String) → Except StoreError MauCount
  featurePages : (environmentId : String) → Nat
  experimentPages : (environmentId : String) → Nat

/-- The environments that are not archived. -/
def active (environments : List Environment) : List Environment :=
  environments.filter fun e => !e.archived

/-- The feature flags that are not archived. -/
def present (features : List Feature) : List Feature :=
  features.filter fun f => !f.archived

namespace Platform

variable {α : Type}

/-- A listing has this outcome on so many pages, which are no more than a listing has. -/
def FindsOn (p : Platform) (ask : ListRequest → StoreAnswer (Page α)) (pages : Nat)
    (found : Except StoreError (List α)) : Prop :=
  pages ≤ p.pages ∧ Page.Walk (fun request => (ask request).value) pageSize "" pages found

/-- A listing has this outcome. -/
def Finds (p : Platform) (ask : ListRequest → StoreAnswer (Page α))
    (found : Except StoreError (List α)) : Prop :=
  ∃ pages, p.FindsOn ask pages found

/-- The listings of a platform are those of the contents: of environments those that are not
archived, of experiments those that are running, and of feature flags at least those that are not
archived. -/
structure Offers (p : Platform) (c : Contents) : Prop where
  environments : p.Finds (p.environments ⟨none, some false⟩) (c.environments.map active)
  projects : p.Finds p.projects c.projects
  environmentsOf : ∀ id,
    p.Finds (p.environments ⟨some id, some false⟩) ((c.environmentsOf id).map active)
  features : ∀ id, ∃ listed, p.FindsOn (p.features id (some false)) (c.featurePages id) listed ∧
    listed.map present = (c.features id).map present
  experiments : ∀ id,
    p.FindsOn (p.experiments id ⟨[.running], some false⟩) (c.experimentPages id)
      ((c.experiments id).map (List.filter fun e => e.status = .running))
  usage : ∀ id month, (p.usage id month).value = c.usage id month

section Listings

variable {p : Platform} {c : Contents} {ask : ListRequest → StoreAnswer (Page α)}
  {pages : Nat} {found : Except StoreError (List α)}

/-- Walking through a listing without a trace finds its outcome. -/
theorem Finds.quietly (finds : p.Finds ask found) :
    (Page.collectAll pageSize p.pages fun request => (Timed.await (ask request) : Work _)).result =
        found ∧
      (Page.collectAll pageSize p.pages fun request =>
        (Timed.await (ask request) : Work _)).acts = [] := by
  obtain ⟨pages, enough, walk⟩ := finds
  obtain ⟨result, acts⟩ := walk.collectFrom (fun _ => Timed.result_await _)
    (fun _ => Timed.acts_await _) enough
  refine ⟨result, acts.trans ?_⟩
  simp

/-- A listing has at least one page. -/
theorem FindsOn.pages_pos (finds : p.FindsOn ask pages found) : 0 < pages := by
  obtain ⟨-, walk⟩ := finds
  cases walk <;> omega

/-- Walking through a listing whose pages leave a trace finds its outcome, and leaves as many
traces as it has pages. -/
theorem FindsOn.telling (finds : p.FindsOn ask pages found) (trace : Effect) :
    (Page.collectAll pageSize p.pages fun request => do
        Timed.tell trace
        Timed.await (ask request)).result = found ∧
      (Page.collectAll pageSize p.pages fun request => do
        Timed.tell trace
        Timed.await (ask request)).acts = List.replicate pages trace := by
  obtain ⟨enough, walk⟩ := finds
  have answers (request : ListRequest) : (do
      Timed.tell trace
      Timed.await (ask request) : Work (Except StoreError (Page α))).result =
        (ask request).value := by simp
  have asks (request : ListRequest) : (do
      Timed.tell trace
      Timed.await (ask request) : Work (Except StoreError (Page α))).acts = [trace] := by simp
  obtain ⟨result, acts⟩ := walk.collectFrom answers asks enough
  exact ⟨result, acts.trans List.flatten_replicate_singleton⟩

theorem Offers.allEnvironments (offers : p.Offers c) :
    (p.allEnvironments ⟨none, some false⟩).result = c.environments.map active ∧
      (p.allEnvironments ⟨none, some false⟩).acts = [] :=
  offers.environments.quietly

theorem Offers.environmentsOfProject (offers : p.Offers c) (id : String) :
    (p.allEnvironments ⟨some id, some false⟩).result = (c.environmentsOf id).map active ∧
      (p.allEnvironments ⟨some id, some false⟩).acts = [] :=
  (offers.environmentsOf id).quietly

theorem Offers.allProjects (offers : p.Offers c) :
    p.allProjects.result = c.projects ∧ p.allProjects.acts = [] :=
  offers.projects.quietly

theorem Offers.allFeatures (offers : p.Offers c) (id : String) :
    (p.allFeatures id).result.map present = (c.features id).map present ∧
      (p.allFeatures id).acts = List.replicate (c.featurePages id) (.listedFeatures id) := by
  obtain ⟨listed, finds, told⟩ := offers.features id
  obtain ⟨result, traces⟩ := finds.telling (.listedFeatures id)
  exact ⟨(congrArg (Except.map present) result).trans told, traces⟩

theorem Offers.allRunningExperiments (offers : p.Offers c) (id : String) :
    (p.allRunningExperiments id).result =
        (c.experiments id).map (List.filter fun e => e.status = .running) ∧
      (p.allRunningExperiments id).acts =
        List.replicate (c.experimentPages id) (.listedExperiments id) :=
  (offers.experiments id).telling (.listedExperiments id)

theorem Offers.usageOf (offers : p.Offers c) (id month : String) :
    (p.usageOf id month).result = c.usage id month ∧
      (p.usageOf id month).acts = [.askedUsage id month] := by
  simp [Platform.usageOf, offers.usage id month]

end Listings

end Platform

namespace World

variable {α : Type}

/-- The pages of a listing in memory, if it is told: one for each full page, and one more. -/
def pagesOf (allowed : Except StoreError Unit) (items : List α) : Nat :=
  match allowed with
  | .error _ => 1
  | .ok () => items.length / Platform.pageSize + 1

/-- What a world holds, and what it refuses. -/
def contents (w : World) : Contents where
  environments := do
    check w.listError
    return w.environments.map (·.2)
  projects := do
    check w.listError
    return w.projects
  environmentsOf id := do
    check (w.projectErrors.lookup id)
    check w.listError
    return (w.environments.map (·.2)).filter (·.projectId == id)
  features id := do
    check (w.featureErrors.lookup id)
    return of id w.features
  experiments id := do
    check (w.experimentErrors.lookup id)
    return of id w.experiments
  usage := w.usageOf
  featurePages id := pagesOf (check (w.featureErrors.lookup id)) (present (of id w.features))
  experimentPages id := pagesOf (check (w.experimentErrors.lookup id))
    ((of id w.experiments).filter fun e => e.status = .running)

/-- A listing in memory has the things that pass its checks and its filter, unless a check fails. -/
theorem finds_of_answers {w : World} {ask : ListRequest → StoreAnswer (Page α)} {items : List α}
    {allowed : Except StoreError Unit}
    (answers : ∀ request, (ask request).value = allowed >>= fun _ => Page.ofList items request)
    (countable : w.platform.pages ≤ maxUInt64) (fits : items.length < w.platform.pages) :
    w.platform.FindsOn ask (pagesOf allowed items) (allowed >>= fun _ => .ok items) := by
  have same : (fun request => (ask request).value) =
      fun request => allowed >>= fun _ => Page.ofList items request := funext answers
  unfold Platform.FindsOn
  rw [same]
  cases allowed with
  | error e => exact ⟨Nat.one_le_of_lt fits, .refused rfl⟩
  | ok _ =>
    refine ⟨?_, Page.walk_ofList (by decide) (Nat.le_of_lt (Nat.lt_of_lt_of_le fits countable))⟩
    exact Nat.lt_of_le_of_lt (Nat.div_le_self _ _) fits

/-- What passes a check before it is narrowed down. -/
theorem map_checked {β : Type} (allowed : Except StoreError Unit) (items : α) (f : α → β) :
    (allowed >>= fun _ => pure items : Except StoreError α).map f =
      allowed >>= fun _ => .ok (f items) := by
  cases allowed <;> rfl

theorem length_of_le (key : String) (pairs : List (String × α)) :
    (of key pairs).length ≤ pairs.length := by
  rw [of, List.length_map]
  exact List.length_filter_le _ _

/-- The stores of a world offer what it holds, unless cursors cannot count it. -/
theorem platform_offers (w : World) (countable : w.platform.pages ≤ maxUInt64) :
    w.platform.Offers w.contents := by
  have pages : w.platform.pages = w.environments.length + w.projects.length + w.features.length +
      w.experiments.length + w.subscriptions.length + 1 := rfl
  have fewEnvironments (isListed : Environment → Bool) :
      ((w.environments.map (·.2)).filter isListed).length < w.platform.pages := by
    have fewer := List.length_filter_le isListed (w.environments.map (·.2))
    rw [List.length_map] at fewer
    omega
  constructor
  case environments =>
    simp only [contents]
    rw [map_checked]
    refine ⟨_, finds_of_answers ?_ countable (fewEnvironments _)⟩
    intro request
    simp [platform, listEnvironments, active, check, Bind.bind, Except.bind]
  case projects =>
    refine ⟨_, finds_of_answers (fun _ => rfl) countable ?_⟩
    omega
  case environmentsOf =>
    intro id
    simp only [contents]
    rw [← bind_assoc, map_checked, active, List.filter_filter]
    refine ⟨_, finds_of_answers ?_ countable (fewEnvironments _)⟩
    intro request
    simp [platform, listEnvironments]
  case features =>
    intro id
    have fewer : (present (of id w.features)).length ≤ (of id w.features).length :=
      List.length_filter_le _ _
    have few := length_of_le id w.features
    refine ⟨(w.contents.features id).map present, ?_, ?_⟩
    · simp only [contents]
      rw [map_checked]
      apply finds_of_answers _ countable (by omega)
      intro request
      simp [platform, listFeatures, present]
    · cases w.contents.features id with
      | error e => rfl
      | ok features => simp [Except.map, present]
  case experiments =>
    intro id
    have fewer := List.length_filter_le (fun e : Experiment => e.status = .running)
      (of id w.experiments)
    have few := length_of_le id w.experiments
    simp only [contents]
    rw [map_checked]
    apply finds_of_answers _ countable (by omega)
    intro request
    simp [platform, listExperiments]
  case usage =>
    intro id month
    rfl

end World

end FlagAlerts
