import FlagAlerts.Json.Codec

/-!
# What the platform keeps

The environments of projects, the feature flags and experiments of an environment, and its monthly
usage, with the form that each is written in.
-/

namespace FlagAlerts

/-- A platform environment. -/
structure Environment where
  id : String
  name : String
  /-- The short code in the addresses of the web console. -/
  urlCode : String
  projectId : String
  archived : Bool := false
  deriving Repr, DecidableEq, Inhabited

/-- A project, which groups environments. -/
structure Project where
  id : String
  name : String
  disabled : Bool := false
  deriving Repr, DecidableEq, Inhabited

/-- A feature flag. -/
structure Feature where
  id : String
  name : String
  enabled : Bool
  archived : Bool := false
  /-- The variation that is served while the flag is off; empty if there is none. -/
  offVariation : String := ""
  tags : List String := []
  /-- When the flag was last evaluated, in seconds of Unix time. -/
  lastUsedAt : Option Int64 := none
  deriving Repr, DecidableEq, Inhabited

/-- A flag that is off and has nothing to serve then. -/
def Feature.isRetired (f : Feature) : Bool := !f.enabled && f.offVariation.isEmpty

/-- Where an experiment stands. -/
inductive ExperimentStatus where
  | waiting
  | running
  | stopped
  | forceStopped
  deriving Repr, DecidableEq, Inhabited

/-- An experiment; its times are in seconds of Unix time. -/
structure Experiment where
  id : String
  name : String
  featureId : String
  status : ExperimentStatus
  startAt : Int64
  stopAt : Int64
  deriving Repr, DecidableEq, Inhabited

/-- The usage of an environment over a month. -/
structure MauCount where
  eventCount : Int64 := 0
  userCount : Int64 := 0
  deriving Repr, DecidableEq, Inhabited

namespace Environment

/-- An environment is written as a record. -/
def codec : Codec Environment :=
  .record
    (.required "id" .text <| .required "name" .text <| .required "url_code" .text <|
      .required "project_id" .text <| .optional "archived" .bool false .nil)
    (fun (id, name, urlCode, projectId, archived, ()) => ⟨id, name, urlCode, projectId, archived⟩)
    (fun e => (e.id, e.name, e.urlCode, e.projectId, e.archived, ()))

end Environment

namespace Project

/-- A project is written as a record. -/
def codec : Codec Project :=
  .record (.required "id" .text <| .required "name" .text <| .optional "disabled" .bool false .nil)
    (fun (id, name, disabled, ()) => ⟨id, name, disabled⟩)
    (fun p => (p.id, p.name, p.disabled, ()))

end Project

namespace Feature

/-- The time of the last use is written as a record of its own. -/
def lastUsedCodec : Codec Int64 :=
  .record (.required "last_used_at" .int64 .nil) (fun (at_, ()) => at_) (fun at_ => (at_, ()))

/-- A feature flag is written as a record. -/
def codec : Codec Feature :=
  .record
    (.required "id" .text <| .required "name" .text <| .required "enabled" .bool <|
      .optional "archived" .bool false <| .optional "off_variation" .text "" <|
      .optional "tags" (.list .text) [] <|
      .optional "last_used_info" (.option lastUsedCodec) none .nil)
    (fun (id, name, enabled, archived, offVariation, tags, lastUsedAt, ()) =>
      ⟨id, name, enabled, archived, offVariation, tags, lastUsedAt⟩)
    (fun f => (f.id, f.name, f.enabled, f.archived, f.offVariation, f.tags, f.lastUsedAt, ()))

end Feature

namespace ExperimentStatus

/-- The name that a status is written with. -/
def name : ExperimentStatus → String
  | .waiting => "WAITING"
  | .running => "RUNNING"
  | .stopped => "STOPPED"
  | .forceStopped => "FORCE_STOPPED"

/-- A status is written as its name. -/
def codec : Codec ExperimentStatus :=
  .cases name [.waiting, .running, .stopped, .forceStopped] none

end ExperimentStatus

namespace Experiment

/-- An experiment is written as a record. -/
def codec : Codec Experiment :=
  .record
    (.required "id" .text <| .required "name" .text <| .required "feature_id" .text <|
      .required "status" ExperimentStatus.codec <| .required "start_at" .int64 <|
      .required "stop_at" .int64 .nil)
    (fun (id, name, featureId, status, startAt, stopAt, ()) =>
      ⟨id, name, featureId, status, startAt, stopAt⟩)
    (fun e => (e.id, e.name, e.featureId, e.status, e.startAt, e.stopAt, ()))

end Experiment

namespace MauCount

/-- A month's usage is written as a record. -/
def codec : Codec MauCount :=
  .record (.required "event_count" .int64 <| .required "user_count" .int64 .nil)
    (fun (eventCount, userCount, ()) => ⟨eventCount, userCount⟩)
    (fun c => (c.eventCount, c.userCount, ()))

end MauCount

end FlagAlerts
