import FlagAlerts.Json.Codec

/-!
# Entities, and what subscriptions can listen to

Everything that can change on the platform is an entity of some kind. A subscription listens to the
changes of one kind of entity, or to one of the regular scans.
-/

namespace FlagAlerts

/-- A kind of entity on the platform. -/
inductive EntityKind where
  | feature
  | goal
  | experiment
  | account
  | apikey
  | segment
  | environment
  | adminAccount
  | autoopsRule
  | push
  | subscription
  | adminSubscription
  | project
  | webhook
  | progressiveRollout
  | organization
  | flagTrigger
  | tag
  | codeRef
  | team
  deriving Repr, DecidableEq, Inhabited

namespace EntityKind

/-- The name that a kind is written with. -/
def name : EntityKind → String
  | .feature => "FEATURE"
  | .goal => "GOAL"
  | .experiment => "EXPERIMENT"
  | .account => "ACCOUNT"
  | .apikey => "APIKEY"
  | .segment => "SEGMENT"
  | .environment => "ENVIRONMENT"
  | .adminAccount => "ADMIN_ACCOUNT"
  | .autoopsRule => "AUTOOPS_RULE"
  | .push => "PUSH"
  | .subscription => "SUBSCRIPTION"
  | .adminSubscription => "ADMIN_SUBSCRIPTION"
  | .project => "PROJECT"
  | .webhook => "WEBHOOK"
  | .progressiveRollout => "PROGRESSIVE_ROLLOUT"
  | .organization => "ORGANIZATION"
  | .flagTrigger => "FLAG_TRIGGER"
  | .tag => "TAG"
  | .codeRef => "CODE_REF"
  | .team => "TEAM"

/-- Every kind. -/
def all : List EntityKind :=
  [.feature, .goal, .experiment, .account, .apikey, .segment, .environment, .adminAccount,
    .autoopsRule, .push, .subscription, .adminSubscription, .project, .webhook,
    .progressiveRollout, .organization, .flagTrigger, .tag, .codeRef, .team]

end EntityKind

/-- The kind of the entity that a change refers to, which may be one that is not known here. -/
inductive EntityType where
  | known (kind : EntityKind)
  | unknown
  deriving Repr, DecidableEq, Inhabited

/-- What a subscription can listen to. -/
inductive SourceType where
  | domainEvent (kind : EntityKind)
  | featureStale
  | experimentRunning
  | mauCount
  deriving Repr, DecidableEq, Inhabited

namespace SourceType

/-- The name that a source type is written with. -/
def name : SourceType → String
  | .domainEvent kind => "DOMAIN_EVENT_" ++ kind.name
  | .featureStale => "FEATURE_STALE"
  | .experimentRunning => "EXPERIMENT_RUNNING"
  | .mauCount => "MAU_COUNT"

/-- Every source type. -/
def all : List SourceType :=
  EntityKind.all.map .domainEvent ++ [.featureStale, .experimentRunning, .mauCount]

/-- A source type is written as its name. -/
def codec : Codec SourceType := .cases name all none

end SourceType

namespace EntityType

/-- The name that an entity type is written with. -/
def name : EntityType → String
  | .known kind => kind.name
  | .unknown => "UNKNOWN"

/-- The source type of the subscriptions that listen to changes of such an entity; nothing can
listen to an unknown one. -/
def sourceType? : EntityType → Option SourceType
  | .known kind => some (.domainEvent kind)
  | .unknown => none

/-- An entity type is written as its name; any other name stands for an unknown one. -/
def codec : Codec EntityType := .cases name (EntityKind.all.map .known) (some .unknown)

end EntityType

end FlagAlerts
