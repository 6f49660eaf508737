import FlagAlerts.Notification
import FlagAlerts.Proofs.Json.Lawful
import FlagAlerts.Subscription

/-!
# Everything that is written is read back

The codec of every type of the data model is lawful: its fields have different names, its cases are
found by their names, and a case for all other names has none of the known ones. So every value is
read back from its compact text, and normalising a text, which may leave out fields, name unknown
cases or list the fields' values, is done at the first go.
-/

namespace FlagAlerts

open FlagAlerts.Text Codec

/-! ## Named cases -/

theorem SourceType.codec_lawful (depth : Nat) : SourceType.codec.Lawful depth := by
  apply cases_lawful
  intro a
  cases a with
  | domainEvent kind => cases kind <;> rfl
  | featureStale | experimentRunning | mauCount => rfl

theorem EntityType.codec_lawful (depth : Nat) : EntityType.codec.Lawful depth := by
  apply cases_lawful
  intro a
  cases a with
  | known kind => cases kind <;> rfl
  | unknown => rfl

theorem ExperimentStatus.codec_lawful (depth : Nat) : ExperimentStatus.codec.Lawful depth := by
  apply cases_lawful
  intro a
  cases a <;> rfl

theorem RecipientKind.codec_lawful (depth : Nat) : RecipientKind.codec.Lawful depth := by
  apply cases_lawful
  intro a
  cases a <;> rfl

/-! ## Records -/

theorem Environment.codec_lawful (depth : Nat) : Environment.codec.Lawful (depth + 1) :=
  record_lawful
    ⟨by decide, text_lawful _, text_lawful _, text_lawful _, text_lawful _, bool_lawful _, trivial⟩
    fun _ => rfl

theorem Project.codec_lawful (depth : Nat) : Project.codec.Lawful (depth + 1) :=
  record_lawful ⟨by decide, text_lawful _, text_lawful _, bool_lawful _, trivial⟩ fun _ => rfl

theorem Feature.lastUsedCodec_lawful (depth : Nat) : Feature.lastUsedCodec.Lawful (depth + 1) :=
  record_lawful ⟨by decide, int64_lawful _, trivial⟩ fun _ => rfl

theorem Feature.codec_lawful (depth : Nat) : Feature.codec.Lawful (depth + 2) :=
  record_lawful
    ⟨by decide, text_lawful _, text_lawful _, bool_lawful _, bool_lawful _, text_lawful _,
      (text_lawful depth).list,
      (Feature.lastUsedCodec_lawful depth).option (fun _ => by simp [lastUsedCodec, record]), trivial⟩
    fun _ => rfl

theorem Experiment.codec_lawful (depth : Nat) : Experiment.codec.Lawful (depth + 1) :=
  record_lawful
    ⟨by decide, text_lawful _, text_lawful _, text_lawful _, ExperimentStatus.codec_lawful _,
      int64_lawful _, int64_lawful _, trivial⟩
    fun _ => rfl

theorem MauCount.codec_lawful (depth : Nat) : MauCount.codec.Lawful (depth + 1) :=
  record_lawful ⟨by decide, int64_lawful _, int64_lawful _, trivial⟩ fun _ => rfl

theorem Recipient.webhookCodec_lawful (depth : Nat) : Recipient.webhookCodec.Lawful (depth + 1) :=
  record_lawful ⟨by decide, text_lawful _, trivial⟩ fun _ => rfl

theorem Recipient.codec_lawful (depth : Nat) : Recipient.codec.Lawful (depth + 2) :=
  record_lawful
    ⟨by decide, RecipientKind.codec_lawful _, text_lawful _,
      (Recipient.webhookCodec_lawful depth).option (fun _ => by simp [webhookCodec, record]), trivial⟩
    fun _ => rfl

theorem Subscription.codec_lawful (depth : Nat) : Subscription.codec.Lawful (depth + 3) :=
  record_lawful
    ⟨by decide, text_lawful _, text_lawful _, (SourceType.codec_lawful (depth + 1)).list,
      Recipient.codec_lawful depth, (text_lawful (depth + 1)).list, bool_lawful _, trivial⟩
    fun _ => rfl

theorem Editor.codec_lawful (depth : Nat) : Editor.codec.Lawful (depth + 1) :=
  record_lawful ⟨by decide, text_lawful _, text_lawful _, bool_lawful _, trivial⟩ fun _ => rfl

theorem DomainEvent.codec_lawful (depth : Nat) : DomainEvent.codec.Lawful (depth + 2) :=
  record_lawful
    ⟨by decide, text_lawful _, int64_lawful _, EntityType.codec_lawful _, text_lawful _,
      text_lawful _, Editor.codec_lawful depth, text_lawful _, bool_lawful _, text_lawful _,
      text_lawful _, trivial⟩
    fun _ => rfl

/-! ## Notifications -/

namespace Notification

/-- A notification is written with the fields of its kind. -/
theorem entries_described (n : Notification) (depth : Nat) :
    Described "kind" (depth + 3) n.entries (reader? n.kind) n := by
  obtain ⟨id, urlCode, body⟩ := n
  cases body with
  | domainEvent editor entityType entityId eventType entityData =>
    have described : Described "kind" (depth + 3) _ _ (_ : Notification) :=
      .fields domainEventFields
        (id, urlCode, editor, entityType, entityId, eventType, entityData, ())
        (fun v => ⟨v.1, v.2.1,
          .domainEvent v.2.2.1 v.2.2.2.1 v.2.2.2.2.1 v.2.2.2.2.2.1 v.2.2.2.2.2.2.1⟩)
        ⟨by decide, text_lawful _, text_lawful _, Editor.codec_lawful _, EntityType.codec_lawful _,
          text_lawful _, text_lawful _, text_lawful _, trivial⟩
        (by decide)
    exact described
  | featureStale features =>
    have described : Described "kind" (depth + 3) _ _ (_ : Notification) :=
      .fields (listingFields "features" Feature.codec) (id, urlCode, features, ())
        (fun v => ⟨v.1, v.2.1, .featureStale v.2.2.1⟩)
        ⟨by decide, text_lawful _, text_lawful _, (Feature.codec_lawful depth).list, trivial⟩
        (by decide)
    exact described
  | experimentRunning experiments =>
    have described : Described "kind" (depth + 3) _ _ (_ : Notification) :=
      .fields (listingFields "experiments" Experiment.codec) (id, urlCode, experiments, ())
        (fun v => ⟨v.1, v.2.1, .experimentRunning v.2.2.1⟩)
        ⟨by decide, text_lawful _, text_lawful _, (Experiment.codec_lawful (depth + 1)).list,
          trivial⟩
        (by decide)
    exact described
  | mauCount count year month =>
    have described : Described "kind" (depth + 3) _ _ (_ : Notification) :=
      .fields mauCountFields
        (id, urlCode, count.eventCount, count.userCount, year, month, ())
        (fun v => ⟨v.1, v.2.1, .mauCount ⟨v.2.2.1, v.2.2.2.1⟩ v.2.2.2.2.1 v.2.2.2.2.2.1⟩)
        ⟨by decide, text_lawful _, text_lawful _, int64_lawful _, int64_lawful _, int32_lawful _,
          uint32_lawful _, trivial⟩
        (by decide)
    exact described

theorem codec_lawful (depth : Nat) : Notification.codec.Lawful (depth + 4) :=
  tagged_lawful fun n => n.entries_described depth

end Notification

theorem NotificationEvent.codec_lawful (depth : Nat) : NotificationEvent.codec.Lawful (depth + 5) :=
  record_lawful
    ⟨by decide, text_lawful _, text_lawful _, SourceType.codec_lawful _,
      Notification.codec_lawful depth, bool_lawful _, trivial⟩
    fun _ => rfl

/-! ## Round trips -/

namespace Codec

variable {α : Type}

/-- The compact text of the value that a text stands for. -/
def normalise (c : Codec α) (cs : List Symbol) : Except Fault String := (c.read cs).map c.write

/-- Reading undoes writing, and normalising a text that was normalised changes nothing. -/
structure RoundTrips (c : Codec α) : Prop where
  read_write : ∀ a, c.read (symbols (c.write a)) = .ok a
  read_again : ∀ cs a, c.read cs = .ok a → c.read (symbols (c.write a)) = .ok a
  normalise_again : ∀ cs s, c.normalise cs = .ok s → c.normalise (symbols s) = .ok s

theorem Lawful.roundTrips {c : Codec α} {depth : Nat} (lawful : c.Lawful depth)
    (shallow : depth ≤ 127) : c.RoundTrips where
  read_write := lawful.read_write shallow
  read_again _ a _ := lawful.read_write shallow a
  normalise_again cs s h := by
    rw [normalise] at h
    cases read : c.read cs with
    | error fault =>
      rw [read] at h
      cases h
    | ok a =>
      rw [read] at h
      cases h
      rw [normalise, lawful.read_write shallow]
      rfl

end Codec

/-- Every value of the data model, whatever its texts, numbers and lists, is read back from its
compact text, and normalising is idempotent. -/
theorem data_model_round_trips :
    SourceType.codec.RoundTrips ∧ EntityType.codec.RoundTrips ∧ Editor.codec.RoundTrips ∧
      DomainEvent.codec.RoundTrips ∧ Environment.codec.RoundTrips ∧ Project.codec.RoundTrips ∧
      Feature.codec.RoundTrips ∧ Experiment.codec.RoundTrips ∧ MauCount.codec.RoundTrips ∧
      Recipient.codec.RoundTrips ∧ Subscription.codec.RoundTrips ∧ Notification.codec.RoundTrips ∧
      NotificationEvent.codec.RoundTrips :=
  ⟨(SourceType.codec_lawful 0).roundTrips (by decide),
    (EntityType.codec_lawful 0).roundTrips (by decide),
    (Editor.codec_lawful 0).roundTrips (by decide),
    (DomainEvent.codec_lawful 0).roundTrips (by decide),
    (Environment.codec_lawful 0).roundTrips (by decide),
    (Project.codec_lawful 0).roundTrips (by decide),
    (Feature.codec_lawful 0).roundTrips (by decide),
    (Experiment.codec_lawful 0).roundTrips (by decide),
    (MauCount.codec_lawful 0).roundTrips (by decide),
    (Recipient.codec_lawful 0).roundTrips (by decide),
    (Subscription.codec_lawful 0).roundTrips (by decide),
    (Notification.codec_lawful 0).roundTrips (by decide),
    (NotificationEvent.codec_lawful 0).roundTrips (by decide)⟩

/-- A recipient of an unknown kind, given as a list that leaves out what it may, is normalised to a
record with all fields. -/
example :
    Recipient.codec.normalise (symbols "[\"EMAIL\", \"en\"]") =
      .ok "\x7b\"kind\":\"UNKNOWN\",\"language\":\"en\",\"slack_channel_recipient\":null\x7d" := by
  decide +kernel

end FlagAlerts
