import FlagAlerts.Calendar.Date
import FlagAlerts.Message.Escape
import FlagAlerts.Message.Language
import FlagAlerts.Notification

/-!
# The layout of messages

Every kind of notification has a layout of its own: a header and one attachment, with links to the
pages of the web console that the notification is about.
-/

namespace FlagAlerts.Message

open FlagAlerts.Text FlagAlerts.Calendar

/-- A titled value of an attachment. -/
structure Field where
  title : String
  value : String
  short : Bool := true
  deriving Repr, DecidableEq, Inhabited

/-- The body of a message; an empty text or link is left out. -/
structure Attachment where
  color : String
  title : String
  titleLink : String := ""
  text : String := ""
  fields : List Field := []
  deriving Repr, DecidableEq, Inhabited

/-- A message as it is posted to an incoming webhook. -/
structure ChannelMessage where
  text : String
  attachments : List Attachment := []
  deriving Repr, DecidableEq, Inhabited

namespace Field

/-- A field is written as a record. -/
def toJson (f : Field) : Json :=
  .record [("title", .text f.title), ("value", .text f.value), ("short", .bool f.short)]

end Field

/-- A field of a record, unless its value is empty. -/
def unlessEmpty (name : String) (isEmpty : Bool) (value : Json) : List (String × Json) :=
  if isEmpty then [] else [(name, value)]

namespace Attachment

/-- An attachment is written as a record without its empty parts. -/
def toJson (a : Attachment) : Json :=
  .record ([("color", .text a.color), ("title", .text a.title)] ++
    unlessEmpty "title_link" a.titleLink.isEmpty (.text a.titleLink) ++
    unlessEmpty "text" a.text.isEmpty (.text a.text) ++
    unlessEmpty "fields" a.fields.isEmpty (.list (a.fields.map Field.toJson)))

end Attachment

namespace ChannelMessage

/-- A message is written as a record without its empty parts. -/
def toJson (m : ChannelMessage) : Json :=
  .record (("text", .text m.text) ::
    unlessEmpty "attachments" m.attachments.isEmpty (.list (m.attachments.map Attachment.toJson)))

/-- The text that is posted. -/
def compact (m : ChannelMessage) : String := m.toJson.compact

end ChannelMessage

/-! ## Links -/

/-- The web console, by its address without slashes at the end. -/
structure Console where
  address : String
  deriving Repr, DecidableEq, Inhabited

namespace Console

/-- The console at an address. -/
def ofUrl (url : String) : Console :=
  ⟨String.ofList (url.toList.reverse.dropWhile (· == '/')).reverse⟩

/-- The page of an environment, or of the console if there is no code for it. -/
def environmentUrl (c : Console) (urlCode : String) : String :=
  if urlCode.isEmpty then c.address else c.address ++ "/" ++ urlCode

/-- The page of an entity, or else of its list or its environment. -/
def entityUrl (c : Console) (entityType : EntityType) (id urlCode : String) : String :=
  let admin (page : String) := c.address ++ "/admin/" ++ page
  let within (page : String) := c.environmentUrl urlCode ++ "/" ++ page
  match entityType with
  | .known .feature => within ("features/" ++ id)
  | .known .experiment => within ("experiments/" ++ id)
  | .known .goal => within ("goals/" ++ id)
  | .known .segment => within ("segments/" ++ id)
  | .known .push => within "push"
  | .known .apikey => within "apikeys"
  | .known .account => within "accounts"
  | .known .subscription => within "notifications"
  | .known .adminAccount => admin "accounts"
  | .known .adminSubscription => admin "notifications"
  | .known .environment => admin "environments"
  | .known .project => admin "projects"
  | .known .organization => admin "organizations"
  | _ => c.environmentUrl urlCode

end Console

/-- A link with a label. -/
def link (target label : String) : String := "<" ++ target ++ "|" ++ escape label ++ ">"

/-- A line of a list. -/
def bullet (text : String) : String := "• " ++ text

/-! ## Layouts -/

/-- The last second whose day has a text. -/
def lastDatedSecond : Int := 8210266876799

/-- The day of an instant after the start of Unix time. -/
def dayText? (instant : Int) : Option String :=
  if 0 < instant && instant ≤ lastDatedSecond then
    some (LocalTime.ofSeconds instant).date.text
  else none

/-- Who made a change. -/
def editorText (e : Editor) : String :=
  if e.name.isEmpty then e.email else e.name ++ " (" ++ e.email ++ ")"

/-- The attachment of a notification about a whole environment. -/
def environmentAttachment (c : Console) (l : Language) (color urlCode text : String)
    (fields : List Field) : Attachment where
  color := color
  title := l.phrase .environment ++ ": " ++ escape urlCode
  titleLink := c.environmentUrl urlCode
  text := text
  fields := fields

/-- The attachment of a notification about a change. -/
def domainEventAttachment (c : Console) (l : Language) (urlCode : String) (editor : Editor)
    (entityType : EntityType) (entityId eventType : String) : Attachment where
  color := "#36a64f"
  title := l.entityType entityType ++ ": " ++ escape entityId
  titleLink := c.entityUrl entityType entityId urlCode
  fields :=
    [⟨l.phrase .editor, escape (editorText editor), true⟩,
      ⟨l.phrase .event, escape eventType, true⟩] ++
    if urlCode.isEmpty then [] else [⟨l.phrase .environment, escape urlCode, true⟩]

/-- The line of a feature flag that has not been used for long. -/
def featureLine (c : Console) (urlCode : String) (f : Feature) : String :=
  bullet (link (c.entityUrl (.known .feature) f.id urlCode) f.name)

/-- The line of a running experiment, with the day on which it ends. -/
def experimentLine (c : Console) (l : Language) (urlCode : String) (e : Experiment) : String :=
  bullet (link (c.entityUrl (.known .experiment) e.id urlCode) e.name) ++
    match dayText? e.stopAt.toInt with
    | some day => " (" ++ l.phrase .ends ++ " " ++ day ++ ")"
    | none => ""

/-- The fields of a month's usage. -/
def mauCountFields (l : Language) (count : MauCount) (year : Int32) (month : UInt32) : List Field :=
  [⟨l.phrase .month, decimalInt year.toInt ++ "-" ++ padded 2 month.toNat, true⟩,
    ⟨l.phrase .eventCount, decimalInt count.eventCount.toInt, true⟩,
    ⟨l.phrase .userCount, decimalInt count.userCount.toInt, true⟩]

/-- The header of a notification. -/
def headerOf : NotificationBody → Phrase
  | .domainEvent .. => .domainEventHeader
  | .featureStale _ => .featureStaleHeader
  | .experimentRunning _ => .experimentRunningHeader
  | .mauCount .. => .mauCountHeader

/-- The attachment of a notification. -/
def attachmentOf (c : Console) (l : Language) (n : Notification) : Attachment :=
  let urlCode := n.environmentUrlCode
  match n.body with
  | .domainEvent editor entityType entityId eventType _ =>
    domainEventAttachment c l urlCode editor entityType entityId eventType
  | .featureStale features =>
    environmentAttachment c l "warning" urlCode
      ("\n".intercalate (features.map (featureLine c urlCode))) []
  | .experimentRunning experiments =>
    environmentAttachment c l "#439fe0" urlCode
      ("\n".intercalate (experiments.map (experimentLine c l urlCode))) []
  | .mauCount count year month =>
    environmentAttachment c l "good" urlCode "" (mauCountFields l count year month)

/-- The message of a notification. -/
def render (c : Console) (l : Language) (n : Notification) : ChannelMessage where
  text := l.phrase (headerOf n.body)
  attachments := [attachmentOf c l n]

end FlagAlerts.Message
