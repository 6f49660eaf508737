import FlagAlerts.Entity

/-!
# The languages of messages

Messages come in two languages. A recipient's language code is a primary code, in any case, maybe
followed by a region after a hyphen or an underscore.
-/

namespace FlagAlerts.Message

/-- A language that messages come in. -/
inductive Language where
  | english
  | japanese
  deriving Repr, DecidableEq, Inhabited

/-- A fixed text of messages. -/
inductive Phrase where
  | domainEventHeader
  | featureStaleHeader
  | experimentRunningHeader
  | mauCountHeader
  | editor
  | event
  | environment
  | month
  | eventCount
  | userCount
  | ends
  deriving Repr, DecidableEq, Inhabited

/-- Every fixed text. -/
def Phrase.all : List Phrase :=
  [.domainEventHeader, .featureStaleHeader, .experimentRunningHeader, .mauCountHeader, .editor,
    .event, .environment, .month, .eventCount, .userCount, .ends]

namespace Language

/-- The primary part of a language code, in lower case. -/
def primary (code : String) : String :=
  (String.ofList (code.toList.takeWhile fun c => c != '-' && c != '_')).toLower

/-- The language of a language code. -/
def ofCode? (code : String) : Option Language :=
  let name := primary code
  if name == "en" then some .english
  else if name == "ja" then some .japanese
  else none

/-- A fixed text. -/
def phrase : Language → Phrase → String
  | .english, .domainEventHeader => "A change was made"
  | .japanese, .domainEventHeader => "変更がありました"
  | .english, .featureStaleHeader =>
    "The following feature flags have not been used for a while."
  | .japanese, .featureStaleHeader => "以下のフィーチャーフラグはしばらく使用されていません。"
  | .english, .experimentRunningHeader => "The following experiments are still running."
  | .japanese, .experimentRunningHeader => "以下のエクスペリメントは実行中です。"
  | .english, .mauCountHeader => "Monthly active users"
  | .japanese, .mauCountHeader => "月間アクティブユーザー"
  | .english, .editor => "Editor"
  | .japanese, .editor => "編集者"
  | .english, .event => "Event"
  | .japanese, .event => "イベント"
  | .english, .environment => "Environment"
  | .japanese, .environment => "環境"
  | .english, .month => "Month"
  | .japanese, .month => "対象月"
  | .english, .eventCount => "Event count"
  | .japanese, .eventCount => "イベント数"
  | .english, .userCount => "User count"
  | .japanese, .userCount => "ユーザー数"
  | .english, .ends => "ends"
  | .japanese, .ends => "終了予定"

/-- The name of a kind of entity in English. -/
def englishKind : EntityKind → String
  | .feature => "Feature flag"
  | .goal => "Goal"
  | .experiment => "Experiment"
  | .account => "Account"
  | .apikey => "API key"
  | .segment => "Segment"
  | .environment => "Environment"
  | .adminAccount => "Admin account"
  | .autoopsRule => "Auto operation"
  | .push => "Push"
  | .subscription => "Notification"
  | .adminSubscription => "Admin notification"
  | .project => "Project"
  | .webhook => "Webhook"
  | .progressiveRollout => "Progressive rollout"
  | .organization => "Organization"
  | .flagTrigger => "Flag trigger"
  | .tag => "Tag"
  | .codeRef => "Code reference"
  | .team => "Team"

/-- The name of a kind of entity in Japanese. -/
def japaneseKind : EntityKind → String
  | .feature => "フィーチャーフラグ"
  | .goal => "ゴール"
  | .experiment => "エクスペリメント"
  | .account => "アカウント"
  | .apikey => "APIキー"
  | .segment => "セグメント"
  | .environment => "環境"
  | .adminAccount => "管理者アカウント"
  | .autoopsRule => "自動オペレーション"
  | .push => "プッシュ"
  | .subscription => "通知"
  | .adminSubscription => "管理者通知"
  | .project => "プロジェクト"
  | .webhook => "Webhook"
  | .progressiveRollout => "プログレッシブロールアウト"
  | .organization => "組織"
  | .flagTrigger => "フラグトリガー"
  | .tag => "タグ"
  | .codeRef => "コード参照"
  | .team => "チーム"

/-- The name of an entity type that a reader understands. -/
def entityType : Language → EntityType → String
  | .english, .known kind => englishKind kind
  | .japanese, .known kind => japaneseKind kind
  | .english, .unknown => "Unknown"
  | .japanese, .unknown => "不明"

end Language

end FlagAlerts.Message
