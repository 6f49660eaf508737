import FlagAlerts.Bus.Message
import FlagAlerts.Bus.Queue
import FlagAlerts.Calendar.Date
import FlagAlerts.Calendar.Daylight
import FlagAlerts.Calendar.Moment
import FlagAlerts.Calendar.Month
import FlagAlerts.Calendar.Zone
import FlagAlerts.Calendar.ZoneNames
import FlagAlerts.Catalog
import FlagAlerts.CommandLine.Arguments
import FlagAlerts.CommandLine.Run
import FlagAlerts.Config.Basic
import FlagAlerts.Config.Load
import FlagAlerts.Config.Setting
import FlagAlerts.Config.SocketAddress
import FlagAlerts.Config.Toml
import FlagAlerts.Config.Tree
import FlagAlerts.Config.Validate
import FlagAlerts.Config.Variable
import FlagAlerts.Consumer.Drive
import FlagAlerts.Consumer.Handle
import FlagAlerts.Consumer.Step
import FlagAlerts.Delivery.Error
import FlagAlerts.Delivery.Notifier
import FlagAlerts.Delivery.Sender
import FlagAlerts.Effect
import FlagAlerts.Entity
import FlagAlerts.Floating
import FlagAlerts.Health
import FlagAlerts.Intake.Action
import FlagAlerts.Intake.Drive
import FlagAlerts.Intake.Limits
import FlagAlerts.Intake.State
import FlagAlerts.Intake.Work
import FlagAlerts.Json.Codec
import FlagAlerts.Json.Document
import FlagAlerts.Json.Value
import FlagAlerts.Main
import FlagAlerts.Message.Escape
import FlagAlerts.Message.Language
import FlagAlerts.Message.Layout
import FlagAlerts.Notification
import FlagAlerts.Numbers
import FlagAlerts.Proofs.Calendar.Date
import FlagAlerts.Proofs.Calendar.LocalTime
import FlagAlerts.Proofs.Calendar.Month
import FlagAlerts.Proofs.Calendar.Zone
import FlagAlerts.Proofs.Config.Validation
import FlagAlerts.Proofs.Consumer.Abandonment
import FlagAlerts.Proofs.Consumer.Balance
import FlagAlerts.Proofs.Consumer.Closing
import FlagAlerts.Proofs.Consumer.Course
import FlagAlerts.Proofs.Consumer.Decision
import FlagAlerts.Proofs.Consumer.Ending
import FlagAlerts.Proofs.Consumer.Handling
import FlagAlerts.Proofs.Consumer.Holding
import FlagAlerts.Proofs.Consumer.Interleaving
import FlagAlerts.Proofs.Consumer.Liveness
import FlagAlerts.Proofs.Consumer.Outcome
import FlagAlerts.Proofs.Consumer.Sends
import FlagAlerts.Proofs.Consumer.Settlement
import FlagAlerts.Proofs.Consumer.Standing
import FlagAlerts.Proofs.Consumer.Window
import FlagAlerts.Proofs.Delivery.Calls
import FlagAlerts.Proofs.Delivery.FanOut
import FlagAlerts.Proofs.Delivery.Tags
import FlagAlerts.Proofs.Delivery.Tally
import FlagAlerts.Proofs.Intake.Conservation
import FlagAlerts.Proofs.Intake.Content
import FlagAlerts.Proofs.Intake.Pacer
import FlagAlerts.Proofs.Intake.Pacing
import FlagAlerts.Proofs.Intake.Permits
import FlagAlerts.Proofs.Intake.Progress
import FlagAlerts.Proofs.Intake.Retries
import FlagAlerts.Proofs.Intake.Standing
import FlagAlerts.Proofs.Intake.Steps
import FlagAlerts.Proofs.Json.Lawful
import FlagAlerts.Proofs.Json.Reading
import FlagAlerts.Proofs.Json.RoundTrip
import FlagAlerts.Proofs.Message.Escape
import FlagAlerts.Proofs.Message.Links
import FlagAlerts.Proofs.Schedule.Fields
import FlagAlerts.Proofs.Schedule.FiveFields
import FlagAlerts.Proofs.Schedule.Next
import FlagAlerts.Proofs.Schedule.Reading
import FlagAlerts.Proofs.Schedule.Search
import FlagAlerts.Proofs.Schedule.Weekday
import FlagAlerts.Proofs.Schedule.WeekdayFields
import FlagAlerts.Proofs.Scheduler.Accounting
import FlagAlerts.Proofs.Scheduler.FireTimes
import FlagAlerts.Proofs.Scheduler.Lifecycle
import FlagAlerts.Proofs.Scheduler.Runs
import FlagAlerts.Proofs.Scheduler.Stopping
import FlagAlerts.Proofs.Service.Activities
import FlagAlerts.Proofs.Service.Building
import FlagAlerts.Proofs.Service.Numbers
import FlagAlerts.Proofs.Service.Producers
import FlagAlerts.Proofs.Store.Contents
import FlagAlerts.Proofs.Store.Listing
import FlagAlerts.Proofs.Store.Paging
import FlagAlerts.Proofs.Text.Decimal
import FlagAlerts.Proofs.Text.Split
import FlagAlerts.Proofs.Timed
import FlagAlerts.Proofs.Watch.Bounds
import FlagAlerts.Proofs.Watch.Environments
import FlagAlerts.Proofs.Watch.Months
import FlagAlerts.Proofs.Watch.Sends
import FlagAlerts.Proofs.Watch.Usage
import FlagAlerts.Proofs.Watch.Visits
import FlagAlerts.Schedule.Basic
import FlagAlerts.Schedule.Expression
import FlagAlerts.Schedule.Field
import FlagAlerts.Schedule.Next
import FlagAlerts.Schedule.Weekday
import FlagAlerts.Scheduler.Basic
import FlagAlerts.Scheduler.Drive
import FlagAlerts.Scheduler.Error
import FlagAlerts.Scheduler.Loop
import FlagAlerts.Service.Build
import FlagAlerts.Service.Drive
import FlagAlerts.Store.Page
import FlagAlerts.Store.Platform
import FlagAlerts.Store.World
import FlagAlerts.Subscription
import FlagAlerts.TaskGroup
import FlagAlerts.Text.Blank
import FlagAlerts.Text.CharMap
import FlagAlerts.Text.Composition
import FlagAlerts.Text.Decimal
import FlagAlerts.Text.Direction
import FlagAlerts.Text.Escape
import FlagAlerts.Text.Joining
import FlagAlerts.Text.Mark
import FlagAlerts.Text.Printable
import FlagAlerts.Text.Quoted
import FlagAlerts.Text.Split
import FlagAlerts.Text.Utf8
import FlagAlerts.Timed
import FlagAlerts.Watch.Error
import FlagAlerts.Watch.MonthlyUsage
import FlagAlerts.Watch.RunningExperiments
import FlagAlerts.Watch.Scan
import FlagAlerts.Watch.StaleFeatures
import FlagAlerts.Watch.Watcher
import FlagAlerts.Web.Address
import FlagAlerts.Web.Host
import FlagAlerts.Web.HostName
import FlagAlerts.Web.HostNumber
import FlagAlerts.Web.NameMap
import FlagAlerts.Web.Punycode
