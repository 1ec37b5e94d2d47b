import DeviceWatch.Alert.Action
import DeviceWatch.Alert.Basic
import DeviceWatch.Alert.Correlation
import DeviceWatch.Alert.Fingerprint
import DeviceWatch.Alert.Query
import DeviceWatch.Alert.Store
import DeviceWatch.CommandLine
import DeviceWatch.Config.Basic
import DeviceWatch.Config.EnvFile
import DeviceWatch.Config.Environment
import DeviceWatch.Connector.Basic
import DeviceWatch.Connector.Registry
import DeviceWatch.Connector.Seed
import DeviceWatch.Connector.Settings
import DeviceWatch.Cron.Basic
import DeviceWatch.Cron.Expression
import DeviceWatch.Decimal.Shortest
import DeviceWatch.Dispatcher
import DeviceWatch.Driver.Basic
import DeviceWatch.Error
import DeviceWatch.Http.ActionBody
import DeviceWatch.Http.Api
import DeviceWatch.Http.MediaType
import DeviceWatch.Http.Message
import DeviceWatch.Http.Query
import DeviceWatch.Http.Router
import DeviceWatch.Http.Uri
import DeviceWatch.Job.Basic
import DeviceWatch.Job.Progress
import DeviceWatch.Job.Tracker
import DeviceWatch.Json.Basic
import DeviceWatch.Json.Record
import DeviceWatch.Json.Skip
import DeviceWatch.Json.Text
import DeviceWatch.Main
import DeviceWatch.Maintenance
import DeviceWatch.Metrics
import DeviceWatch.OrderedMap
import DeviceWatch.Pool.Basic
import DeviceWatch.RateLimit
import DeviceWatch.Schedule
import DeviceWatch.Service
import DeviceWatch.Sha256
import DeviceWatch.SortedTable
import DeviceWatch.Text.Alphanumeric
import DeviceWatch.Text.Blank
import DeviceWatch.Text.Case
import DeviceWatch.Text.CaseTable
import DeviceWatch.Text.Digits
import DeviceWatch.Text.Utf8
import DeviceWatch.Time
import DeviceWatch.Timeline
import DeviceWatch.Uuid
import DeviceWatch.Yaml.Basic
import DeviceWatch.Yaml.Place
import DeviceWatch.Yaml.Reader
import DeviceWatch.Yaml.Scalar
import DeviceWatch.Yaml.Token
import DeviceWatch.Proofs.Alert.Writes
import DeviceWatch.Proofs.Alert.Traffic
import DeviceWatch.Proofs.Alert.Transitions
import DeviceWatch.Proofs.Alert.OneOpen
import DeviceWatch.Proofs.Alert.Conservation
import DeviceWatch.Proofs.RateLimit
import DeviceWatch.Proofs.Job.Changes
import DeviceWatch.Proofs.Job.OpenPolls
import DeviceWatch.Proofs.Connector.InFlight
import DeviceWatch.Proofs.Pool.Traffic
import DeviceWatch.Proofs.Pool.Ownership
import DeviceWatch.Proofs.Pool.Undisturbed
import DeviceWatch.Proofs.Job.Lifecycle
import DeviceWatch.Proofs.Job.Streams
import DeviceWatch.Proofs.Connector.Consistency
import DeviceWatch.Proofs.Pool.Frames
import DeviceWatch.Proofs.Pool.Handover
import DeviceWatch.Proofs.Pool.Supervision
import DeviceWatch.Proofs.Pool.Supervised
import DeviceWatch.Proofs.Pool.Metered
import DeviceWatch.Proofs.Pool.Books
import DeviceWatch.Proofs.Pool.Accounts
import DeviceWatch.Proofs.Pool.Ledger
import DeviceWatch.Proofs.Job.ActiveRuns
import DeviceWatch.Proofs.Pool.ScheduledRuns
import DeviceWatch.Proofs.Job.Endings
import DeviceWatch.Proofs.Connector.Health
import DeviceWatch.Proofs.Pool.UnderWay
import DeviceWatch.Proofs.Pool.Health
import DeviceWatch.Proofs.Alert.Revisions
import DeviceWatch.Proofs.Alert.Consistency
import DeviceWatch.Proofs.Alert.Versions
import DeviceWatch.Proofs.Alert.Requests
import DeviceWatch.Proofs.Alert.Incidents
import DeviceWatch.Proofs.Alert.Isolation
import DeviceWatch.Proofs.Text.Words
import DeviceWatch.Proofs.Text.Lower
import DeviceWatch.Proofs.Alert.Identity
import DeviceWatch.Proofs.Json.Records
import DeviceWatch.Proofs.Connector.SettingsRoundTrip
import DeviceWatch.Proofs.Http.Refusals
import DeviceWatch.Proofs.Cron.Occurrences
import DeviceWatch.Proofs.Schedule.Due
import DeviceWatch.Proofs.Schedule.Ticks
import DeviceWatch.Proofs.Schedule.Triggers
import DeviceWatch.Proofs.Connector.Interval
import DeviceWatch.Proofs.Pool.LastPoll
import DeviceWatch.Proofs.Pool.TickTraffic
import DeviceWatch.Proofs.Pool.Tours
import DeviceWatch.Proofs.Pool.PollSpacing
import DeviceWatch.Proofs.Alert.Spelling
import DeviceWatch.Proofs.Alert.Readings
import DeviceWatch.Proofs.Alert.Pages
import DeviceWatch.Proofs.Alert.Acknowledgement
import DeviceWatch.Proofs.Dispatcher.Admission
import DeviceWatch.Proofs.Dispatcher.Polls
import DeviceWatch.Proofs.Dispatcher.WholeTick
import DeviceWatch.Proofs.Alert.Aggregates
import DeviceWatch.Proofs.Alert.Interference
import DeviceWatch.Proofs.Alert.Calls
import DeviceWatch.Proofs.Alert.Contention
import DeviceWatch.Proofs.Alert.Sweeps
import DeviceWatch.Proofs.Job.Retention
import DeviceWatch.Proofs.Job.Pruning
import DeviceWatch.Proofs.Job.Steps
import DeviceWatch.Proofs.Job.Reports
import DeviceWatch.Proofs.Job.StepEnds
import DeviceWatch.Proofs.Connector.PollHistory
import DeviceWatch.Proofs.Connector.UndoneClaims
import DeviceWatch.Proofs.Connector.Seeding
