import SvcNotifier.Library.Runs
import SvcNotifier.Library.Program
import SvcNotifier.Library.Chunks
import SvcNotifier.Library.Lifecycle
import SvcNotifier.Base
import SvcNotifier.Contract
import SvcNotifier.Notification
import SvcNotifier.Postgres
import SvcNotifier.Graphql
import SvcNotifier.Announcement
import SvcNotifier.Store
import SvcNotifier.Consistency
import SvcNotifier.Sessions
import SvcNotifier.Commits
import SvcNotifier.Changes
import SvcNotifier.Journal
import SvcNotifier.Intake.Handle
import SvcNotifier.Intake.Replicas
import SvcNotifier.Intake.Settlement
import SvcNotifier.Intake.Provenance
import SvcNotifier.Intake.Dedup
import SvcNotifier.Listing
import SvcNotifier.Inbox
import SvcNotifier.Isolation
import SvcNotifier.Library.Broadcast
import SvcNotifier.Realtime
import SvcNotifier.Streams
import SvcNotifier.Routing
import SvcNotifier.Library.Keyset
import SvcNotifier.Recount
import SvcNotifier.Reconnect
import SvcNotifier.Convergence
import SvcNotifier.Walk
import SvcNotifier.Library.Url
import SvcNotifier.Links
import SvcNotifier.Intake.Language
import SvcNotifier.Intake.Refusal
import SvcNotifier.Acks
import SvcNotifier.Intake.Counter
import SvcNotifier.ReadTimes
import SvcNotifier.Rings
import SvcNotifier.Skipping
import SvcNotifier.Pages
import SvcNotifier.Process
import SvcNotifier.Supervision
import SvcNotifier.FailLoud
import SvcNotifier.Boot
import SvcNotifier.BootGap
import SvcNotifier.LivePath
import SvcNotifier.Hydration
import SvcNotifier.Lag
import SvcNotifier.Evictions
import SvcNotifier.FanOut
import SvcNotifier.Intake.Ledger
import SvcNotifier.Library.Json
import SvcNotifier.Library.Calendar
import SvcNotifier.Wire
import SvcNotifier.Codec
import SvcNotifier.Payloads
import SvcNotifier.Library.Waits
import SvcNotifier.Writers
import SvcNotifier.Deadlock
import SvcNotifier.Bulk
import SvcNotifier.Intake.Durable
import SvcNotifier.Publisher
import SvcNotifier.Intake.Gauges
import SvcNotifier.Intake.Retention
import SvcNotifier.Once
import SvcNotifier.Service
import SvcNotifier.Pipeline
import SvcNotifier.Consumption
import SvcNotifier.Intake.Migrations
import SvcNotifier.Endpoint
import SvcNotifier.Grants
