import Warpdrive.Utils.AsyncTransaction
import Warpdrive.Types.Signing
import Warpdrive.Types.EventId
import Warpdrive.Types.Submission
import Warpdrive.Aggregator.Chain
import Warpdrive.Aggregator.Validate
import Warpdrive.Aggregator.Queue
import Warpdrive.Aggregator.Submit
import Warpdrive.Aggregator.Receive
import Warpdrive.Aggregator.Pinning
import Warpdrive.Aggregator.Actions
import Warpdrive.Aggregator.Serial
import Warpdrive.Aggregator.System
import Warpdrive.Aggregator.Window
import Warpdrive.Aggregator.Provenance
import Warpdrive.Foundation.LockOrder
import Warpdrive.Types.ChainConfig
import Warpdrive.Trigger.Locks
import Warpdrive.Trigger.Consistency
import Warpdrive.Trigger.StellarIndex
import Warpdrive.Trigger.NodeSubscriptions
import Warpdrive.Trigger.Survival
import Warpdrive.Trigger.Routing
import Warpdrive.Trigger.Startup
import Warpdrive.Trigger.Commands
import Warpdrive.Trigger.Registration
import Warpdrive.Trigger.Tracking
import Warpdrive.Trigger.LogCoverage
import Warpdrive.Trigger.UriHandles
import Warpdrive.Trigger.UriFilters
import Warpdrive.Foundation.Register
import Warpdrive.Trigger.Traffic
import Warpdrive.Foundation.Handover
import Warpdrive.Trigger.Answers
import Warpdrive.Trigger.Feed
import Warpdrive.Trigger.Isolation
import Warpdrive.Trigger.FilterChange
import Warpdrive.Foundation.Attempt
import Warpdrive.Dispatch.Services
import Warpdrive.Dispatch.Calls
import Warpdrive.Dispatch.Atomicity
import Warpdrive.Dispatch.Restore
import Warpdrive.Dispatch.Staleness
import Warpdrive.Dispatch.Effects
import Warpdrive.Dispatch.Binding
import Warpdrive.Dispatch.Updates
import Warpdrive.Dispatch.Serialisable
import Warpdrive.Dispatch.Pipeline
import Warpdrive.Aggregator.GoodQueue
import Warpdrive.Dispatch.RegistryFile
import Warpdrive.Aggregator.P2p.Limits
import Warpdrive.Aggregator.P2p.Unsubscribed
import Warpdrive.Aggregator.P2p.Catchup
import Warpdrive.Engine.Writes
import Warpdrive.Engine.KeyValueIsolation
import Warpdrive.Engine.Atomics
import Warpdrive.Aggregator.P2p.EventLoop
import Warpdrive.Aggregator.P2p.Storage
import Warpdrive.Engine.KeyValue
import Warpdrive.Types.Digest
import Warpdrive.Engine.FileStorage
import Warpdrive.Engine.ContentAddressed
import Warpdrive.Aggregator.OneQueue
import Warpdrive.Trigger.Ticks
import Warpdrive.Foundation.Periodic
import Warpdrive.Trigger.BlockTriggers
import Warpdrive.Foundation.Backlog
import Warpdrive.Trigger.CronTriggers
import Warpdrive.Trigger.Indexed
import Warpdrive.Trigger.EventDispatch
import Warpdrive.Trigger.LookupErrors
import Warpdrive.Foundation.Cursor
import Warpdrive.Trigger.StellarPoll
import Warpdrive.Types.ManagerId
import Warpdrive.Types.Recovery
import Warpdrive.Foundation.ParallelLists
import Warpdrive.Aggregator.SignerOrder
import Warpdrive.Foundation.Retry
import Warpdrive.Trigger.Connection
import Warpdrive.Trigger.Reconnect
import Warpdrive.Foundation.Wildcard
import Warpdrive.Trigger.FilterMonotone
import Warpdrive.Trigger.StellarPages
import Warpdrive.Dispatch.RegistryWrites
import Warpdrive.Dispatch.KeyIndices
import Warpdrive.Engine.Counters
import Warpdrive.Engine.KeyPages
import Warpdrive.Foundation.Paging
import Warpdrive.Foundation.Separator
import Warpdrive.Foundation.Outcome
import Warpdrive.Engine.Buckets
import Warpdrive.Engine.ComponentActions
import Warpdrive.Types.WorkflowGrammar
import Warpdrive.Types.ServiceFormat
import Warpdrive.Types.ServiceBuilder
import Warpdrive.Cli.ServiceJson
import Warpdrive.Cli.ServiceCommands
import Warpdrive.Cli.ServiceSoundness
import Warpdrive.Cli.ServiceRuns
import Warpdrive.Cli.ServiceParts
import Warpdrive.Trigger.SubscriptionIndex
import Warpdrive.Foundation.Grouping
import Warpdrive.Trigger.FilterViews
import Warpdrive.Trigger.SchedulerRuns
import Warpdrive.Trigger.Jetstream
import Warpdrive.Engine.Limits
import Warpdrive.Foundation.RoundTrip
import Warpdrive.Engine.ServiceBoundary
import Warpdrive.Engine.ServiceRoundTrip
import Warpdrive.Foundation.AtomicFiles
import Warpdrive.Foundation.Completion
import Warpdrive.Utils.TransactionWaits
import Warpdrive.Aggregator.Nesting
import Warpdrive.Aggregator.Completion
import Warpdrive.Dispatch.Accounting
import Warpdrive.Foundation.NumberedLog
import Warpdrive.Http.KeyValueView
import Warpdrive.Http.LogBuffer
import Warpdrive.Http.LogPolling
import Warpdrive.Http.LogStream
import Warpdrive.Http.SavedServices
import Warpdrive.Aggregator.P2p.Network
import Warpdrive.Foundation.Json
import Warpdrive.Foundation.Refinement
import Warpdrive.Engine.StorageRefinement
