import GrafuxMcp.Foundation.Program
import GrafuxMcp.Models.Uuid
import GrafuxMcp.Execution.Effects
import GrafuxMcp.Execution.ExecutionService
import GrafuxMcp.Security.Permissions
import GrafuxMcp.Execution.InvocationRow
import GrafuxMcp.Execution.TerminalStatus
import GrafuxMcp.Execution.SingleExecution
import GrafuxMcp.Execution.RunPoints
import GrafuxMcp.Execution.NoneLeftRunning
import GrafuxMcp.Execution.EventStream
import GrafuxMcp.Runtime.Router
import GrafuxMcp.Execution.TenantIsolation
import GrafuxMcp.Cache.Keys
import GrafuxMcp.Foundation.TtlCache
import GrafuxMcp.Discovery.ListTools
import GrafuxMcp.Discovery.CategoryCache
import GrafuxMcp.Discovery.Invalidation
import GrafuxMcp.Foundation.AsyncLock
import GrafuxMcp.Foundation.OrderedDict
import GrafuxMcp.Foundation.SecondaryIndex
import GrafuxMcp.Pool.ConnectionPool
import GrafuxMcp.Pool.SessionSafety
import GrafuxMcp.CloudSync.CloudSyncer
import GrafuxMcp.Foundation.AllRuns
import GrafuxMcp.CloudSync.Containment
import GrafuxMcp.CloudSync.StaysInside
import GrafuxMcp.CloudSync.Orphans
import GrafuxMcp.CloudSync.Scope
import GrafuxMcp.CloudSync.UpToDate
import GrafuxMcp.Execution.RetryOutcomes
import GrafuxMcp.Execution.RunResources
import GrafuxMcp.Execution.ConfirmedCancel
import GrafuxMcp.Pool.LiveSessions
import GrafuxMcp.Pool.Cancellation
import GrafuxMcp.Pool.BrokenSessions
import GrafuxMcp.Foundation.StatefulPrograms
import GrafuxMcp.Runtime.PluginLoader
import GrafuxMcp.Runtime.PluginIsolation
import GrafuxMcp.Runtime.PluginTree
import GrafuxMcp.CloudSync.Loadable
import GrafuxMcp.Lifecycle.ServerManager
import GrafuxMcp.Lifecycle.ServerState
import GrafuxMcp.Lifecycle.ConnectAtomicity
import GrafuxMcp.Lifecycle.ConnectionRows
import GrafuxMcp.Lifecycle.LeakedClients
import GrafuxMcp.Streaming.Subscription
import GrafuxMcp.Streaming.Delivery
import GrafuxMcp.Streaming.Outcome
import GrafuxMcp.Foundation.PathMarkers
import GrafuxMcp.Runtime.ToolExecutor
import GrafuxMcp.Runtime.NameIndex
import GrafuxMcp.Runtime.ToolResolution
import GrafuxMcp.Runtime.ToolResults
import GrafuxMcp.Runtime.ToolPaths
import GrafuxMcp.Runtime.OutputFiles
import GrafuxMcp.CloudSync.KeptFiles
import GrafuxMcp.Discovery.DiscoveryService
import GrafuxMcp.Discovery.UpsertTools
import GrafuxMcp.Discovery.ServerIsolation
import GrafuxMcp.Lifecycle.HealthMonitor
import GrafuxMcp.Lifecycle.HealthKeys
import GrafuxMcp.Lifecycle.HealthView
import GrafuxMcp.Foundation.ShellWords
import GrafuxMcp.Integrations.E2bExecutor
import GrafuxMcp.Cache.Capabilities
import GrafuxMcp.Runtime.ModulePurge
import GrafuxMcp.CloudSync.Listing
import GrafuxMcp.CloudSync.UserIds
import GrafuxMcp.Streaming.StreamManager
import GrafuxMcp.Lifecycle.ContextBalance
import GrafuxMcp.Api.Legacy
import GrafuxMcp.Pool.Growth
import GrafuxMcp.Pool.StaleFailures
import GrafuxMcp.Pool.FreshRetry
import GrafuxMcp.Foundation.ExpiringMap
import GrafuxMcp.Runtime.HttpClient
import GrafuxMcp.Cache.RoundTrip
import GrafuxMcp.Api.Gateway
import GrafuxMcp.Foundation.Unwinding
import GrafuxMcp.Streaming.TenantScope
import GrafuxMcp.Runtime.EditableCode
import GrafuxMcp.Execution.AttemptThreads
import GrafuxMcp.Foundation.SharedStore
import GrafuxMcp.Api.Routes
import GrafuxMcp.Api.Tables
import GrafuxMcp.Api.Tenants
import GrafuxMcp.Foundation.Handlers
import GrafuxMcp.Integrations.RemoteCalls
import GrafuxMcp.Execution.Sends
import GrafuxMcp.Integrations.Sandboxes
import GrafuxMcp.Integrations.SandboxOrgs
import GrafuxMcp.Foundation.Draining
import GrafuxMcp.Pool.ComesToRest
