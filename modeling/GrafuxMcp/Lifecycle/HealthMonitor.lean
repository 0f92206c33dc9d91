import GrafuxMcp.Lifecycle.ServerManager

/-! # Health monitor

`HealthMonitor._check_all` of `app/core/lifecycle/health_monitor.py`, and the method
`server/status` of the gateway over the entries of `_InMemoryRedis`. -/

namespace GrafuxMcp.HealthMonitor

open GrafuxMcp

open GrafuxMcp.Lifecycle (ClientId ttlHealth)

inductive Op where
  /-- `list(_active_connections.items())` -/
  | activeConnections
  /-- `client.list_tools()` with its time-out. -/
  | listTools (client : ClientId)
  /-- The milliseconds since the probe began, rounded. -/
  | latency
  | cacheSet (key : Text) (value : Value) (ttl : Nat)

@[reducible] def Op.Answer : Op → Type
  | .activeConnections => List (Text × ClientId)
  | .latency => Value
  | .listTools _ | .cacheSet _ _ _ => Unit

/-- What is awaited may raise any `Exception` or be cancelled. -/
def Op.mayRaise : Op → Exc → Bool
  | .activeConnections, _ | .latency, _ => false
  | .listTools _, exc | .cacheSet _ _ _, exc => exc.isException || exc.isCancelled

@[reducible] def effects : Interface where
  Op := Op
  Answer := Op.Answer
  Exc := Exc
  mayRaise := Op.mayRaise

abbrev Run (α : Type) := Program effects α

abbrev RunEvent := Event effects

@[reducible] def perform (op : Op) : Run op.Answer :=
  Program.call (I := effects) op

/-! ### A round -/

/-- The status of a server with the latency and the error. -/
structure Probe where
  status : String
  latency : Value
  error : Option String := none

def probe (client : ClientId) : Run Probe :=
  tryCatch
    (do
      perform (.listTools client)
      let latency ← perform .latency
      return { status := "healthy", latency := latency })
    fun exc =>
      if exc.isinstance .TimeoutError then
        return {
          status := "timeout"
          latency := .int 10000
          error := some "Health check timed out" }
      else if exc.isException then do
        let latency ← perform .latency
        return { status := "error", latency := latency, error := some exc.message }
      else throw exc

/-- The key carries no org. -/
def healthKey (serverId : Text) : Text :=
  "mcp:health:".toList ++ serverId

def payload (serverId : Text) (probe : Probe) : Value :=
  let error := (probe.error.filter (!·.isEmpty)).map fun error => ("error", Value.str error)
  .dict ([("server_id", .str (String.ofList serverId)), ("status", .str probe.status),
    ("latency_ms", probe.latency)] ++ error.toList)

def checkEach : List (Text × ClientId) → Run Unit
  | [] => return ()
  | (serverId, client) :: connections => do
      let probe ← probe client
      perform (.cacheSet (healthKey serverId) (payload serverId probe) (ttlHealth * 3))
      checkEach connections

def checkAll : Run Unit := do
  let connections ← perform .activeConnections
  checkEach connections

/-! ### The query -/

/-- An entry of `_store`. -/
structure Entry where
  value : Value
  expiry : Nat

abbrev Store := OrderedDict Text Entry

/-- `_handle_server_status`: the entries that match and are not expired. What `cache_set`
has stored is read back as the same data. -/
def handleServerStatus (globMatches : Text → Text → Bool) (store : Store) (now : Nat)
    (auth : Option Text) : List Value :=
  let pattern := MCPKeys.serverStatusPattern (auth.getD "anonymous".toList)
  store.items.filterMap fun item =>
    if now < item.2.expiry && globMatches pattern item.1 then some item.2.value else none

end GrafuxMcp.HealthMonitor
