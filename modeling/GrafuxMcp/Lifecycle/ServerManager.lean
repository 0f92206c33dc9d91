import GrafuxMcp.Cache.Keys
import GrafuxMcp.Foundation.OrderedDict
import GrafuxMcp.Foundation.Program
import GrafuxMcp.Models.Database

/-! # Server manager

`ServerManager` of `app/core/lifecycle/server_manager.py` with the connect and the
disconnect of `MCPClientWrapper`, over the operations that they perform: the map of
active connections, the tables of the registry, the SDK and Redis. -/

namespace GrafuxMcp.Lifecycle

open GrafuxMcp

/-- The identity of a `MCPClientWrapper`. -/
abbrev ClientId := Nat

/-- A moment is compared and printed. -/
structure Moment where
  instant : Nat
  isoformat : String
  deriving DecidableEq, Repr

inductive ConnectionStatus where
  | connected
  | disconnected
  deriving DecidableEq, Repr

structure MCPConnection where
  serverId : Uuid
  orgId : Uuid
  status : ConnectionStatus
  connectedAt : Moment
  disconnectedAt : Option Moment := none
  metadata : List (String × Value)

/-! ### Operations -/

/-- The `async` contexts that a connect enters. -/
inductive Context where
  | transport
  | session
  deriving DecidableEq, Repr

inductive Op where
  /-- `server_id in _active_connections` -/
  | contains (serverId : Text)
  | store (serverId : Text) (client : ClientId)
  | pop (serverId : Text)
  | now
  | updateStatus (serverId : Uuid) (status : ServerStatus)
  /-- The newest row of the server that has the status `connected`. -/
  | selectConnected (serverId : Uuid)
  | add (connection : MCPConnection)
  | setDisconnected (connection : Uuid) (disconnectedAt : Moment)
  | commit
  | newClient (endpointUrl transport : String)
  /-- The imports at the beginning of `connect`. -/
  | importSdk
  | enter (client : ClientId) (context : Context)
  | initializeSession (client : ClientId)
  | keepSession (client : ClientId)
  | hasSession (client : ClientId)
  | leave (client : ClientId) (context : Context)
  | dropSession (client : ClientId)
  /-- The `GET` request of `_http_probe`, with what it makes of the answer. -/
  | probe (client : ClientId)
  | cacheSet (key : Text) (value : Value) (ttl : Nat)

@[reducible] def Op.Answer : Op → Type
  | .contains _ | .hasSession _ => Bool
  | .pop _ => Option ClientId
  | .now => Moment
  | .selectConnected _ => Option Uuid
  | .newClient _ _ => ClientId
  /- The id that the row gets. -/
  | .add _ => Uuid
  | .initializeSession _ | .probe _ => List (String × Value)
  | _ => Unit

/-- What is awaited may raise any `Exception` or be cancelled; the imports may raise
any `Exception`. -/
def Op.mayRaise : Op → Exc → Bool
  | .updateStatus _ _, exc | .selectConnected _, exc | .commit, exc | .enter _ _, exc
  | .initializeSession _, exc | .leave _ _, exc | .probe _, exc | .cacheSet _ _ _, exc =>
      exc.isException || exc.isCancelled
  | .importSdk, exc => exc.isException
  | .contains _, _ | .store _ _, _ | .pop _, _ | .now, _ | .add _, _ | .setDisconnected _ _, _
  | .newClient _ _, _ | .keepSession _, _ | .hasSession _, _ | .dropSession _, _ => false

@[reducible] def effects : Interface where
  Op := Op
  Answer := Op.Answer
  Exc := Exc
  mayRaise := Op.mayRaise

abbrev Run (α : Type) := Program effects α

abbrev RunEvent := Event effects

@[reducible] def perform (op : Op) : Run op.Answer :=
  Program.call (I := effects) op

/-! ### The client -/

namespace MCPClientWrapper

variable (client : ClientId)

/-- `_http_probe` -/
def httpProbe : Run (List (String × Value)) :=
  tryCatch (perform (.probe client)) fun exc =>
    if exc.isException then
      return [("name", .str "unknown"), ("version", .str "?"), ("capabilities", .dict [])]
    else throw exc

def connect (endpointUrl : String) : Run (List (String × Value)) :=
  tryCatch
    (do
      perform .importSdk
      perform (.enter client .transport)
      perform (.enter client .session)
      let result ← perform (.initializeSession client)
      perform (.keepSession client)
      return result)
    fun exc =>
      if exc.isinstance .ImportError then httpProbe client
      else if exc.isException then
        throw ⟨.ConnectionError,
          "Failed to connect to MCP server " ++ endpointUrl ++ ": " ++ exc.message⟩
      else throw exc

def closeContexts : Run Unit :=
  tryCatch
    (do
      perform (.leave client .session)
      perform (.leave client .transport))
    fun exc => if exc.isException then return () else throw exc

def disconnect : Run Unit := do
  if ← perform (.hasSession client) then
    (closeContexts client).tryFinally (perform (.dropSession client))

end MCPClientWrapper

/-! ### The manager -/

def ttlHealth : Nat := 30

def ttlCapabilities : Nat := 600

inductive ConnectResult where
  | alreadyConnected
  | localPlugin
  | connected (capabilities : List (String × Value))

section Manager

variable (server : MCPServer)

def serverId : Text := server.id.str

def writeHealth (status : String) (error : Option String := none) : Run Unit := do
  let now ← perform .now
  let payload : List (String × Value) :=
    [("server_id", .str (String.ofList (serverId server))), ("status", .str status),
      ("checked_at", .str now.isoformat)]
  let error := (error.filter (!·.isEmpty)).map fun error => ("error", Value.str error)
  perform (.cacheSet (MCPKeys.serverHealth server.orgId.str (serverId server))
    (.dict (payload ++ error.toList)) ttlHealth)

def recordConnected (capabilities : List (String × Value)) : Run Unit := do
  let now ← perform .now
  perform (.updateStatus server.id .active)
  let _ ← perform (.add {
    serverId := server.id
    orgId := server.orgId
    status := .connected
    connectedAt := now
    metadata := [("capabilities", .dict capabilities)] })
  perform .commit
  writeHealth server "connected"

def recordError (error : String) : Run Unit := do
  perform (.updateStatus server.id .error)
  perform .commit
  writeHealth server "error" (some error)

/-- `cache_capabilities` of `app/core/protocol/negotiation.py`. -/
def cacheCapabilities (capabilities : List (String × Value)) : Run Unit :=
  perform (.cacheSet (MCPKeys.serverCapabilities (serverId server)) (.dict capabilities) ttlCapabilities)

/-- The `try` of `connect`. -/
def openConnection (endpointUrl : String) : Run ConnectResult := do
  let transport := if server.serverType = .remoteSse then "sse" else "http"
  let client ← perform (.newClient endpointUrl transport)
  let capabilities ← MCPClientWrapper.connect client endpointUrl
  perform (.store (serverId server) client)
  cacheCapabilities server capabilities
  recordConnected server capabilities
  return .connected capabilities

/-- The `except` of `connect`. -/
def connectFailed (exc : Exc) : Run ConnectResult :=
  if exc.isException then do
    recordError server exc.message
    throw exc
  else throw exc

def connect : Run ConnectResult := do
  if ← perform (.contains (serverId server)) then
    return .alreadyConnected
  perform (.updateStatus server.id .connecting)
  perform .commit
  if server.serverType = .localPlugin then
    recordConnected server []
    return .localPlugin
  match server.endpointUrl.filter (!·.isEmpty) with
  | none =>
      recordError server "No endpoint URL configured"
      throw ⟨.ValueError, "Server " ++ String.ofList (serverId server) ++ " has no endpoint_url"⟩
  | some endpointUrl => tryCatch (openConnection server endpointUrl) (connectFailed server)

def disconnectClient : Option ClientId → Run Unit
  | none => return ()
  | some client =>
      tryCatch (MCPClientWrapper.disconnect client) fun exc =>
        if exc.isException then return () else throw exc

def disconnect : Run Unit := do
  let client ← perform (.pop (serverId server))
  disconnectClient client
  perform (.updateStatus server.id .inactive)
  let connection ← perform (.selectConnected server.id)
  match connection with
  | none => pure ()
  | some connection => do
      let now ← perform .now
      perform (.setDisconnected connection now)
  perform .commit
  writeHealth server "disconnected"

end Manager

inductive Call where
  | connect
  | disconnect
  deriving DecidableEq, Repr

def Call.program (server : MCPServer) : Call → Run Unit
  | .connect => do
      let _ ← Lifecycle.connect server
  | .disconnect => Lifecycle.disconnect server

end GrafuxMcp.Lifecycle
