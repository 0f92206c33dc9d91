import GrafuxMcp.Foundation.Handlers
import GrafuxMcp.Runtime.Router
import GrafuxMcp.Execution.ExecutionService

/-! # Calls of remote tools

What `execution_router.route` does for an invocation: the runners of
`app/core/runtime/router.py`, `RemoteConnectionPool.call_tool`, `MCPClientWrapper` and
`ComposioMCPClient.call_tool`, as one task sees them. Other tasks use the same pool, so what it
reads of an entry is up to the surroundings. -/

namespace GrafuxMcp.Remote

open GrafuxMcp Execution Router

/-! ### Operations -/

/-- A `MCPClientWrapper`. -/
structure Wrapper where
  identity : Nat
  endpointUrl : Value
  transport : Value

abbrev Arguments := List (String × Value)

inductive Op
  /-- A local tool, the sandbox executor or the devices client. -/
  | backend (call : BackendCall)
  /-- Whether a cancellation is that of `asyncio.wait_for`. -/
  | timedOut
  /-- `str(value)` -/
  | str (value : Value)
  /-- `_get_entry` -/
  | getEntry (endpointUrl transport : String)
  /-- `self._entries.get` -/
  | findEntry (endpointUrl transport : String)
  | lockEntry (wrapper : Wrapper)
  | unlockEntry (wrapper : Wrapper)
  /-- `entry.connected and entry.loop is not loop` -/
  | isForeign (wrapper : Wrapper)
  | isConnected (wrapper : Wrapper)
  | setConnected (wrapper : Wrapper) (connected : Bool)
  | newWrapper (endpointUrl transport : Value)
  /-- The transport and the session are entered, and the session is initialised. -/
  | openSession (wrapper : Wrapper)
  | hasSession (wrapper : Wrapper)
  /-- The session and the transport are left. -/
  | exitSession (wrapper : Wrapper)
  | clearSession (wrapper : Wrapper)
  | httpProbe (wrapper : Wrapper)
  /-- `session.call_tool` -/
  | sdkCall (wrapper : Wrapper) (name : String) (arguments : Arguments)
  /-- `POST {endpoint_url}/api/tools/{name}` -/
  | httpCall (wrapper : Wrapper) (name : String) (arguments : Arguments)
  | composioApiKey
  /-- `POST https://backend.composio.dev/api/v2/actions/{tool_name}/execute` -/
  | restCall (apiKey : Value) (name : String) (arguments : Arguments)

@[reducible] def Op.Answer : Op → Type
  | .backend _ | .sdkCall _ _ _ | .httpCall _ _ _ | .restCall _ _ _ | .composioApiKey => Value
  | .timedOut | .isForeign _ | .isConnected _ | .hasSession _ => Bool
  | .str _ => String
  | .getEntry _ _ | .newWrapper _ _ => Wrapper
  | .findEntry _ _ => Option Wrapper
  | _ => Unit

def Op.mayRaise : Op → Exc → Bool
  | .backend _, _ => true
  | .getEntry _ _, exc | .lockEntry _, exc => exc.isCancelled
  | .openSession _, exc | .exitSession _, exc | .httpProbe _, exc | .sdkCall _ _ _, exc
  | .httpCall _ _ _, exc | .restCall _ _ _, exc => exc.isException || exc.isCancelled
  | _, _ => false

/-- The request of a tool is sent. -/
def Op.isSend : Op → Bool
  | .backend _ | .sdkCall _ _ _ | .httpCall _ _ _ | .restCall _ _ _ => true
  | _ => false

@[reducible] def operations : Operations Exc where
  Op := Op
  Answer := Op.Answer
  mayRaise := Op.mayRaise

abbrev Stack (α : Type) := Program operations.interface α

@[reducible] def perform (op : Op) : Stack op.Answer :=
  Program.call (I := operations.interface) op

/-- `except Exception`, and the failure is logged. -/
def logged (program : Stack Unit) : Stack Unit :=
  tryCatch program fun exc => if exc.isException then return () else throw exc

/-! ### The client of a server -/

section Wrappers

variable (wrapper : Wrapper) (name : String) (arguments : Arguments)

/-- `MCPClientWrapper.connect` -/
def connect : Stack Unit :=
  tryCatch (perform (.openSession wrapper)) fun exc =>
    if exc.isinstance .ImportError then logged (perform (.httpProbe wrapper))
    else if exc.isException then do
      let url ← perform (.str wrapper.endpointUrl)
      throw ⟨.ConnectionError, s!"Failed to connect to MCP server {url}: {exc.message}"⟩
    else throw exc

/-- The `try` of `MCPClientWrapper.call_tool`; without a session it falls through. -/
def callSession : Stack (Option Value) :=
  tryCatch (do
    if ← perform (.hasSession wrapper) then
      let result ← perform (.sdkCall wrapper name arguments)
      return some result
    else return none)
    fun exc => if exc.isException then return none else throw exc

/-- `MCPClientWrapper.call_tool` -/
def callWrapper : Stack Value := do
  match ← callSession wrapper name arguments with
  | some result => return result
  | none => perform (.httpCall wrapper name arguments)

/-- `MCPClientWrapper.disconnect` -/
def disconnect : Stack Unit := do
  if ← perform (.hasSession wrapper) then
    (logged (perform (.exitSession wrapper))).tryFinally (perform (.clearSession wrapper))

end Wrappers

/-! ### The pool -/

section Pool

variable (endpointUrl transport : String) (name : String) (arguments : Arguments)

/-- `_RECONNECTABLE` -/
def reconnectable : List ExcClass :=
  [.ConnectionError, .BrokenPipeError, .OSError, .RuntimeError]

def hardClose (wrapper : Wrapper) : Stack Unit := do
  if ← perform (.isConnected wrapper) then
    logged (disconnect wrapper)
  perform (.setConnected wrapper false)

/-- What `acquire` does before it yields the wrapper. -/
def ready (wrapper : Wrapper) : Stack Unit := do
  if ← perform (.isForeign wrapper) then
    hardClose wrapper
  if ← perform (.isConnected wrapper) then return ()
  else do
    connect wrapper
    perform (.setConnected wrapper true)

/-- `async with self.acquire(endpoint_url, transport) as wrapper` -/
def acquire (body : Wrapper → Stack α) : Stack α := do
  let wrapper ← perform (.getEntry endpointUrl transport)
  perform (.lockEntry wrapper)
  Program.tryFinally (do
    ready wrapper
    body wrapper) (perform (.unlockEntry wrapper))

/-- `_mark_broken` -/
def markBroken : Stack Unit := do
  match ← perform (.findEntry endpointUrl transport) with
  | none => return ()
  | some wrapper => do
      perform (.lockEntry wrapper)
      Program.tryFinally (hardClose wrapper) (perform (.unlockEntry wrapper))

/-- `RemoteConnectionPool.call_tool` -/
def callPool : Stack Value :=
  tryCatch (acquire endpointUrl transport fun wrapper => callWrapper wrapper name arguments)
    fun exc =>
      if reconnectable.any exc.isinstance then do
        markBroken endpointUrl transport
        acquire endpointUrl transport fun wrapper => callWrapper wrapper name arguments
      else throw exc

end Pool

/-! ### Composio -/

section Composio

variable (config : List (String × Value)) (name : String) (arguments : Arguments)

def isFalse : Value → Bool
  | .none | .bool false | .int 0 | .str "" | .list [] | .dict [] => true
  | _ => false

/-- `self._config.get("api_key") or settings.composio_api_key` -/
def apiKey : Stack Value :=
  match (config.lookup "api_key").filter (!isFalse ·) with
  | some key => return key
  | none => perform .composioApiKey

/-- `_rest_call_tool` -/
def callRest (key : Value) : Stack Value := do
  if isFalse key then
    throw ⟨.ValueError, "Composio API key not configured"⟩
  perform (.restCall key name arguments)

/-- The SDK path of `ComposioMCPClient.call_tool`. -/
def callSdk : Stack Value := do
  let wrapper ← perform (.newWrapper
    ((config.lookup "endpoint_url").getD (.str "https://mcp.composio.dev"))
    ((config.lookup "transport").getD (.str "sse")))
  connect wrapper
  let result ← callWrapper wrapper name arguments
  disconnect wrapper
  return result

/-- `ComposioMCPClient(config).call_tool` -/
def callComposio : Stack Value := do
  let key ← apiKey config
  tryCatch (callSdk config name arguments) fun exc =>
    if exc.isException then callRest name arguments key else throw exc

end Composio

/-! ### The router -/

/-- `asyncio.wait_for(body, timeout)` -/
def waitFor (body : Stack Value) : Stack Value :=
  tryCatch body fun exc => do
    if exc.isCancelled then
      if ← perform .timedOut then throw ⟨.TimeoutError, ""⟩
    throw exc

def runBackend : BackendCall → Stack Value
  | .remoteConnectionPool endpointUrl transport toolName arguments =>
      callPool endpointUrl transport toolName arguments
  | .composioClient config toolName arguments => callComposio config toolName arguments
  | call => perform (.backend call)

/-- `execution_router.route` -/
def routed (call : RouteCall) : Stack Value :=
  match dispatch call with
  | .ok backend => waitFor (runBackend backend)
  | .error exc => throw exc

/-- The call of the router is what the router does. -/
def handler : (op : Execution.Op) → Option (Stack op.Answer)
  | .route call => some (routed call)
  | _ => none

/-- The operations of the execution service and of the backends. -/
abbrev effects : Interface :=
  Execution.effects.extended operations

/-- A program of the execution service with everything below it. -/
def stack (program : Run α) : Program effects α :=
  program.implement handler

theorem isNone_handler (op : Execution.Op) : (handler op).isNone = !op.isRoute := by
  cases op with
  | route call => rfl
  | _ => rfl

end GrafuxMcp.Remote
