import GrafuxMcp.Execution.Effects

/-! # Execution router

The dispatch table of `ExecutionRouter` in `app/core/runtime/router.py`, up to
the backend call that a runner makes.
-/

namespace GrafuxMcp.Router

open GrafuxMcp GrafuxMcp.Execution

inductive BackendCall
  | callToolDirect (toolName : String) (arguments : List (String × Value))
      (username project category : Option String)
  | remoteConnectionPool (endpointUrl transport toolName : String)
      (arguments : List (String × Value))
  | composioClient (config : List (String × Value)) (toolName : String)
      (arguments : List (String × Value))
  | e2bExecutor (code : Value) (arguments : List (String × Value))
      (orgId invocationId : Text)
  | devicesClient (toolName : String) (arguments : List (String × Value))
      (config : List (String × Value))

def runLocal (call : RouteCall) : Except Exc BackendCall :=
  return .callToolDirect call.toolName call.arguments call.username call.project
    call.category

def runRemote (call : RouteCall) : Except Exc BackendCall :=
  match call.endpointUrl.filter (!·.isEmpty) with
  | none => throw ⟨.RoutingError, "Remote MCP server requires endpoint_url"⟩
  | some endpointUrl =>
      let transport := if call.serverType = .remoteSse then "sse" else "http"
      return .remoteConnectionPool endpointUrl transport call.toolName
        call.arguments

def runComposio (call : RouteCall) : Except Exc BackendCall :=
  return .composioClient (call.serverConfig.getD []) call.toolName call.arguments

/-- `ctx.code` is never given by the execution service. -/
def runE2b (call : RouteCall) : Except Exc BackendCall :=
  return .e2bExecutor ((call.arguments.lookup "code").getD (.str ""))
    call.arguments call.orgId call.invocationId

def runDevice (call : RouteCall) : Except Exc BackendCall :=
  return .devicesClient call.toolName call.arguments (call.serverConfig.getD [])

/-- The handler that `route` looks up, up to its backend call. -/
def dispatch (call : RouteCall) : Except Exc BackendCall :=
  match call.serverType with
  | .localPlugin => runLocal call
  | .remoteSse | .remoteHttp => runRemote call
  | .composio => runComposio call
  | .e2b => runE2b call
  | .device => runDevice call

/-- A remote server without an endpoint is never reached. -/
def hasEndpoint (serverType : ServerType) (endpointUrl : Option String) : Bool :=
  match serverType with
  | .remoteSse | .remoteHttp => (endpointUrl.filter (!·.isEmpty)).isSome
  | _ => true

/-- A call reaches a backend unless it is for a remote server without an
endpoint. -/
theorem isOk_dispatch (call : RouteCall) :
    (dispatch call).isOk = hasEndpoint call.serverType call.endpointUrl := by
  unfold dispatch hasEndpoint
  cases call.serverType with
  | localPlugin => rfl
  | composio => rfl
  | e2b => rfl
  | device => rfl
  | remoteSse =>
      unfold runRemote
      cases call.endpointUrl.filter (!·.isEmpty) <;> rfl
  | remoteHttp =>
      unfold runRemote
      cases call.endpointUrl.filter (!·.isEmpty) <;> rfl

end GrafuxMcp.Router
