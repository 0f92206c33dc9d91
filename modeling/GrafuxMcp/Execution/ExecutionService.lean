import GrafuxMcp.Streaming.EventBus

/-! # Invocation lifecycle

`ExecutionService` of `app/services/execution_service.py` and the two endpoints
of `app/api/v1/execution.py` that start an invocation.
-/

namespace GrafuxMcp.Execution

open GrafuxMcp

def maxRetries : Nat := 2

def transientErrors : List ExcClass :=
  [.TimeoutError, .ConnectionError, .OSError, .RemoteCallError]

def isTransient (exc : Exc) : Bool := transientErrors.any exc.isinstance

structure RoutingInfo where
  serverType : ServerType
  endpointUrl : Option String := none
  serverConfig : Option (List (String × Value)) := none

structure InvocationRef where
  id : Uuid
  toolName : String
  orgId : Text
  projectId : Option Text := none

/-- The arguments that `_run` and `_run_background` share. -/
structure Job where
  ref : InvocationRef
  arguments : List (String × Value)
  routing : RoutingInfo
  username : Option String
  project : Option String
  category : Option String
  timeout : Seconds

namespace Job

def invocationId (job : Job) : Text := job.ref.id.str

def routeCall (job : Job) : RouteCall where
  serverType := job.routing.serverType
  toolName := job.ref.toolName
  arguments := job.arguments
  invocationId := job.invocationId
  orgId := job.ref.orgId
  projectId := job.ref.projectId
  username := job.username
  project := job.project
  category := job.category
  serverConfig := job.routing.serverConfig
  endpointUrl := job.routing.endpointUrl
  timeout := job.timeout

end Job

/-! ## Status writes -/

/-- `db.execute(update(...))` and `db.commit()`. -/
def writeStatus (update : InvocationUpdate) : Run Unit := do
  perform (.execute update)
  perform .commit

def markRunning (ref : InvocationRef) : Run Unit :=
  writeStatus { id := ref.id, status := .running }

def markDone (ref : InvocationRef) (result : Value) : Run Unit :=
  writeStatus { id := ref.id, status := .done, output := some result }

def markFailed (ref : InvocationRef) (error : String) : Run Unit :=
  writeStatus { id := ref.id, status := .failed, errorMessage := some error }

def markCancelled (ref : InvocationRef) : Run Unit :=
  writeStatus { id := ref.id, status := .cancelled }

/-! ## One run -/

/-- How one pass of the retry loop ends: it returns from `_run`, breaks out of
the loop, or goes on to the next attempt. -/
inductive Pass
  | returned (result : Value)
  | broke (lastError : Exc)
  | next (lastError : Exc)

/-- The body of the loop's `try`. -/
def attemptBody (job : Job) (attempt : Nat) : Run Pass := do
  if attempt > 0 then
    publishLog job.invocationId .warn s!"Retry {attempt}/{maxRetries}"
  let result ← route job.routeCall
  markDone job.ref result
  publishResult job.invocationId result
  auditLog job.invocationId .info "Tool completed successfully"
  return .returned result

def timedOut (job : Job) : Exc :=
  ⟨.TimeoutError,
    s!"Tool '{job.ref.toolName}' timed out after {job.timeout.text}s"⟩

/-- What the handlers of a failed attempt share: the failure is logged, and
the loop is left or the next attempt is put off. -/
def retryAfter (job : Job) (attempt : Nat) (lastError : Exc) (stop : Bool) :
    Run Pass := do
  publishLog job.invocationId .error lastError.message
  if stop then
    return .broke lastError
  else
    perform (.sleep attempt)
    return .next lastError

/-- The three `except` clauses of the loop. An exception of any other class
leaves `_run`. -/
def attemptHandler (job : Job) (attempt : Nat) (exc : Exc) : Run Pass := do
  if exc.isCancelled then
    markCancelled job.ref
    return .returned (toolError "Invocation cancelled")
  else if exc.isinstance .TimeoutError then
    retryAfter job attempt (timedOut job) (attempt ≥ maxRetries)
  else if exc.isException then
    retryAfter job attempt exc (attempt ≥ maxRetries || !isTransient exc)
  else
    throw exc

def runAttempt (job : Job) (attempt : Nat) : Run Pass := do
  if ← isSet then
    markCancelled job.ref
    return .returned (toolError "Invocation cancelled")
  else
    tryCatch (attemptBody job attempt) (attemptHandler job attempt)

/-- After the loop: every retry is used up, or a break left it. -/
def finishFailed (job : Job) (lastError : Option Exc) : Run Value := do
  let errorMsg := (lastError.map (·.message)).getD "Unknown error"
  markFailed job.ref errorMsg
  publishError job.invocationId errorMsg
  return toolError errorMsg

/-- `for attempt in range(MAX_RETRIES + 1)`, over the attempts still to come. -/
def retryLoop (job : Job) : List Nat → Option Exc → Run Value
  | [], lastError => finishFailed job lastError
  | attempt :: rest, _ => do
      match ← runAttempt job attempt with
      | .returned result => return result
      | .broke lastError => finishFailed job (some lastError)
      | .next lastError => retryLoop job rest (some lastError)

/-- What `_run` does while it holds its slot. -/
def runInSlot (job : Job) : Run Value := do
  markRunning job.ref
  publishLog job.invocationId .info s!"Starting tool: {job.ref.toolName}"
  retryLoop job (List.range (maxRetries + 1)) none

def run (job : Job) : Run Value := do
  perform .acquire
  (runInSlot job).tryFinally (perform .release)

/-! ## The two ways to start a run -/

def runBackground (job : Job) : Run Unit := do
  perform (.register job.invocationId)
  Program.tryFinally
    (try
      let _ ← (run job).tryFinally (perform .closeSession)
      pure ()
    catch exc =>
      if exc.isException then pure () else throw exc)
    (perform (.unregister job.invocationId))

def resolveToolRouting (toolId : Option Uuid) : Run RoutingInfo :=
  match toolId with
  | none => return { serverType := .localPlugin }
  | some toolId => do
      match ← perform (.selectTool toolId) with
      | some (_, some server) =>
          return ⟨server.serverType, server.endpointUrl, some server.config⟩
      | _ => return { serverType := .localPlugin }

/-- `uuid.UUID(text)`. -/
def uuidOf (text : Text) : Run Uuid :=
  match Uuid.parse text with
  | some uuid => return uuid
  | none => throw ⟨.ValueError, "badly formed hexadecimal UUID string"⟩

/-- The keyword arguments of `invoke` and `invoke_async`. -/
structure InvokeRequest where
  toolName : String
  arguments : List (String × Value)
  orgId : Text
  projectId : Option Text := none
  userId : Option String := none
  sessionId : Option Uuid := none
  toolId : Option Uuid := none
  username : Option String := none
  project : Option String := none
  category : Option String := none
  timeout : Option Seconds := none

def defaultToolTimeout : Seconds := ⟨"120.0"⟩

/-- `_create_invocation`, which gives back the generated id of the new row. -/
def createInvocation (request : InvokeRequest) (serverType : ServerType) :
    Run Uuid := do
  let orgId ← uuidOf request.orgId
  let projectId ←
    match request.projectId.filter (!·.isEmpty) with
    | some text => some <$> uuidOf text
    | none => pure none
  perform (.add
    { orgId, projectId
      userId := request.userId
      sessionId := request.sessionId
      toolId := request.toolId
      toolName := request.toolName
      serverType
      status := .pending
      input := request.arguments })
  perform .commit
  perform .refresh

/-- The common beginning of `invoke` and `invoke_async`. -/
def prepare (request : InvokeRequest) : Run Job := do
  let routing ← resolveToolRouting request.toolId
  let id ← createInvocation request routing.serverType
  return {
    ref := ⟨id, request.toolName, request.orgId, request.projectId⟩
    arguments := request.arguments
    routing
    username := request.username
    project := request.project
    category := request.category
    timeout := request.timeout.getD defaultToolTimeout }

def invoke (request : InvokeRequest) : Run Value := do
  let job ← prepare request
  perform (.register job.invocationId)
  (run job).tryFinally (perform (.unregister job.invocationId))

/-- `invoke_async` followed by the task it starts. The handler has returned the
invocation id by then, so nothing of the task's depends on it. -/
def invokeAsync (request : InvokeRequest) : Run Unit := do
  let job ← prepare request
  runBackground job

structure ExecuteRequest where
  toolName : String
  toolId : Option Uuid := none
  arguments : List (String × Value) := []
  projectId : Option Uuid := none
  username : Option String := none
  project : Option String := none
  category : Option String := none
  timeout : Seconds := defaultToolTimeout

/-- What both endpoints hand to the service. -/
def ExecuteRequest.invokeRequest (body : ExecuteRequest) (auth : AuthContext) :
    InvokeRequest where
  toolName := body.toolName
  arguments := body.arguments
  orgId := auth.orgId
  projectId :=
    match body.projectId with
    | some projectId => some projectId.str
    | none => auth.projectId
  userId := some auth.userId
  toolId := body.toolId
  username := body.username
  project := body.project
  category := body.category
  timeout := some body.timeout

/-- `POST /execute`. -/
def executeTool (body : ExecuteRequest) (auth : AuthContext) : Run Value :=
  invoke (body.invokeRequest auth)

/-- `POST /execute/async`. -/
def executeToolAsync (body : ExecuteRequest) (auth : AuthContext) : Run Unit :=
  invokeAsync (body.invokeRequest auth)

/-! ## Undisturbed surroundings -/

/-- Surroundings in which nothing fails: the row gets `id`, the registry
answers `tools`, and the backend returns `result`. -/
def undisturbed (id : Uuid) (tools : Uuid → Option (MCPTool × Option MCPServer))
    (result : Value) : Environment effects := fun _ op =>
  match op with
  | .isSet => .returned false
  | .selectTool toolId => .returned (tools toolId)
  | .refresh => .returned id
  | .route _ => .returned result
  | .acquire | .release | .register _ | .unregister _ | .add _ | .execute _
  | .commit | .closeSession | .dumps _ | .publish _ _ | .sleep _ =>
      .returned ()

/-- The same surroundings, except that a call at `place` raises `exc` where it
may, and takes no effect. -/
def raisingAt (place : List RunEvent → Op → Bool) (exc : Exc)
    (environment : Environment effects) : Environment effects :=
  fun history op =>
    if raises : place history op = true ∧ op.mayRaise exc = true then
      .raised exc false raises.2
    else environment history op

/-- A job for the zero invocation of a local tool. -/
def exampleJob : Job where
  ref := ⟨Uuid.zero, "add7", [], none⟩
  arguments := []
  routing := { serverType := .localPlugin }
  username := none
  project := none
  category := none
  timeout := defaultToolTimeout

def exampleRequest : InvokeRequest where
  toolName := "add7"
  arguments := []
  orgId := Uuid.zero.str

end GrafuxMcp.Execution
