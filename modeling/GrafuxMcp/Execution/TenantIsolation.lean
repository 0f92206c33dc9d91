import GrafuxMcp.Execution.RunPoints
import GrafuxMcp.Runtime.Router
import GrafuxMcp.Security.Permissions

/-! # Tenant isolation of execution

`_resolve_tool_routing` selects a tool by its id alone, and neither endpoint
asks `assert_tool_accessible` or compares the tool's name.
-/

namespace GrafuxMcp.Execution

open GrafuxMcp

/-- `select(MCPTool).options(joinedload(MCPTool.server)).where(id == tool_id)`. -/
def toolWithServer (db : Database) (toolId : Uuid) :
    Option (MCPTool × Option MCPServer) :=
  (scalarOneOrNone (db.tools.filter fun tool => tool.id = toolId)).map fun tool =>
    (tool, scalarOneOrNone (db.servers.filter fun server =>
      server.id = tool.serverId))

/-- A registered tool is found with its server. -/
theorem toolWithServer_of_mem {db : Database} {tool : MCPTool}
    {server : MCPServer} (registered : tool ∈ db.tools)
    (stored : server ∈ db.servers) (serves : server.id = tool.serverId) :
    toolWithServer db tool.id = some (tool, some server) := by
  unfold toolWithServer
  rw [scalarOneOrNone_filter db.tools_nodup registered, Option.map_some, ← serves,
    scalarOneOrNone_filter db.servers_nodup stored]

/-- The session of the request reads the registry `db`. -/
def ReadsTools (db : Database) (environment : Environment effects) : Prop :=
  ∀ history toolId found,
    environment history (.selectTool toolId) = .returned found →
      found = toolWithServer db toolId

/-- `assert_tool_accessible` would succeed. -/
def accessible (db : Database) (toolId : Uuid) (auth : AuthContext) : Bool :=
  (Permissions.assertToolAccessible db toolId auth).isOk

/-- The two endpoints that execute a tool. -/
inductive Endpoint
  | execute
  | executeAsync

def Endpoint.events (environment : Environment effects) (body : ExecuteRequest)
    (auth : AuthContext) : Endpoint → List RunEvent
  | .execute => (executeTool body auth).trace environment
  | .executeAsync => (executeToolAsync body auth).trace environment

/-- The call carries the server's type, endpoint and configuration. -/
def RouteCall.IsFor (server : MCPServer) (call : RouteCall) : Prop :=
  call.serverType = server.serverType ∧ call.endpointUrl = server.endpointUrl ∧
    call.serverConfig = some server.config

/-- A backend is reached with the tool's server only if the caller may access
the tool, and only for the tool's registered name. -/
def Isolated (db : Database) (auth : AuthContext) (tool : MCPTool)
    (server : MCPServer) (events : List RunEvent) : Prop :=
  ∀ event ∈ events, ∀ call, event.op = .route call →
    (Router.dispatch call).isOk = true → call.IsFor server →
      accessible db tool.id auth = true ∧ call.toolName = tool.name

/-- The org id or the project id of a request is not a UUID, which raises
before the invocation is created. -/
def InvokeRequest.rejected (request : InvokeRequest) : Bool :=
  (Uuid.parse request.orgId).isNone ||
    (request.projectId.filter (!·.isEmpty)).any fun text =>
      (Uuid.parse text).isNone

namespace TenantIsolation

/-- Every backend call of a request that is not rejected is for the tool name
of the request. -/
def contract (request : InvokeRequest) : Contract effects Unit where
  observe := fun _ _ => ()
  assume := fun _ _ => True
  guarantee := fun _ event => ∀ call, event.op = .route call →
    call.toolName = request.toolName ∧ request.rejected = false

variable {request : InvokeRequest}

theorem meets_perform {op : Op} {post : Except Exc op.Answer → Unit → Prop}
    (other : op.isRoute = false) (ends : ∀ result, post result ()) :
    (perform op).Meets (contract request) () post := by
  apply Program.meets_call
  intro outcome _
  refine ⟨?_, ends _⟩
  rintro call rfl
  cases other

/-- What `prepare` hands on. -/
def Prepared (request : InvokeRequest) : Except Exc Job → Unit → Prop
  | .ok job, _ =>
      job.ref.toolName = request.toolName ∧ request.rejected = false
  | .error _, _ => True

theorem meets_createInvocation (serverType : ServerType) :
    (createInvocation request serverType).Meets (contract request) ()
      fun result _ => result.isOk = true → request.rejected = false := by
  have inserted : ∀ invocation : MCPInvocation, request.rejected = false →
      Program.Meets (contract request) (do
        perform (.add invocation)
        perform .commit
        perform .refresh) () fun result _ =>
          result.isOk = true → request.rejected = false := by
    intro invocation accepted
    apply Program.meets_bind.mpr
    apply meets_perform rfl
    intro added
    cases added with
    | error exc => exact fun _ => accepted
    | ok _ =>
        apply Program.meets_bind.mpr
        apply meets_perform rfl
        intro committed
        cases committed with
        | error exc => exact fun _ => accepted
        | ok _ => exact meets_perform rfl fun _ _ => accepted
  apply Program.meets_bind.mpr
  unfold uuidOf
  split
  · next orgId parsedOrg =>
      split
      · next text inContext =>
          apply Program.meets_bind.mpr
          apply Program.meets_bind.mpr
          split
          · next projectId parsedProject =>
              apply inserted
              simp [InvokeRequest.rejected, parsedOrg, inContext, parsedProject]
          · exact fun isOk => nomatch isOk
      · next noContext =>
          apply inserted
          simp [InvokeRequest.rejected, parsedOrg, noContext]
  · exact fun isOk => nomatch isOk

theorem meets_prepare :
    (prepare request).Meets (contract request) () (Prepared request) := by
  have created : ∀ (routing : RoutingInfo) (job : Uuid → Job),
      (∀ id, (job id).ref.toolName = request.toolName) →
      Program.Meets (contract request) (do
        let id ← createInvocation request routing.serverType
        return job id) () (Prepared request) := by
    intro routing job sameName
    apply Program.meets_bind.mpr
    refine (meets_createInvocation routing.serverType).mono ?_
    intro result s accepted
    cases result with
    | error exc => trivial
    | ok id => exact ⟨sameName id, accepted rfl⟩
  apply Program.meets_bind.mpr
  unfold resolveToolRouting
  split
  · exact created _ _ fun _ => rfl
  · apply Program.meets_bind.mpr
    apply meets_perform rfl
    intro result
    cases result with
    | error exc => trivial
    | ok found =>
        dsimp only [Program.andThen]
        split <;> exact created _ _ fun _ => rfl

theorem meets_run {job : Job} (sameName : job.ref.toolName = request.toolName)
    (accepted : request.rejected = false) :
    (run job).Meets (contract request) () fun _ _ => True := by
  have unrouted : ∀ {op : Op} (outcome : Outcome effects op),
      op.isRoute = false → (contract request).guarantee () ⟨op, outcome⟩ := by
    rintro op outcome other call rfl
    cases other
  apply Point.meets_run fun _ _ => True
  · exact ⟨unrouted _ rfl, trivial⟩
  · exact fun _ _ _ => ⟨unrouted _ rfl, trivial⟩
  · exact fun _ => ⟨unrouted _ rfl, rfl⟩
  · intro point _ _
    cases point with
    | routing turn =>
        intro outcome _
        refine ⟨?_, trivial⟩
        rintro call ⟨⟩
        exact ⟨sameName, accepted⟩
    | executing write => exact fun outcome _ => ⟨unrouted outcome rfl, trivial⟩
    | committing write => exact fun outcome _ => ⟨unrouted outcome rfl, trivial⟩
    | serialising message =>
        exact fun outcome _ => ⟨unrouted outcome rfl, trivial⟩
    | sending message => exact fun outcome _ => ⟨unrouted outcome rfl, trivial⟩
    | asking turn => exact fun outcome _ => ⟨unrouted outcome rfl, trivial⟩
    | sleeping turn lastError =>
        exact fun outcome _ => ⟨unrouted outcome rfl, trivial⟩
    | ended result => trivial

theorem meets_cleanup {α : Type} {program : Run α} {cleanup : Run Unit}
    (meets : program.Meets (contract request) () fun _ _ => True)
    (cleans : cleanup.Meets (contract request) () fun _ _ => True) :
    (program.tryFinally cleanup).Meets (contract request) () fun _ _ => True := by
  apply Program.meets_tryFinally
  refine meets.mono ?_
  intro result _ _
  refine cleans.mono ?_
  intro ended _ _
  cases result <;> cases ended <;> trivial

theorem meets_invoke :
    (invoke request).Meets (contract request) () fun _ _ => True := by
  apply Program.meets_bind.mpr
  refine meets_prepare.mono ?_
  intro result _ holds
  cases result with
  | error exc => trivial
  | ok job =>
      apply Program.meets_bind.mpr
      apply meets_perform rfl
      intro registered
      cases registered with
      | error exc => trivial
      | ok _ =>
          exact meets_cleanup (meets_run holds.1 holds.2)
            (meets_perform rfl fun _ => trivial)

theorem meets_invokeAsync :
    (invokeAsync request).Meets (contract request) () fun _ _ => True := by
  apply Program.meets_bind.mpr
  refine meets_prepare.mono ?_
  intro result _ holds
  cases result with
  | error exc => trivial
  | ok job =>
      apply Program.meets_bind.mpr
      apply meets_perform rfl
      intro registered
      cases registered with
      | error exc => trivial
      | ok _ =>
          apply meets_cleanup
          · apply Program.meets_tryCatch.mpr
            apply Program.meets_bind.mpr
            have closes : (perform .closeSession).Meets (contract request) ()
                fun _ _ => True := meets_perform rfl fun _ => trivial
            refine (meets_cleanup (meets_run holds.1 holds.2) closes).mono ?_
            intro ended _ _
            cases ended with
            | ok value => trivial
            | error exc =>
                change Program.Meets (contract request)
                  (if exc.isException = true then pure () else throw exc) () _
                split <;> trivial
          · exact meets_perform rfl fun _ => trivial

/-- What every backend call of either endpoint tells. -/
theorem routed (environment : Environment effects) (body : ExecuteRequest)
    (auth : AuthContext) (endpoint : Endpoint) :
    ∀ event ∈ endpoint.events environment body auth, ∀ call,
      event.op = .route call → call.toolName = body.toolName ∧
        (body.invokeRequest auth).rejected = false := by
  have assumed : ∀ events, EachStep
      (contract (body.invokeRequest auth)).observe
      (contract (body.invokeRequest auth)).assume () events :=
    fun _ _ _ _ _ => trivial
  have each : EachStep (contract (body.invokeRequest auth)).observe
      (contract (body.invokeRequest auth)).guarantee ()
      (endpoint.events environment body auth) := by
    cases endpoint with
    | execute => exact (meets_invoke.sound environment (assumed _)).1
    | executeAsync => exact (meets_invokeAsync.sound environment (assumed _)).1
  intro event member
  obtain ⟨before, after, equal⟩ := List.append_of_mem member
  exact each before event after equal

/-! ## A request that is not rejected reaches its tool's server -/

section Undisturbed

variable (id : Uuid) (tools : Uuid → Option (MCPTool × Option MCPServer))
  (result : Value) {toolId : Uuid} {tool : MCPTool} {server : MCPServer}

theorem resolve_undisturbed (found : tools toolId = some (tool, some server)) :
    (resolveToolRouting (some toolId)).run (undisturbed id tools result) [] =
      ([⟨.selectTool toolId, .returned (tools toolId)⟩],
        .ok ⟨server.serverType, server.endpointUrl, some server.config⟩) := by
  simp [resolveToolRouting, perform, Program.call, undisturbed, Program.run,
    bind, Program.bind, pure, found]

theorem create_undisturbed (serverType : ServerType) (history : List RunEvent)
    (accepted : request.rejected = false) :
    ∃ events, (createInvocation request serverType).run
      (undisturbed id tools result) history = (events, .ok id) := by
  simp only [InvokeRequest.rejected, Bool.or_eq_false_iff] at accepted
  obtain ⟨orgAccepted, projectAccepted⟩ := accepted
  cases parsedOrg : Uuid.parse request.orgId with
  | none => simp [parsedOrg] at orgAccepted
  | some orgId =>
      cases inContext : request.projectId.filter (!·.isEmpty) with
      | none =>
          simp [createInvocation, uuidOf, parsedOrg, inContext, perform,
            Program.call, undisturbed, Program.run, bind, Program.bind, pure]
      | some text =>
          cases parsedProject : Uuid.parse text with
          | none => simp [inContext, parsedProject] at projectAccepted
          | some projectId =>
              simp [createInvocation, uuidOf, parsedOrg, inContext,
                parsedProject, perform, Program.call, undisturbed, Program.run,
                bind, Program.bind, pure, Functor.map]

theorem prepare_undisturbed (named : request.toolId = some toolId)
    (found : tools toolId = some (tool, some server))
    (accepted : request.rejected = false) :
    ∃ events job, (prepare request).run (undisturbed id tools result) [] =
        (events, .ok job) ∧
      job.routeCall.IsFor server ∧ job.ref.toolName = request.toolName := by
  unfold prepare
  rw [named, Program.run_bind_ok (resolve_undisturbed id tools result found)]
  obtain ⟨events, created⟩ := create_undisturbed id tools result
    server.serverType ([] ++ [⟨.selectTool toolId, .returned (tools toolId)⟩])
    accepted
  rw [Program.run_bind_ok created]
  exact ⟨_, _, rfl, ⟨rfl, rfl, rfl⟩, rfl⟩

/-- The backend call of an invocation in undisturbed surroundings. -/
theorem routes_undisturbed (job : Job) (history : List RunEvent) :
    ∃ event ∈ (Program.run (undisturbed id tools result) (do
        perform (.register job.invocationId)
        (run job).tryFinally (perform (.unregister job.invocationId)))
      history).1, event.op = .route job.routeCall := by
  refine ⟨⟨.route job.routeCall, .returned result⟩, ?_, rfl⟩
  exact List.mem_of_getElem? (i := 7) rfl

theorem invoke_routes_undisturbed (named : request.toolId = some toolId)
    (found : tools toolId = some (tool, some server))
    (accepted : request.rejected = false) :
    ∃ event ∈ (invoke request).trace (undisturbed id tools result), ∃ call,
      event.op = .route call ∧ call.IsFor server ∧
        call.toolName = request.toolName := by
  obtain ⟨events, job, prepared, isFor, sameName⟩ :=
    prepare_undisturbed id tools result named found accepted
  obtain ⟨event, member, isRoute⟩ :=
    routes_undisturbed id tools result job events
  refine ⟨event, ?_, job.routeCall, isRoute, isFor, sameName⟩
  unfold invoke Program.trace
  rw [Program.run_bind_ok prepared]
  exact List.mem_append_right events member

end Undisturbed

end TenantIsolation

def exampleExecute : ExecuteRequest where
  toolName := "forecast"
  toolId := some exampleTool.id

end GrafuxMcp.Execution
