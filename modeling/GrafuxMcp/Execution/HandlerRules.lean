import GrafuxMcp.Execution.ExecutionService
import GrafuxMcp.Foundation.AllRuns

/-! # Rules for the parts around a run

What `invoke` and the background task keep, from what their operations keep. -/

namespace GrafuxMcp.Execution

open GrafuxMcp Program

variable {σ : Type} {contract : Contract effects σ} {waiting settled : σ → Prop}

theorem keeps_uuidOf (text : Text) : Keeps contract waiting (uuidOf text) := by
  unfold uuidOf
  cases Uuid.parse text with
  | some uuid => exact keeps_pure _
  | none => exact keeps_throw _

/-- The operations before the registration keep what they find. -/
theorem keeps_prepare (request : InvokeRequest)
    (selected : ∀ toolId, Keeps contract waiting (perform (.selectTool toolId)))
    (added : ∀ invocation : MCPInvocation, invocation.status = .pending →
      Keeps contract waiting (perform (.add invocation)))
    (committed : Keeps contract waiting (perform .commit))
    (refreshed : Keeps contract waiting (perform .refresh)) :
    Keeps contract waiting (prepare request) := by
  have inserted : ∀ invocation : MCPInvocation, invocation.status = .pending →
      Keeps contract waiting (do
        perform (.add invocation)
        perform .commit
        perform .refresh) := by
    intro invocation pending
    apply keeps_bind (added invocation pending)
    intro _
    exact keeps_bind committed fun _ => refreshed
  have created : ∀ serverType, Keeps contract waiting (createInvocation request serverType) := by
    intro serverType
    apply keeps_bind (keeps_uuidOf _)
    intro orgId
    cases request.projectId.filter (!·.isEmpty) with
    | none => exact keeps_bind (keeps_pure _) fun _ => inserted _ rfl
    | some text =>
        apply keeps_bind (keeps_bind (keeps_uuidOf text) fun _ => keeps_pure _)
        exact fun _ => inserted _ rfl
  have routed : Keeps contract waiting (resolveToolRouting request.toolId) := by
    unfold resolveToolRouting
    cases request.toolId with
    | none => exact keeps_pure _
    | some toolId =>
        apply keeps_bind (selected toolId)
        intro found
        split
        · exact keeps_pure _
        · exact keeps_pure _
  apply keeps_bind routed
  intro routing
  exact keeps_bind (created _) fun _ => keeps_pure _

theorem meets_finally {program : Run α} {cleanup : Run Unit} {s : σ}
    (body : program.Meets contract s fun _ => settled)
    (cleaned : Keeps contract settled cleanup) :
    (program.tryFinally cleanup).Meets contract s fun _ => settled := by
  apply meets_tryFinally
  refine body.mono ?_
  intro result s holds
  refine (cleaned s holds).mono ?_
  intro ended s holds
  cases result <;> cases ended <;> exact holds

/-- A run is settled when it ends, and giving up what it holds keeps it so. -/
theorem meets_runBackground {job : Job} {s : σ}
    (runs : (do
      perform (.register job.invocationId)
      run job).Meets contract s fun _ => settled)
    (closed : Keeps contract settled (perform .closeSession))
    (unregistered : Keeps contract settled (perform (.unregister job.invocationId))) :
    (runBackground job).Meets contract s fun _ => settled := by
  refine meets_bind.mpr ((meets_bind.mp runs).mono ?_)
  intro result s holds
  cases result with
  | error exc => exact holds
  | ok _ =>
      apply meets_finally _ unregistered
      apply meets_tryCatch.mpr
      apply meets_bind.mpr
      refine (meets_finally holds closed).mono ?_
      intro result s holds
      cases result with
      | ok _ => exact holds
      | error exc =>
          change Program.Meets contract
            (if exc.isException = true then pure () else throw exc) s _
          split <;> exact holds

theorem meets_invoke {request : InvokeRequest} {s : σ}
    (prepared : (prepare request).Meets contract s fun result s =>
      match result with
      | .ok job => (do
          perform (.register job.invocationId)
          run job).Meets contract s fun _ => settled
      | .error _ => settled s)
    (unregistered : ∀ key, Keeps contract settled (perform (.unregister key))) :
    (invoke request).Meets contract s fun _ => settled := by
  refine meets_bind.mpr (prepared.mono ?_)
  intro result s holds
  cases result with
  | error exc => exact holds
  | ok job =>
      refine meets_bind.mpr ((meets_bind.mp holds).mono ?_)
      intro result s holds
      cases result with
      | error exc => exact holds
      | ok _ => exact meets_finally holds (unregistered _)

theorem meets_invokeAsync {request : InvokeRequest} {s : σ}
    (prepared : (prepare request).Meets contract s fun result s =>
      match result with
      | .ok job => (do
          perform (.register job.invocationId)
          run job).Meets contract s fun _ => settled
      | .error _ => settled s)
    (closed : Keeps contract settled (perform .closeSession))
    (unregistered : ∀ key, Keeps contract settled (perform (.unregister key))) :
    (invokeAsync request).Meets contract s fun _ => settled := by
  refine meets_bind.mpr (prepared.mono ?_)
  intro result s holds
  cases result with
  | error exc => exact holds
  | ok job => exact meets_runBackground holds closed (unregistered _)

end GrafuxMcp.Execution
