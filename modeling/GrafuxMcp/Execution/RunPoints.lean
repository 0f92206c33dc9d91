import GrafuxMcp.Execution.ExecutionService
import GrafuxMcp.Foundation.ControlPoints

/-! # Control points of a run

The awaits of `_run` between taking and giving back the slot, and where each
outcome of each of them leads.
-/

namespace GrafuxMcp.Execution

open GrafuxMcp

/-- One pass of the retry loop and the attempts that may follow it. -/
structure Turn where
  attempt : Nat
  rest : List Nat

/-- The status writes, DONE and CANCELLED with the pass they belong to. -/
inductive Write
  | running
  | done (turn : Turn) (result : Value)
  | cancelled (turn : Turn)
  | failed (error : String)

/-- The events of a run, those of an attempt with their pass. -/
inductive Message
  | started
  | retrying (turn : Turn)
  | result (turn : Turn) (value : Value)
  | completed (turn : Turn) (value : Value)
  | failure (turn : Turn) (lastError : Exc) (stop : Bool)
  | error (message : String)

inductive Point
  | executing (write : Write)
  | committing (write : Write)
  | serialising (message : Message)
  | sending (message : Message)
  | asking (turn : Turn)
  | routing (turn : Turn)
  | sleeping (turn : Turn) (lastError : Exc)
  | ended (result : Except Exc Value)

namespace Write

def update (job : Job) : Write → InvocationUpdate
  | .running => { id := job.ref.id, status := .running }
  | .done _ result =>
      { id := job.ref.id, status := .done, output := some result }
  | .cancelled _ => { id := job.ref.id, status := .cancelled }
  | .failed error =>
      { id := job.ref.id, status := .failed, errorMessage := some error }

def status : Write → InvocationStatus
  | .running => .running
  | .done _ _ => .done
  | .cancelled _ => .cancelled
  | .failed _ => .failed

@[simp] theorem status_update (job : Job) (write : Write) :
    (write.update job).status = write.status := by
  cases write <;> rfl

/-- The pass whose `try` the write is in. -/
def guardedBy : Write → Option Turn
  | .done turn _ => some turn
  | _ => none

end Write

namespace Message

def payload (job : Job) : Message → BusEvent
  | .started =>
      ⟨.log, .log .info s!"Starting tool: {job.ref.toolName}", false⟩
  | .retrying turn =>
      ⟨.log, .log .warn s!"Retry {turn.attempt}/{maxRetries}", false⟩
  | .result _ value => ⟨.result, .result value, true⟩
  | .completed _ _ => ⟨.log, .log .info "Tool completed successfully", false⟩
  | .failure _ lastError _ => ⟨.log, .log .error lastError.message, false⟩
  | .error message => ⟨.error, .error message, true⟩

/-- The pass whose `try` the publication is in. -/
def guardedBy : Message → Option Turn
  | .retrying turn | .result turn _ | .completed turn _ => some turn
  | _ => none

end Message

namespace Point

/-- Where the handlers of a pass lead. -/
def handled (job : Job) (turn : Turn) (exc : Exc) : Point :=
  if exc.isCancelled then .executing (.cancelled turn)
  else if exc.isinstance .TimeoutError then
    .serialising (.failure turn (timedOut job) (turn.attempt ≥ maxRetries))
  else if exc.isException then
    .serialising
      (.failure turn exc (turn.attempt ≥ maxRetries || !isTransient exc))
  else .ended (.error exc)

/-- An exception inside the `try` of a pass goes to its handlers, any other
leaves the run. -/
def raised (job : Job) (exc : Exc) : Option Turn → Point
  | some turn => handled job turn exc
  | none => .ended (.error exc)

def written : Write → Point
  | .running => .serialising .started
  | .done turn result => .serialising (.result turn result)
  | .cancelled _ => .ended (.ok (toolError "Invocation cancelled"))
  | .failed error => .serialising (.error error)

def giveUp (lastError : Option Exc) : Point :=
  .executing (.failed ((lastError.map (·.message)).getD "Unknown error"))

/-- The next pass, or the end of the loop. -/
def goOn (lastError : Option Exc) : List Nat → Point
  | [] => giveUp lastError
  | attempt :: rest => .asking ⟨attempt, rest⟩

def sent : Message → Point
  | .started => goOn none (List.range (maxRetries + 1))
  | .retrying turn => .routing turn
  | .result turn value => .serialising (.completed turn value)
  | .completed _ value => .ended (.ok value)
  | .failure turn lastError stop =>
      if stop then giveUp (some lastError) else .sleeping turn lastError
  | .error message => .ended (.ok (toolError message))

/-- What a run does at a point and where the outcome leads. -/
def next (job : Job) : Point → Next effects Value Point
  | .executing write =>
      .perform (I := effects) (.execute (write.update job)) fun
        | .ok _ => .committing write
        | .error exc => raised job exc write.guardedBy
  | .committing write =>
      .perform (I := effects) .commit fun
        | .ok _ => written write
        | .error exc => raised job exc write.guardedBy
  | .serialising message =>
      .perform (I := effects) (.dumps (message.payload job)) fun
        | .ok _ => .sending message
        | .error exc => raised job exc message.guardedBy
  | .sending message =>
      .perform (I := effects)
        (.publish (invocationEvents job.invocationId) (message.payload job)) fun
        | .ok _ => sent message
        | .error exc =>
            if exc.isException then sent message
            else raised job exc message.guardedBy
  | .asking turn =>
      .perform (I := effects) .isSet fun
        | .ok true => .executing (.cancelled turn)
        | .ok false =>
            if turn.attempt > 0 then .serialising (.retrying turn)
            else .routing turn
        | .error exc => .ended (.error exc)
  | .routing turn =>
      .perform (I := effects) (.route job.routeCall) fun
        | .ok result => .executing (.done turn result)
        | .error exc => handled job turn exc
  | .sleeping turn lastError =>
      .perform (I := effects) (.sleep turn.attempt) fun
        | .ok _ => goOn (some lastError) turn.rest
        | .error exc => .ended (.error exc)
  | .ended result => .ended result

/-! ## The program that is left at a point -/

/-- The rest of the loop after a pass. -/
def afterPass (job : Job) (turn : Turn) : Pass → Run Value
  | .returned result => return result
  | .broke lastError => finishFailed job (some lastError)
  | .next lastError => retryLoop job turn.rest (some lastError)

/-- The rest of a pass inside its `try`, and of the loop after it. -/
def inTry (job : Job) (turn : Turn) (body : Run Pass) : Run Value :=
  tryCatch body (attemptHandler job turn.attempt) >>= afterPass job turn

/-- The rest of a pass in its handlers or before its `try`. -/
def inPass (job : Job) (turn : Turn) (body : Run Pass) : Run Value :=
  body >>= afterPass job turn

/-- What follows a status write of which `left` is still to run. -/
def resumeWrite (job : Job) (left : Run Unit) : Write → Run Value
  | .running => do
      left
      publishLog job.invocationId .info s!"Starting tool: {job.ref.toolName}"
      retryLoop job (List.range (maxRetries + 1)) none
  | .done turn result => inTry job turn do
      left
      publishResult job.invocationId result
      auditLog job.invocationId .info "Tool completed successfully"
      return .returned result
  | .cancelled turn => inPass job turn do
      left
      return .returned (toolError "Invocation cancelled")
  | .failed error => do
      left
      publishError job.invocationId error
      return toolError error

/-- What follows a publication of which `left` is still to run. -/
def resumeMessage (job : Job) (left : Run Unit) : Message → Run Value
  | .started => do
      left
      retryLoop job (List.range (maxRetries + 1)) none
  | .retrying turn => inTry job turn do
      left
      let result ← route job.routeCall
      markDone job.ref result
      publishResult job.invocationId result
      auditLog job.invocationId .info "Tool completed successfully"
      return .returned result
  | .result turn value => inTry job turn do
      left
      auditLog job.invocationId .info "Tool completed successfully"
      return .returned value
  | .completed turn value => inTry job turn do
      left
      return .returned value
  | .failure turn lastError stop => inPass job turn do
      left
      if stop then
        return .broke lastError
      else
        perform (.sleep turn.attempt)
        return .next lastError
  | .error message => do
      left
      return toolError message

/-- The transport call of `publish` with its `except` clause. -/
def transport (job : Job) (payload : BusEvent) : Run Unit :=
  try
    perform (.publish (invocationEvents job.invocationId) payload)
  catch exc =>
    if exc.isException then pure () else throw exc

def program (job : Job) : Point → Run Value
  | .executing write =>
      resumeWrite job (writeStatus (write.update job)) write
  | .committing write => resumeWrite job (perform .commit) write
  | .serialising message =>
      resumeMessage job
        (do perform (.dumps (message.payload job))
            transport job (message.payload job))
        message
  | .sending message =>
      resumeMessage job (transport job (message.payload job)) message
  | .asking turn => inPass job turn (runAttempt job turn.attempt)
  | .routing turn => inTry job turn do
      let result ← route job.routeCall
      markDone job.ref result
      publishResult job.invocationId result
      auditLog job.invocationId .info "Tool completed successfully"
      return .returned result
  | .sleeping turn lastError => inPass job turn do
      perform (.sleep turn.attempt)
      return .next lastError
  | .ended result => Program.ofResult result

variable (job : Job)

theorem program_goOn (lastError : Option Exc) (attempts : List Nat) :
    program job (goOn lastError attempts) = retryLoop job attempts lastError := by
  cases attempts with
  | nil => rfl
  | cons attempt rest => rfl

theorem program_handled (turn : Turn) (exc : Exc) :
    program job (handled job turn exc) =
      inPass job turn (attemptHandler job turn.attempt exc) := by
  unfold handled attemptHandler
  split
  · rfl
  · split
    · rfl
    · split <;> rfl

theorem program_raised_write (write : Write) (exc : Exc) :
    program job (raised job exc write.guardedBy) =
      resumeWrite job (throw exc) write := by
  cases write with
  | running => rfl
  | done turn result => exact program_handled job turn exc
  | cancelled turn => rfl
  | failed error => rfl

theorem program_written (write : Write) :
    program job (written write) = resumeWrite job (pure ()) write := by
  cases write <;> rfl

theorem program_raised_message (message : Message) (exc : Exc) :
    program job (raised job exc message.guardedBy) =
      resumeMessage job (throw exc) message := by
  cases message with
  | retrying turn => exact program_handled job turn exc
  | result turn value => exact program_handled job turn exc
  | completed turn value => exact program_handled job turn exc
  | started => rfl
  | failure turn lastError stop => rfl
  | error message => rfl

theorem program_sent (message : Message) :
    program job (sent message) = resumeMessage job (pure ()) message := by
  cases message with
  | started => exact program_goOn job none (List.range (maxRetries + 1))
  | failure turn lastError stop => cases stop <;> rfl
  | retrying turn => rfl
  | result turn value => rfl
  | completed turn value => rfl
  | error message => rfl

theorem resumeWrite_perform (write : Write) (op : Op)
    (resume : Except Exc op.Answer → Run Unit) :
    resumeWrite job (.perform (I := effects) op resume) write =
      .perform (I := effects) op fun result =>
        resumeWrite job (resume result) write := by
  cases write <;> rfl

theorem resumeMessage_perform (message : Message) (op : Op)
    (resume : Except Exc op.Answer → Run Unit) :
    resumeMessage job (.perform (I := effects) op resume) message =
      .perform (I := effects) op fun result =>
        resumeMessage job (resume result) message := by
  cases message <;> rfl

/-- The points are those of the program. -/
theorem program_follows : Program.Follows (next job) (program job) := by
  intro point
  cases point with
  | executing write =>
      refine (resumeWrite_perform job write _ _).trans ?_
      refine congrArg (Program.perform (I := effects) _) (funext fun result => ?_)
      cases result with
      | ok _ => rfl
      | error exc => exact (program_raised_write job write exc).symm
  | committing write =>
      refine (resumeWrite_perform job write _ _).trans ?_
      refine congrArg (Program.perform (I := effects) _) (funext fun result => ?_)
      cases result with
      | ok _ => exact (program_written job write).symm
      | error exc => exact (program_raised_write job write exc).symm
  | serialising message =>
      refine (resumeMessage_perform job message _ _).trans ?_
      refine congrArg (Program.perform (I := effects) _) (funext fun result => ?_)
      cases result with
      | ok _ => rfl
      | error exc => exact (program_raised_message job message exc).symm
  | sending message =>
      refine (resumeMessage_perform job message _ _).trans ?_
      refine congrArg (Program.perform (I := effects) _) (funext fun result => ?_)
      cases result with
      | ok _ => exact (program_sent job message).symm
      | error exc =>
          change resumeMessage job
            (if exc.isException = true then pure () else throw exc) message =
              program job (if exc.isException = true then sent message
                else raised job exc message.guardedBy)
          split
          · exact (program_sent job message).symm
          · exact (program_raised_message job message exc).symm
  | asking turn =>
      refine congrArg (Program.perform (I := effects) _) (funext fun result => ?_)
      cases result with
      | error exc => rfl
      | ok cancelled =>
          cases cancelled with
          | true => rfl
          | false =>
              change inTry job turn (attemptBody job turn.attempt) =
                program job (if turn.attempt > 0 then .serialising (.retrying turn)
                  else .routing turn)
              unfold attemptBody
              split <;> rfl
  | routing turn =>
      refine congrArg (Program.perform (I := effects) _) (funext fun result => ?_)
      cases result with
      | ok value => rfl
      | error exc => exact (program_handled job turn exc).symm
  | sleeping turn lastError =>
      refine congrArg (Program.perform (I := effects) _) (funext fun result => ?_)
      cases result with
      | ok _ => exact (program_goOn job _ _).symm
      | error exc => rfl
  | ended result => rfl

/-- `_run` keeps a contract when its points keep it and giving back the slot does
not undo what is true at its end. -/
theorem meets_run_of {contract : Contract effects σ}
    {post : Except Exc Value → σ → Prop} {s : σ} {job : Job}
    (assertion : Point → σ → Prop)
    (acquired : ∀ outcome, contract.assume s ⟨.acquire, outcome⟩ →
      contract.guarantee s ⟨.acquire, outcome⟩ ∧
        match outcome with
        | .returned _ =>
            assertion (.executing .running) (contract.observe s ⟨.acquire, outcome⟩)
        | .raised exc _ _ => post (.error exc) (contract.observe s ⟨.acquire, outcome⟩))
    (released : ∀ result s, post result s → contract.assume s ⟨.release, .returned ()⟩ →
      contract.guarantee s ⟨.release, .returned ()⟩ ∧
        post result (contract.observe s ⟨.release, .returned ()⟩))
    (kept : ∀ point s, assertion point s →
      Program.KeepsAssertion contract assertion post (next job point) s) :
    (run job).Meets contract s post := by
  apply Program.meets_bind.mpr
  apply Program.meets_call
  intro outcome assumed
  have parts := acquired outcome assumed
  refine ⟨parts.1, ?_⟩
  cases outcome with
  | raised exc applied possible => exact parts.2
  | returned _ =>
      apply Program.meets_tryFinally
      have inSlot : (runInSlot job).Meets contract
          (contract.observe s ⟨.acquire, .returned ()⟩) post :=
        (program_follows job).meets kept parts.2
      refine inSlot.mono ?_
      intro result s ends
      apply Program.meets_call
      intro outcome assumed
      cases outcome with
      | returned _ =>
          have parts := released result s ends assumed
          refine ⟨parts.1, ?_⟩
          cases result <;> exact parts.2
      | raised exc applied possible => cases possible

/-- The contract cannot see the run give back its slot. -/
theorem meets_run {contract : Contract effects σ}
    {post : Except Exc Value → σ → Prop} {s : σ} {job : Job}
    (assertion : Point → σ → Prop)
    (begins : contract.guarantee s ⟨.acquire, .returned ()⟩ ∧
      assertion (.executing .running)
        (contract.observe s ⟨.acquire, .returned ()⟩))
    (interrupted : ∀ exc applied possible,
      contract.guarantee s ⟨.acquire, .raised exc applied possible⟩ ∧
        post (.error exc)
          (contract.observe s ⟨.acquire, .raised exc applied possible⟩))
    (releaseUnseen : ∀ s, contract.guarantee s ⟨.release, .returned ()⟩ ∧
      contract.observe s ⟨.release, .returned ()⟩ = s)
    (kept : ∀ point s, assertion point s →
      Program.KeepsAssertion contract assertion post (next job point) s) :
    (run job).Meets contract s post := by
  apply meets_run_of assertion
  · intro outcome _
    cases outcome with
    | returned _ => exact begins
    | raised exc applied possible => exact interrupted exc applied possible
  · intro result s ends _
    rw [(releaseUnseen s).2]
    exact ⟨(releaseUnseen s).1, ends⟩
  · exact kept

end Point

end GrafuxMcp.Execution
