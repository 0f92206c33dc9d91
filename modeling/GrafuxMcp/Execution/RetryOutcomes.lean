import GrafuxMcp.Execution.ExecutionService
import GrafuxMcp.Foundation.AllRuns

/-! # Outcomes of the retry loop

What becomes of an invocation whose surroundings work: the outcomes of the tool
calls decide how often the tool is called and what the row, the final event and
the caller are told. -/

namespace GrafuxMcp.Execution

open GrafuxMcp Program

/-- How a call of `execution_router.route` ends. -/
inductive RouteOutcome
  | result (value : Value)
  | error (exc : Exc) (isException : exc.isException = true)

namespace RouteOutcome

def isTransient : RouteOutcome → Bool
  | .result _ => false
  | .error exc _ => Execution.isTransient exc

def ended : RouteOutcome → Except Exc Value
  | .result value => .ok value
  | .error exc _ => .error exc

end RouteOutcome

/-- The call whose outcome decides: the first one with a result or a deterministic
error, or the last one that the retries allow. -/
def decisive (outcomes : Nat → RouteOutcome) (attempts : List Nat) : Nat :=
  (attempts.find? fun attempt => !(outcomes attempt).isTransient).getD maxRetries

def routeCalls (outcomes : Nat → RouteOutcome) : Nat :=
  decisive outcomes (List.range (maxRetries + 1)) + 1

/-- The exception that the loop keeps of a failed call. -/
def lastErrorOf (job : Job) (exc : Exc) : Exc :=
  if exc.isinstance .TimeoutError then timedOut job else exc

/-! ### What is recorded -/

/-- The columns of the invocation row that a run writes. -/
structure Columns where
  status : InvocationStatus
  output : Option Value := none
  errorMessage : Option String := none

def Columns.set (columns : Columns) (update : InvocationUpdate) : Columns where
  status := update.status
  output := update.output.or columns.output
  errorMessage := update.errorMessage.or columns.errorMessage

structure Record where
  row : Columns := { status := .pending }
  /-- The row with the statements of the open transaction. -/
  uncommitted : Columns := { status := .pending }
  calls : Nat := 0
  finals : List BusEvent := []

def Record.observe (record : Record) (event : RunEvent) : Record :=
  match event.op with
  | .execute update => { record with uncommitted := record.uncommitted.set update }
  | .commit => { record with row := record.uncommitted }
  | .route _ => { record with calls := record.calls + 1 }
  | .publish _ payload =>
      if payload.final then { record with finals := record.finals ++ [payload] } else record
  | _ => record

/-- The surroundings work, nobody cancels, and the calls of the tool end as given. -/
def Works (outcomes : Nat → RouteOutcome) (record : Record) : RunEvent → Prop
  | ⟨.route _, outcome⟩ => outcome.result = (outcomes record.calls).ended
  | ⟨.isSet, outcome⟩ => outcome = .returned false
  | ⟨_, outcome⟩ => outcome.exception? = none

def working (outcomes : Nat → RouteOutcome) : Contract effects Record where
  observe := Record.observe
  assume := Works outcomes
  guarantee record event := event.op.isRoute = true → record.row.status = .running

/-! ### Parts of a run -/

section Parts

variable {outcomes : Nat → RouteOutcome} {record : Record} {job : Job}

/-- An operation that is neither a check for cancellation nor a call of the tool. -/
theorem ends_perform {op : Op} {answer : op.Answer} {last : Record}
    (only : ∀ other : op.Answer, other = answer)
    (works : ∀ outcome : Outcome effects op,
      Works outcomes record ⟨op, outcome⟩ → outcome.exception? = none)
    (observed : ∀ outcome : Outcome effects op, record.observe ⟨op, outcome⟩ = last)
    (notRoute : op.isRoute = false) :
    Ends (working outcomes) record (perform op) (.ok answer) last := by
  apply ends_call
  · intro outcome _ isRoute
    rw [notRoute] at isRoute
    cases isRoute
  · intro outcome assumed
    refine ⟨?_, observed outcome⟩
    have quiet := works outcome assumed
    cases outcome with
    | returned other =>
        rw [only other]
        rfl
    | raised _ _ _ => cases quiet

theorem ends_publish (invocationId : Text) (type : EventType) (data : EventData)
    (isFinal : Bool) :
    Ends (working outcomes) record (publish invocationId type data isFinal) (.ok ())
      (record.observe ⟨.publish (invocationEvents invocationId) ⟨type, data, isFinal⟩,
        .returned ()⟩) := by
  have dumped : Ends (working outcomes) record (perform (.dumps ⟨type, data, isFinal⟩))
      (.ok ()) record := ends_perform (fun _ => rfl) (fun _ works => works) (fun _ => rfl) rfl
  apply dumped.bind
  apply Ends.catch_ok
  exact ends_perform (fun _ => rfl) (fun _ works => works) (fun _ => rfl) rfl

theorem ends_publishLog (invocationId : Text) (level : LogLevel) (message : String) :
    Ends (working outcomes) record (publishLog invocationId level message) (.ok ()) record :=
  ends_publish invocationId .log (.log level message) false

theorem ends_writeStatus (update : InvocationUpdate) :
    Ends (working outcomes) record (writeStatus update) (.ok ())
      { record with row := record.uncommitted.set update, uncommitted := record.uncommitted.set update } := by
  have executed : Ends (working outcomes) record (perform (.execute update)) (.ok ())
      { record with uncommitted := record.uncommitted.set update } :=
    ends_perform (fun _ => rfl) (fun _ works => works) (fun _ => rfl) rfl
  exact executed.bind (ends_perform (fun _ => rfl) (fun _ works => works) (fun _ => rfl) rfl)

theorem ends_isSet : Ends (working outcomes) record isSet (.ok false) record := by
  apply ends_call
  · intro outcome _ isRoute
    cases isRoute
  · rintro outcome rfl
    exact ⟨rfl, rfl⟩

theorem ends_route (call : RouteCall) (running : record.row.status = .running) :
    Ends (working outcomes) record (route call) (outcomes record.calls).ended
      { record with calls := record.calls + 1 } := by
  apply ends_call
  · exact fun _ _ _ => running
  · exact fun _ works => ⟨works, rfl⟩

end Parts

/-! ### The loop -/

/-- The record of a run that has called the tool `calls` times and goes on. -/
def goingOn (calls : Nat) : Record where
  row := { status := .running }
  uncommitted := { status := .running }
  calls := calls

def doneWith (calls : Nat) (value : Value) : Record where
  row := { status := .done, output := some value }
  uncommitted := { status := .done, output := some value }
  calls := calls
  finals := [⟨.result, .result value, true⟩]

def failedWith (calls : Nat) (message : String) : Record where
  row := { status := .failed, errorMessage := some message }
  uncommitted := { status := .failed, errorMessage := some message }
  calls := calls
  finals := [⟨.error, .error message, true⟩]

/-- The record after a decisive call. -/
def recordAfter (job : Job) (calls : Nat) : RouteOutcome → Record
  | .result value => doneWith calls value
  | .error exc _ => failedWith calls (lastErrorOf job exc).message

/-- What the run returns after a decisive call. -/
def answerAfter (job : Job) : RouteOutcome → Value
  | .result value => value
  | .error exc _ => toolError (lastErrorOf job exc).message

section Loop

variable {outcomes : Nat → RouteOutcome} {job : Job} {attempt : Nat}

theorem isTransient_of_timeout {exc : Exc} (timeout : exc.isinstance .TimeoutError = true) :
    isTransient exc = true := by
  simp [isTransient, transientErrors, timeout]

theorem not_isCancelled_of_isException {exc : Exc} (isException : exc.isException = true) :
    exc.isCancelled = false := by
  cases cancelled : exc.isCancelled with
  | false => rfl
  | true =>
      rw [Exc.not_isException_of_isCancelled cancelled] at isException
      cases isException

theorem ends_finishFailed (lastError : Exc) (calls : Nat) :
    Ends (working outcomes) (goingOn calls) (finishFailed job (some lastError))
      (.ok (toolError lastError.message)) (failedWith calls lastError.message) := by
  apply (ends_writeStatus _).bind
  apply (ends_publish _ _ _ _).bind
  exact ends_pure _

theorem ends_retryAfter (lastError : Exc) (stop : Bool) (calls : Nat) :
    Ends (working outcomes) (goingOn calls) (retryAfter job attempt lastError stop)
      (.ok (if stop then .broke lastError else .next lastError)) (goingOn calls) := by
  apply (ends_publishLog _ _ _).bind
  cases stop with
  | true => exact ends_pure _
  | false =>
      have slept : Ends (working outcomes) (goingOn calls) (perform (.sleep attempt)) (.ok ())
          (goingOn calls) := ends_perform (fun _ => rfl) (fun _ works => works) (fun _ => rfl) rfl
      exact slept.bind (ends_pure _)

theorem ends_attemptHandler {exc : Exc} (isException : exc.isException = true) (calls : Nat) :
    Ends (working outcomes) (goingOn calls) (attemptHandler job attempt exc)
      (.ok (if attempt ≥ maxRetries || !isTransient exc then .broke (lastErrorOf job exc)
        else .next (lastErrorOf job exc))) (goingOn calls) := by
  have notCancelled := not_isCancelled_of_isException isException
  unfold attemptHandler lastErrorOf
  simp only [notCancelled, Bool.false_eq_true, if_false]
  cases timeout : exc.isinstance .TimeoutError with
  | true =>
      simp only [if_true, isTransient_of_timeout timeout, Bool.not_true, Bool.or_false]
      exact ends_retryAfter _ _ calls
  | false =>
      simp only [Bool.false_eq_true, if_false, isException, if_true]
      exact ends_retryAfter _ _ calls

/-- An attempt up to the call of the tool. -/
theorem ends_attemptBody {result : Except Exc Pass} {last : Record}
    (rest : Ends (working outcomes) (goingOn attempt) (do
      let result ← route job.routeCall
      markDone job.ref result
      publishResult job.invocationId result
      auditLog job.invocationId .info "Tool completed successfully"
      return .returned result) result last) :
    Ends (working outcomes) (goingOn attempt) (attemptBody job attempt) result last := by
  unfold attemptBody
  cases attempt with
  | zero => exact rest
  | succ attempt => exact (ends_publishLog _ _ _).bind rest

theorem ends_runAttempt_result {value : Value} (decided : outcomes attempt = .result value) :
    Ends (working outcomes) (goingOn attempt) (runAttempt job attempt)
      (.ok (.returned value)) (doneWith (attempt + 1) value) := by
  apply ends_isSet.bind
  apply Ends.catch_ok
  apply ends_attemptBody
  have called : Ends (working outcomes) (goingOn attempt) (route job.routeCall) (.ok value)
      (goingOn (attempt + 1)) := by
    have ended : Ends (working outcomes) (goingOn attempt) (route job.routeCall)
        (outcomes attempt).ended (goingOn (attempt + 1)) := ends_route _ rfl
    rwa [decided] at ended
  apply called.bind
  apply (ends_writeStatus _).bind
  apply (ends_publish _ _ _ _).bind
  apply (ends_publishLog _ _ _).bind
  exact ends_pure _

theorem ends_runAttempt_error {exc : Exc} {isException : exc.isException = true}
    (failed : outcomes attempt = .error exc isException) :
    Ends (working outcomes) (goingOn attempt) (runAttempt job attempt)
      (.ok (if attempt ≥ maxRetries || !isTransient exc then .broke (lastErrorOf job exc)
        else .next (lastErrorOf job exc))) (goingOn (attempt + 1)) := by
  apply ends_isSet.bind
  refine Ends.catch_error ?_ (ends_attemptHandler isException _)
  apply ends_attemptBody
  have called : Ends (working outcomes) (goingOn attempt) (route job.routeCall) (.error exc)
      (goingOn (attempt + 1)) := by
    have ended : Ends (working outcomes) (goingOn attempt) (route job.routeCall)
        (outcomes attempt).ended (goingOn (attempt + 1)) := ends_route _ rfl
    rwa [failed] at ended
  exact called.bind_error

theorem decisive_cons_of_not_transient {attempts : List Nat}
    (decides : (outcomes attempt).isTransient = false) :
    decisive outcomes (attempt :: attempts) = attempt := by
  simp [decisive, decides]

theorem decisive_cons_of_transient {attempts : List Nat}
    (goesOn : (outcomes attempt).isTransient = true) :
    decisive outcomes (attempt :: attempts) = decisive outcomes attempts := by
  simp [decisive, goesOn]

/-- A call that decides, because of its outcome or because it is the last one. -/
theorem ends_retryLoop_decided {attempts : List Nat} {lastError : Option Exc}
    (decides : (outcomes attempt).isTransient = false ∨ attempt = maxRetries) :
    Ends (working outcomes) (goingOn attempt) (retryLoop job (attempt :: attempts) lastError)
      (.ok (answerAfter job (outcomes attempt)))
      (recordAfter job (attempt + 1) (outcomes attempt)) := by
  unfold retryLoop
  cases outcome : outcomes attempt with
  | result value => exact (ends_runAttempt_result outcome).bind (ends_pure _)
  | error exc isException =>
      have stops : (decide (attempt ≥ maxRetries) || !isTransient exc) = true := by
        rw [outcome] at decides
        rcases decides with deterministic | last
        · have permanent : isTransient exc = false := deterministic
          simp [permanent]
        · simp [last]
      have broke : Ends (working outcomes) (goingOn attempt) (runAttempt job attempt)
          (.ok (if _ then _ else _)) (goingOn (attempt + 1)) := ends_runAttempt_error outcome
      rw [stops] at broke
      exact broke.bind (ends_finishFailed _ _)

theorem ends_retryLoop (remaining : Nat) (sum : attempt + remaining = maxRetries)
    (lastError : Option Exc) :
    let last := decisive outcomes (List.range' attempt (remaining + 1))
    Ends (working outcomes) (goingOn attempt)
      (retryLoop job (List.range' attempt (remaining + 1)) lastError)
      (.ok (answerAfter job (outcomes last))) (recordAfter job (last + 1) (outcomes last)) := by
  induction remaining generalizing attempt lastError with
  | zero =>
      have last : decisive outcomes (List.range' attempt 1) = attempt := by
        have bound : maxRetries = attempt := sum.symm
        cases transient : (outcomes attempt).isTransient with
        | false => exact decisive_cons_of_not_transient transient
        | true =>
            rw [List.range'_one, decisive_cons_of_transient transient]
            exact bound
      simp only [last]
      exact ends_retryLoop_decided (Or.inr sum)
  | succ remaining induction =>
      rw [List.range'_succ]
      cases transient : (outcomes attempt).isTransient with
      | false =>
          simp only [decisive_cons_of_not_transient transient]
          exact ends_retryLoop_decided (Or.inl transient)
      | true =>
          simp only [decisive_cons_of_transient transient]
          cases outcome : outcomes attempt with
          | result value =>
              rw [outcome] at transient
              cases transient
          | error exc isException =>
              rw [outcome] at transient
              have early : decide (attempt ≥ maxRetries) = false := by
                simp only [decide_eq_false_iff_not]
                omega
              have next : Ends (working outcomes) (goingOn attempt) (runAttempt job attempt)
                  (.ok (if _ then _ else _)) (goingOn (attempt + 1)) :=
                ends_runAttempt_error outcome
              have again : isTransient exc = true := transient
              simp only [early, again, Bool.not_true, Bool.or_self, Bool.false_eq_true,
                if_false] at next
              have sum' : attempt + 1 + remaining = maxRetries := by omega
              exact next.bind (induction sum' _)

/-- A whole run, from the row as it was created. -/
theorem ends_run :
    let last := decisive outcomes (List.range (maxRetries + 1))
    Ends (working outcomes) {} (run job) (.ok (answerAfter job (outcomes last)))
      (recordAfter job (last + 1) (outcomes last)) := by
  have acquired : Ends (working outcomes) {} (perform .acquire) (.ok ()) {} :=
    ends_perform (fun _ => rfl) (fun _ works => works) (fun _ => rfl) rfl
  have loop : let last := decisive outcomes (List.range' 0 (maxRetries + 1))
      Ends (working outcomes) (goingOn 0) (retryLoop job (List.range' 0 (maxRetries + 1)) none)
        (.ok (answerAfter job (outcomes last))) (recordAfter job (last + 1) (outcomes last)) :=
    ends_retryLoop maxRetries (Nat.zero_add _) none
  rw [← List.range_eq_range'] at loop
  apply acquired.bind
  apply Ends.finally_ok
  · apply (ends_writeStatus _).bind
    apply (ends_publishLog _ _ _).bind
    exact loop
  · exact ends_perform (fun _ => rfl) (fun _ works => works) (fun _ => rfl) rfl

end Loop

/-! ### Every run -/

/-- The tool is called as often as its outcomes demand, each time with the row
RUNNING, and the row, the only final event and the returned value say the same. -/
structure Agreement (job : Job) (outcomes : Nat → RouteOutcome) (trace : List RunEvent)
    (returned : Except Exc Value) : Prop where
  running : EachStep Record.observe
    (fun record event => event.op.isRoute = true → record.row.status = .running) {} trace
  calls : (trace.foldl Record.observe {}).calls = routeCalls outcomes
  settled : ∀ outcome, outcome = outcomes (routeCalls outcomes - 1) →
    let last := trace.foldl Record.observe {}
    match outcome with
    | .result value =>
        last.row.status = .done ∧ last.row.output = some value ∧
          last.finals = [⟨.result, .result value, true⟩] ∧ returned = .ok value
    | .error _ _ => ∃ message,
        last.row.status = .failed ∧ last.row.errorMessage = some message ∧
          last.finals = [⟨.error, .error message, true⟩] ∧ returned = .ok (toolError message)

/-- Surroundings that work, with the given outcomes of the tool calls. -/
def calling (outcomes : Nat → RouteOutcome) : Environment effects := fun history op =>
  match op with
  | .route _ =>
      match outcomes (history.foldl Record.observe {}).calls with
      | .result value => .returned value
      | .error exc _ => .raised exc true rfl
  | op => undisturbed Uuid.zero (fun _ => none) .none history op

theorem works_calling (outcomes : Nat → RouteOutcome) (history : List RunEvent) (op : Op) :
    Works outcomes (history.foldl Record.observe {}) ⟨op, calling outcomes history op⟩ := by
  cases op with
  | route call =>
      simp only [Works, calling]
      cases outcomes (history.foldl Record.observe {}).calls <;> rfl
  | _ => rfl

/-- The first call times out and the second one returns. -/
def exampleOutcomes : Nat → RouteOutcome
  | 0 => .error ⟨.TimeoutError, ""⟩ rfl
  | _ => .result (.int 7)

end GrafuxMcp.Execution
