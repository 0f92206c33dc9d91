import GrafuxMcp.Execution.RunPoints

/-! # A tool that succeeded is not run again

The handlers of the retry loop cannot tell a failed backend call from a failed
write of its result: both are retried when the error looks transient.
-/

namespace GrafuxMcp.Execution

open GrafuxMcp

/-- The backend calls of a run so far, whether one returned a result, and the
status of the latest statement. -/
structure RouteLog where
  calls : Nat
  succeeded : Bool
  writing : Option InvocationStatus

namespace RouteLog

def empty : RouteLog := ⟨0, false, none⟩

def observe (log : RouteLog) (event : RunEvent) : RouteLog :=
  match event.op with
  | .route _ =>
      { log with
        calls := log.calls + 1
        succeeded := log.succeeded || event.outcome.exception?.isNone }
  | .execute update => { log with writing := some update.status }
  | _ => log

end RouteLog

/-- No backend call starts once one has returned a result. -/
def NoRerun (log : RouteLog) (event : RunEvent) : Prop :=
  event.op.isRoute = true → log.succeeded = false

/-- The calls that record a result: the DONE statement, its commit and the
serialisation of the result event. -/
def RecordsResult (log : RouteLog) : Op → Bool
  | .execute update => decide (update.status = .done)
  | .commit => decide (log.writing = some .done)
  | .dumps event => decide (event.type = .result)
  | _ => false

/-- While a retry is left, recording a result does not fail with an error that
looks transient. -/
def RecordedUnlessFatal (log : RouteLog) (event : RunEvent) : Prop :=
  log.calls ≤ maxRetries → RecordsResult log event.op = true →
    ∀ exc ∈ event.outcome.exception?, isTransient exc = false

instance (log : RouteLog) (event : RunEvent) : Decidable (NoRerun log event) :=
  inferInstanceAs (Decidable (_ → _))

instance (log : RouteLog) (event : RunEvent) :
    Decidable (RecordedUnlessFatal log event) :=
  inferInstanceAs (Decidable (_ → _ → ∀ _ ∈ _, _))

namespace SingleExecution

def contract : Contract effects RouteLog where
  observe := RouteLog.observe
  assume := RecordedUnlessFatal
  guarantee := NoRerun

/-- The attempts still to come are the next numbers. -/
def InOrder (turn : Turn) : Prop :=
  turn.rest = List.range' (turn.attempt + 1) (maxRetries - turn.attempt)

/-- Every earlier attempt has called the backend and none has a result. -/
def Trying (turn : Turn) (log : RouteLog) : Prop :=
  InOrder turn ∧ log.calls = turn.attempt ∧ log.succeeded = false

/-- The attempt has called the backend too and has no result either. -/
def Tried (turn : Turn) (log : RouteLog) : Prop :=
  InOrder turn ∧ log.calls = turn.attempt + 1 ∧ log.succeeded = false

/-- The calls made at each point. Nothing is said where no call can follow. -/
def assertion : Point → RouteLog → Prop
  | .executing .running, log | .committing .running, log
  | .serialising .started, log | .sending .started, log =>
      log.calls = 0 ∧ log.succeeded = false
  | .executing (.done turn _), log => log.calls = turn.attempt + 1
  | .committing (.done turn _), log =>
      log.calls = turn.attempt + 1 ∧ log.writing = some .done
  | .serialising (.result turn _), log => log.calls = turn.attempt + 1
  | .asking turn, log | .routing turn, log
  | .serialising (.retrying turn), log | .sending (.retrying turn), log =>
      Trying turn log
  | .serialising (.failure turn _ stop), log
  | .sending (.failure turn _ stop), log => stop = false → Tried turn log
  | .sleeping turn _, log => Tried turn log
  | _, _ => True

variable {log : RouteLog} {job : Job}

theorem noRerun_of_other {event : RunEvent}
    (other : event.op.isRoute = false) : NoRerun log event := by
  intro isRoute
  rw [other] at isRoute
  cases isRoute

/-- The exceptions that a pass may leave its `try` with: one that is not
retried, or one of an attempt without a result. -/
def MayHandle (turn : Turn) (exc : Exc) (log : RouteLog) : Prop :=
  exc.isCancelled = true ∨ Tried turn log ∨
    maxRetries ≤ turn.attempt ∨ isTransient exc = false

theorem assertion_handled {turn : Turn} {exc : Exc}
    (may : MayHandle turn exc log) :
    assertion (Point.handled job turn exc) log := by
  unfold Point.handled
  split
  · trivial
  · next notCancelled =>
      have cases := may.resolve_left notCancelled
      split
      · next timeout =>
          intro goesOn
          rcases cases with tried | last | fatal
          · exact tried
          · simp [last] at goesOn
          · simp [isTransient, transientErrors, timeout] at fatal
      · split
        · intro goesOn
          rcases cases with tried | last | fatal
          · exact tried
          · simp [last] at goesOn
          · simp [fatal] at goesOn
        · trivial

theorem not_retried_of_recording {turn : Turn} {event : RunEvent} {exc : Exc}
    (assumed : RecordedUnlessFatal log event)
    (records : RecordsResult log event.op = true)
    (raises : event.outcome.exception? = some exc)
    (counted : log.calls = turn.attempt + 1) :
    maxRetries ≤ turn.attempt ∨ isTransient exc = false := by
  rcases Nat.lt_or_ge turn.attempt maxRetries with left | last
  · exact .inr (assumed (by omega) records exc raises)
  · exact .inl last

theorem assertion_goOn {turn : Turn} (lastError : Option Exc)
    (tried : Tried turn log) :
    assertion (Point.goOn lastError turn.rest) log := by
  obtain ⟨inOrder, counted, failed⟩ := tried
  rw [inOrder]
  cases left : maxRetries - turn.attempt with
  | zero => trivial
  | succ later =>
      rw [List.range'_succ]
      refine ⟨?_, counted, failed⟩
      have one_less : maxRetries - (turn.attempt + 1) = later := by omega
      simp only [InOrder, one_less]

theorem assertion_sent (message : Message)
    (holds : assertion (.sending message) log) :
    assertion (Point.sent message) log := by
  cases message with
  | started => exact ⟨rfl, holds⟩
  | retrying turn => exact holds
  | failure turn lastError stop =>
      cases stop with
      | true => trivial
      | false => exact holds rfl
  | result turn value => trivial
  | completed turn value => trivial
  | error message => trivial

theorem assertion_interrupted_message (message : Message) {exc : Exc}
    (cancelled : exc.isCancelled = true) :
    assertion (Point.raised job exc message.guardedBy) log := by
  cases message with
  | retrying turn | result turn value | completed turn value =>
      exact assertion_handled (.inl cancelled)
  | started | failure turn lastError stop | error message => trivial

theorem kept (job : Job) (point : Point) (log : RouteLog)
    (holds : assertion point log) :
    Program.KeepsAssertion contract assertion (fun _ _ => True)
      (Point.next job point) log := by
  cases point with
  | executing write =>
      intro outcome assumed
      refine ⟨noRerun_of_other rfl, ?_⟩
      cases outcome with
      | returned _ =>
          cases write with
          | running => exact holds
          | done turn result => exact ⟨holds, rfl⟩
          | cancelled turn => trivial
          | failed error => trivial
      | raised exc applied possible =>
          cases write with
          | done turn result =>
              exact assertion_handled (.inr (.inr
                (not_retried_of_recording assumed rfl rfl holds)))
          | running | cancelled turn | failed error => trivial
  | committing write =>
      intro outcome assumed
      refine ⟨noRerun_of_other rfl, ?_⟩
      cases outcome with
      | returned _ =>
          cases write with
          | running => exact holds
          | done turn result => exact holds.1
          | cancelled turn => trivial
          | failed error => trivial
      | raised exc applied possible =>
          cases write with
          | done turn result =>
              have records : RecordsResult log .commit = true := by
                simp [RecordsResult, holds.2]
              exact assertion_handled (.inr (.inr
                (not_retried_of_recording assumed records rfl holds.1)))
          | running | cancelled turn | failed error => trivial
  | serialising message =>
      intro outcome assumed
      refine ⟨noRerun_of_other rfl, ?_⟩
      cases outcome with
      | returned _ => cases message <;> first | exact holds | trivial
      | raised exc applied possible =>
          cases message with
          | result turn value =>
              exact assertion_handled (.inr (.inr
                (not_retried_of_recording assumed rfl rfl holds)))
          | started | retrying turn | completed turn value
          | failure turn lastError stop | error message => cases possible
  | sending message =>
      intro outcome _
      refine ⟨noRerun_of_other rfl, ?_⟩
      cases outcome with
      | returned _ => exact assertion_sent message holds
      | raised exc applied possible =>
          change assertion (if exc.isException = true then _ else _) log
          split
          · exact assertion_sent message holds
          · next interrupt =>
              have either : exc.isException = true ∨ exc.isCancelled = true := by
                simpa [Op.mayRaise] using possible
              exact assertion_interrupted_message message
                (either.resolve_left interrupt)
  | asking turn =>
      intro outcome _
      refine ⟨noRerun_of_other rfl, ?_⟩
      cases outcome with
      | raised exc applied possible => trivial
      | returned cancelled =>
          cases cancelled with
          | true => trivial
          | false =>
              change assertion (if turn.attempt > 0 then _ else _) log
              split <;> exact holds
  | routing turn =>
      obtain ⟨inOrder, counted, failed⟩ := holds
      have countedOne : log.calls + 1 = turn.attempt + 1 := by omega
      intro outcome _
      refine ⟨fun _ => failed, ?_⟩
      cases outcome with
      | returned result => exact countedOne
      | raised exc applied possible =>
          apply assertion_handled
          refine .inr (.inl ⟨inOrder, countedOne, ?_⟩)
          simp [contract, RouteLog.observe, failed]
  | sleeping turn lastError =>
      intro outcome _
      refine ⟨noRerun_of_other rfl, ?_⟩
      cases outcome with
      | returned _ => exact assertion_goOn _ holds
      | raised exc applied possible => trivial
  | ended result => trivial

theorem meets_run (job : Job) :
    (run job).Meets contract RouteLog.empty fun _ _ => True := by
  apply Point.meets_run assertion
  · exact ⟨noRerun_of_other rfl, ⟨rfl, rfl⟩⟩
  · exact fun _ _ _ => ⟨noRerun_of_other rfl, trivial⟩
  · exact fun _ => ⟨noRerun_of_other rfl, rfl⟩
  · exact kept job

end SingleExecution

/-- In every run of `_run` in which recording a result never fails with a
transient error while a retry is left, no backend call follows one that
returned a result. -/
theorem succeeded_tool_not_rerun (job : Job)
    (environment : Environment effects)
    (recorded : EachStep RouteLog.observe RecordedUnlessFatal RouteLog.empty
      ((run job).trace environment)) :
    EachStep RouteLog.observe NoRerun RouteLog.empty
      ((run job).trace environment) :=
  ((SingleExecution.meets_run job).sound environment recorded).1

theorem succeeded_tool_not_rerun_undisturbed :
    EachStep RouteLog.observe NoRerun RouteLog.empty
      ((run exampleJob).trace
        (undisturbed exampleJob.ref.id (fun _ => none) (toolText "7"))) :=
  succeeded_tool_not_rerun exampleJob _ (by decide)

/-- The tool returns its result, the connection to the database drops while
DONE is committed, and the tool is called again. -/
theorem rerun_after_lost_commit :
    ¬ ∀ (job : Job) (environment : Environment effects),
      EachStep RouteLog.observe NoRerun RouteLog.empty
        ((run job).trace environment) := by
  intro always
  have rerun := always exampleJob
    (raisingAt (fun history op => op.writesRow &&
        (history.foldl RouteLog.observe RouteLog.empty).writing == some .done)
      ⟨.ConnectionError, "connection is closed"⟩
      (undisturbed exampleJob.ref.id (fun _ => none) (toolText "7")))
  revert rerun
  decide

end GrafuxMcp.Execution
