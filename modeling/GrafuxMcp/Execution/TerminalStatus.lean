import GrafuxMcp.Execution.InvocationRow
import GrafuxMcp.Execution.RunPoints

/-! # A terminal status is final

Once DONE has been committed, the `try` of the retry loop still covers the
result event and the audit log, and its handlers write statuses of their own.
-/

namespace GrafuxMcp.Execution

open GrafuxMcp

/-- No step writes another status once a terminal one is committed. -/
def KeepsTerminal (row : Row) (event : RunEvent) : Prop :=
  ∀ status ∈ event.op.statusWrite?,
    row.isTerminal = true → row.status = some status

/-- From the moment DONE is committed, nothing fails in the run: not the commit
itself, not the serialisation of the result, and no cancellation arrives. -/
def UndisturbedOnceDone (row : Row) (event : RunEvent) : Prop :=
  (row.observe event).status = some .done →
    (escaping? event).isNone = true

instance (row : Row) (event : RunEvent) : Decidable (KeepsTerminal row event) :=
  inferInstanceAs (Decidable (∀ _ ∈ _, _ → _))

instance (row : Row) (event : RunEvent) :
    Decidable (UndisturbedOnceDone row event) :=
  inferInstanceAs (Decidable (_ → _))

namespace TerminalStatus

def contract : Contract effects Row where
  observe := Row.observe
  assume := UndisturbedOnceDone
  guarantee := KeepsTerminal

/-- The committed status in front of a write. -/
def before : Write → InvocationStatus
  | .running => .pending
  | _ => .running

/-- The committed status while an event is published. -/
def during : Message → InvocationStatus
  | .result _ _ | .completed _ _ => .done
  | .error _ => .failed
  | _ => .running

/-- The row at each point of an undisturbed run. -/
def assertion : Point → Row → Prop
  | .executing write, row => row.status = some (before write)
  | .committing write, row =>
      row.status = some (before write) ∧ row.pending = some write.status
  | .serialising message, row | .sending message, row =>
      row.status = some (during message)
  | .asking _, row | .routing _, row | .sleeping _ _, row =>
      row.status = some .running
  | .ended _, _ => True

variable {row : Row} {job : Job}

theorem keepsTerminal_of_open {status : InvocationStatus}
    (committed : row.status = some status) (open_ : status.isTerminal = false)
    (event : RunEvent) : KeepsTerminal row event := by
  intro _ _ terminal
  rw [Row.isTerminal, committed] at terminal
  simp [open_] at terminal

theorem keepsTerminal_of_no_write {event : RunEvent}
    (silent : event.op.statusWrite? = none) : KeepsTerminal row event := by
  intro status written
  rw [silent] at written
  cases written

theorem before_open (write : Write) : (before write).isTerminal = false := by
  cases write <;> rfl

theorem assertion_handled (turn : Turn) (exc : Exc)
    (running : row.status = some .running) :
    assertion (Point.handled job turn exc) row := by
  unfold Point.handled
  split
  · exact running
  · split
    · exact running
    · split
      · exact running
      · trivial

theorem assertion_goOn (lastError : Option Exc) (attempts : List Nat)
    (running : row.status = some .running) :
    assertion (Point.goOn lastError attempts) row := by
  cases attempts with
  | nil => exact running
  | cons attempt rest => exact running

theorem assertion_raised_write (write : Write) (exc : Exc)
    (running : write.status = .done → row.status = some .running) :
    assertion (Point.raised job exc write.guardedBy) row := by
  cases write with
  | done turn result => exact assertion_handled turn exc (running rfl)
  | running => trivial
  | cancelled turn => trivial
  | failed error => trivial

theorem assertion_raised_message (message : Message) (exc : Exc)
    (committed : row.status = some (during message))
    (notDone : row.status ≠ some .done) :
    assertion (Point.raised job exc message.guardedBy) row := by
  cases message with
  | retrying turn => exact assertion_handled turn exc committed
  | result turn value => exact absurd committed notDone
  | completed turn value => exact absurd committed notDone
  | started => trivial
  | failure turn lastError stop => trivial
  | error message => trivial

theorem assertion_written (write : Write)
    (committed : row.status = some write.status) :
    assertion (Point.written write) row := by
  cases write with
  | running => exact committed
  | done turn result => exact committed
  | cancelled turn => trivial
  | failed error => exact committed

theorem assertion_sent (message : Message)
    (committed : row.status = some (during message)) :
    assertion (Point.sent message) row := by
  cases message with
  | started => exact assertion_goOn none (List.range (maxRetries + 1)) committed
  | retrying turn => exact committed
  | result turn value => exact committed
  | completed turn value => trivial
  | failure turn lastError stop => cases stop <;> exact committed
  | error message => trivial

theorem notDone_of_escaping {event : RunEvent} (exc : Exc)
    (assumed : UndisturbedOnceDone row event)
    (escapes : escaping? event = some exc) :
    (row.observe event).status ≠ some .done := by
  intro done
  have calm := assumed done
  rw [escapes] at calm
  cases calm

theorem kept (job : Job) (point : Point) (row : Row)
    (holds : assertion point row) :
    Program.KeepsAssertion contract assertion (fun _ _ => True)
      (Point.next job point) row := by
  cases point with
  | executing write =>
      intro executed _
      have committed := (row.status_observe_execute _ executed).trans holds
      refine ⟨keepsTerminal_of_open holds (before_open write) _, ?_⟩
      cases executed with
      | returned _ => exact ⟨committed, congrArg some (write.status_update job)⟩
      | raised exc applied possible =>
          apply assertion_raised_write
          intro isDone
          cases write with
          | done turn result => exact committed
          | running | cancelled turn | failed error => cases isDone
  | committing write =>
      obtain ⟨committed, pending⟩ := holds
      intro outcome assumed
      refine ⟨keepsTerminal_of_no_write rfl, ?_⟩
      have status := row.status_observe_commit outcome
      rw [pending, committed] at status
      cases outcome with
      | returned _ => exact assertion_written write status
      | raised exc applied possible =>
          apply assertion_raised_write
          intro isDone
          have notDone := notDone_of_escaping exc assumed rfl
          cases applied with
          | true => exact absurd (status.trans (congrArg some isDone)) notDone
          | false =>
              cases write with
              | done turn result => exact status
              | running | cancelled turn | failed error => cases isDone
  | serialising message =>
      intro outcome assumed
      refine ⟨keepsTerminal_of_no_write rfl, ?_⟩
      cases outcome with
      | returned _ => exact holds
      | raised exc applied possible =>
          exact assertion_raised_message message exc holds
            (notDone_of_escaping exc assumed rfl)
  | sending message =>
      intro outcome assumed
      refine ⟨keepsTerminal_of_no_write rfl, ?_⟩
      cases outcome with
      | returned _ => exact assertion_sent message holds
      | raised exc applied possible =>
          change assertion (if exc.isException = true then _ else _) row
          split
          · exact assertion_sent message holds
          · next interrupt =>
              apply assertion_raised_message message exc holds
              exact notDone_of_escaping exc assumed
                (by simp [escaping?, interrupt])
  | asking turn =>
      intro outcome _
      refine ⟨keepsTerminal_of_no_write rfl, ?_⟩
      cases outcome with
      | raised exc applied possible => trivial
      | returned cancelled =>
          cases cancelled with
          | true => exact holds
          | false =>
              change assertion (if turn.attempt > 0 then _ else _) row
              split <;> exact holds
  | routing turn =>
      intro outcome _
      refine ⟨keepsTerminal_of_no_write rfl, ?_⟩
      cases outcome with
      | returned result => exact holds
      | raised exc applied possible => exact assertion_handled turn exc holds
  | sleeping turn lastError =>
      intro outcome _
      refine ⟨keepsTerminal_of_no_write rfl, ?_⟩
      cases outcome with
      | returned _ => exact assertion_goOn _ _ holds
      | raised exc applied possible => trivial
  | ended result => trivial

theorem meets_run (job : Job) :
    (run job).Meets contract Row.created fun _ _ => True := by
  apply Point.meets_run assertion
  · exact ⟨keepsTerminal_of_no_write rfl, rfl⟩
  · exact fun _ _ _ => ⟨keepsTerminal_of_no_write rfl, trivial⟩
  · exact fun _ => ⟨keepsTerminal_of_no_write rfl, rfl⟩
  · exact kept job

end TerminalStatus

/-- In every run of `_run` that is undisturbed once DONE is committed, a
committed terminal status is never written over. -/
theorem terminal_status_final (job : Job) (environment : Environment effects)
    (undisturbedOnceDone : EachStep Row.observe UndisturbedOnceDone Row.created
      ((run job).trace environment)) :
    EachStep Row.observe KeepsTerminal Row.created
      ((run job).trace environment) :=
  ((TerminalStatus.meets_run job).sound environment undisturbedOnceDone).1

theorem terminal_status_final_undisturbed :
    EachStep Row.observe KeepsTerminal Row.created
      ((run exampleJob).trace
        (undisturbed exampleJob.ref.id (fun _ => none) (toolText "7"))) :=
  terminal_status_final exampleJob _ (by decide)

/-- Shutdown cancels the background task while it publishes the result of an
invocation that is already DONE: the row is written CANCELLED. -/
theorem cancelled_after_done :
    ¬ ∀ (job : Job) (environment : Environment effects),
      EachStep Row.observe KeepsTerminal Row.created
        ((run job).trace environment) := by
  intro always
  have disturbed := always exampleJob
    (raisingAt (fun _ op => op.sendsResult) ⟨.CancelledError, ""⟩
      (undisturbed exampleJob.ref.id (fun _ => none) (toolText "7")))
  revert disturbed
  decide

end GrafuxMcp.Execution
