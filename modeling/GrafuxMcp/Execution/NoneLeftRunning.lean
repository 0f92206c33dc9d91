import GrafuxMcp.Execution.InvocationRow
import GrafuxMcp.Execution.RunPoints

/-! # Invocations left RUNNING

The clause for a cancellation belongs to the `try` of an attempt. The awaits in
front of the loop, in its handlers and behind it have none.
-/

namespace GrafuxMcp.Execution

open GrafuxMcp

/-- The database accepts a write: it raises no error of its own. A cancellation
of the await is not the database's. -/
def DatabaseAccepts (event : RunEvent) : Prop :=
  event.op.writesRow = true →
    ∀ exc ∈ event.outcome.exception?, exc.isException = false

/-- The awaits inside the `try` of an attempt while the row is RUNNING: the
retry log, the backend call and the DONE write. -/
def Op.inTry (row : Row) : Op → Bool
  | .publish _ ⟨_, .log .warn _, _⟩ => true
  | .route _ => true
  | .execute update => decide (update.status = .done)
  | .commit => decide (row.pending = some .done)
  | _ => false

/-- While the row is RUNNING the run is interrupted only by a cancellation
inside the `try`. -/
def CaughtWhileRunning (row : Row) (event : RunEvent) : Prop :=
  (row.observe event).status = some .running →
    ∀ exc ∈ escaping? event, exc.isException = false →
      exc.isCancelled = true ∧ event.op.inTry row = true

instance (event : RunEvent) : Decidable (DatabaseAccepts event) :=
  inferInstanceAs (Decidable (_ → ∀ _ ∈ _, _))

instance (row : Row) (event : RunEvent) :
    Decidable (CaughtWhileRunning row event) :=
  inferInstanceAs (Decidable (_ → ∀ _ ∈ _, _ → _))

/-- If RUNNING was ever committed, the last committed status is terminal. -/
def NotLeftRunning (events : List RunEvent) : Prop :=
  (∃ before after, events = before ++ after ∧
      (before.foldl Row.observe Row.absent).status = some .running) →
    (events.foldl Row.observe Row.absent).isTerminal = true

/-- The two ways to start an invocation. -/
inductive StartedBy
  | invoke
  | invokeAsync

def StartedBy.events (environment : Environment effects)
    (request : InvokeRequest) : StartedBy → List RunEvent
  | .invoke => (Execution.invoke request).trace environment
  | .invokeAsync => (Execution.invokeAsync request).trace environment

namespace NoneLeftRunning

/-- RUNNING has been committed. -/
def Begun (row : Row) : Prop :=
  row.status = some .running ∨ row.isTerminal = true

/-- The row and whether every step so far was `CaughtWhileRunning`. A begun
invocation stays begun. -/
def contract : Contract effects (Row × Bool) where
  observe := watch Row.observe CaughtWhileRunning
  assume := fun _ event => DatabaseAccepts event
  guarantee := fun s event => Begun s.1 → Begun (s.1.observe event)

/-- The row is RUNNING exactly if an interrupt was not caught. -/
def Settled (s : Row × Bool) : Prop :=
  s.1.status = some .running ↔ s.2 = false

/-- The row at each point of a run that has been caught so far. -/
def assertion : Point → Row × Bool → Prop
  | .executing .running, s =>
      s.2 = true ∧ s.1.status = some .pending
  | .committing .running, s =>
      s.2 = true ∧ s.1.status = some .pending ∧ s.1.pending = some .running
  | .executing _, s => s.2 = true ∧ Begun s.1
  | .committing write, s =>
      s.2 = true ∧ Begun s.1 ∧ s.1.pending = some write.status
  | .serialising (.result _ _), s | .serialising (.completed _ _), s
  | .serialising (.error _), s
  | .sending (.result _ _), s | .sending (.completed _ _), s
  | .sending (.error _), s => s.2 = true ∧ s.1.isTerminal = true
  | .serialising _, s | .sending _, s => s.2 = true ∧ Begun s.1
  | .asking _, s | .routing _, s | .sleeping _ _, s => s.2 = true ∧ Begun s.1
  | .ended _, s => Settled s

variable {row : Row} {s : Row × Bool} {event : RunEvent} {exc : Exc} {job : Job}

theorem begun_of_unchanged (unchanged : (row.observe event).status = row.status)
    (begun : Begun row) : Begun (row.observe event) := by
  unfold Begun Row.isTerminal at *
  rw [unchanged]
  exact begun

theorem begun_of_status (write : Write)
    (committed : row.status = some write.status) : Begun row := by
  unfold Begun Row.isTerminal
  rw [committed]
  cases write with
  | running => exact .inl rfl
  | done turn result => exact .inr rfl
  | cancelled turn => exact .inr rfl
  | failed error => exact .inr rfl

theorem not_running_of_terminal (terminal : row.isTerminal = true) :
    row.status ≠ some .running := by
  intro running
  rw [Row.isTerminal, running] at terminal
  cases terminal

theorem settled_of_not_running (caught : s.2 = true)
    (notRunning : s.1.status ≠ some .running) : Settled s := by
  simp [Settled, caught, notRunning]

theorem settled_of_terminal (caught : s.2 = true)
    (terminal : s.1.isTerminal = true) : Settled s :=
  settled_of_not_running caught (not_running_of_terminal terminal)

/-! ## Which steps are caught -/

theorem caught_of_not_running (notRunning : (row.observe event).status ≠
    some .running) : CaughtWhileRunning row event :=
  fun running => absurd running notRunning

theorem caught_of_quiet (quiet : escaping? event = none) :
    CaughtWhileRunning row event := by
  intro _ exc escapes
  rw [quiet] at escapes
  cases escapes

theorem caught_of_exception (escapes : escaping? event = some exc)
    (isException : exc.isException = true) : CaughtWhileRunning row event := by
  intro _ other escapesToo interrupt
  rw [escapes] at escapesToo
  cases escapesToo
  rw [isException] at interrupt
  cases interrupt

theorem caught_of_inTry (escapes : escaping? event = some exc)
    (cancelled : exc.isCancelled = true) (inTry : event.op.inTry row = true) :
    CaughtWhileRunning row event := by
  intro _ other escapesToo _
  rw [escapes] at escapesToo
  cases escapesToo
  exact ⟨cancelled, inTry⟩

/-- An interrupt that nothing catches ends the run settled: it is recorded
exactly if it leaves the row RUNNING. -/
theorem settled_of_interrupt (escapes : escaping? event = some exc)
    (interrupt : exc.isException = false)
    (outside : exc.isCancelled = true → event.op.inTry row = false) :
    Settled (watch Row.observe CaughtWhileRunning (row, true) event) := by
  rcases Decidable.em ((row.observe event).status = some .running) with
    running | notRunning
  · have notCaught : ¬ CaughtWhileRunning row event := by
      intro caught
      obtain ⟨cancelled, inTry⟩ := caught running exc escapes interrupt
      rw [outside cancelled] at inTry
      cases inTry
    rw [watch_of_not_holds notCaught]
    simp [Settled, running]
  · rw [watch_of_holds (caught_of_not_running notRunning)]
    simp [Settled, notRunning]

/-! ## The points -/

theorem assertion_handled (turn : Turn) (begun : Begun s.1)
    (caught : exc.isException = true ∨ exc.isCancelled = true → s.2 = true)
    (fatal : exc.isException = false → exc.isCancelled = false → Settled s) :
    assertion (Point.handled job turn exc) s := by
  unfold Point.handled
  split
  · next cancelled => exact ⟨caught (.inr cancelled), begun⟩
  · next notCancelled =>
      split
      · next timeout =>
          have isException := Exc.isException_of_isinstance_timeout timeout
          exact ⟨caught (.inl isException), begun⟩
      · split
        · next isException => exact ⟨caught (.inl isException), begun⟩
        · next interrupt =>
            exact fatal (by simpa using interrupt) (by simpa using notCancelled)

theorem assertion_goOn (lastError : Option Exc) (attempts : List Nat)
    (caught : s.2 = true) (begun : Begun s.1) :
    assertion (Point.goOn lastError attempts) s := by
  cases attempts with
  | nil => exact ⟨caught, begun⟩
  | cons attempt rest => exact ⟨caught, begun⟩

theorem assertion_written (write : Write) (caught : s.2 = true)
    (committed : s.1.status = some write.status) :
    assertion (Point.written write) s := by
  have terminal : ∀ status, write.status = status → status.isTerminal = true →
      s.1.isTerminal = true := by
    intro status equal isTerminal
    rw [Row.isTerminal, committed, equal]
    exact isTerminal
  cases write with
  | running => exact ⟨caught, begun_of_status .running committed⟩
  | done turn result => exact ⟨caught, terminal _ rfl rfl⟩
  | cancelled turn => exact settled_of_terminal caught (terminal _ rfl rfl)
  | failed error => exact ⟨caught, terminal _ rfl rfl⟩

theorem assertion_sent (message : Message)
    (holds : assertion (.sending message) s) :
    assertion (Point.sent message) s := by
  cases message with
  | started =>
      exact assertion_goOn none (List.range (maxRetries + 1)) holds.1 holds.2
  | retrying turn => exact holds
  | result turn value => exact holds
  | completed turn value => exact settled_of_terminal holds.1 holds.2
  | failure turn lastError stop => cases stop <;> exact holds
  | error message => exact settled_of_terminal holds.1 holds.2

/-- The steps that end an attempt inside its `try`. -/
theorem assertion_caught (turn : Turn) (either : exc.isException = true ∨
      exc.isCancelled = true)
    (caught : CaughtWhileRunning row event) (begun : Begun (row.observe event)) :
    assertion (Point.handled job turn exc)
      (watch Row.observe CaughtWhileRunning (row, true) event) := by
  rw [watch_of_holds caught]
  apply assertion_handled turn begun (fun _ => rfl)
  intro interrupt notCancelled
  rw [interrupt, notCancelled] at either
  simp at either

theorem kept_executing (job : Job) (write : Write)
    (holds : assertion (.executing write) (row, true)) :
    Program.KeepsAssertion contract assertion (fun _ => Settled)
      (Point.next job (.executing write)) (row, true) := by
  intro outcome accepts
  have unchanged := row.status_observe_execute _ outcome
  refine ⟨begun_of_unchanged unchanged, ?_⟩
  cases outcome with
  | returned _ =>
      have quiet : CaughtWhileRunning row
          ⟨.execute (write.update job), .returned ()⟩ := caught_of_quiet rfl
      change assertion (.committing write)
        (watch Row.observe CaughtWhileRunning (row, true) _)
      rw [watch_of_holds quiet]
      have pending := congrArg some (write.status_update job)
      cases write with
      | running => exact ⟨rfl, holds.2, pending⟩
      | done turn result =>
          exact ⟨rfl, begun_of_unchanged unchanged holds.2, pending⟩
      | cancelled turn =>
          exact ⟨rfl, begun_of_unchanged unchanged holds.2, pending⟩
      | failed error =>
          exact ⟨rfl, begun_of_unchanged unchanged holds.2, pending⟩
  | raised exc applied possible =>
      have interrupt : exc.isException = false := accepts rfl exc rfl
      have cancelled : exc.isCancelled = true := by
        simpa [Op.mayRaise, interrupt] using possible
      cases write with
      | done turn result =>
          exact assertion_caught turn (.inr cancelled)
            (caught_of_inTry rfl cancelled rfl)
            (begun_of_unchanged unchanged holds.2)
      | running => exact settled_of_interrupt rfl interrupt fun _ => rfl
      | cancelled turn => exact settled_of_interrupt rfl interrupt fun _ => rfl
      | failed error => exact settled_of_interrupt rfl interrupt fun _ => rfl

/-- What is pending is committed or lost. -/
theorem status_committed {write : Write} (outcome : Outcome effects .commit)
    (pending : row.pending = some write.status) :
    (row.observe ⟨.commit, outcome⟩).status = some write.status ∨
      (row.observe ⟨.commit, outcome⟩).status = row.status := by
  rw [row.status_observe_commit, pending]
  cases outcome.applied with
  | true => exact .inl rfl
  | false => exact .inr rfl

theorem kept_committing (job : Job) (write : Write)
    (holds : assertion (.committing write) (row, true)) :
    Program.KeepsAssertion contract assertion (fun _ => Settled)
      (Point.next job (.committing write)) (row, true) := by
  have pending : row.pending = some write.status := by
    cases write <;> exact holds.2.2
  intro outcome accepts
  have begun : Begun row → Begun (row.observe ⟨.commit, outcome⟩) := by
    intro begun
    rcases status_committed outcome pending with committed | unchanged
    · exact begun_of_status write committed
    · exact begun_of_unchanged unchanged begun
  refine ⟨begun, ?_⟩
  cases outcome with
  | returned _ =>
      have quiet : CaughtWhileRunning row ⟨.commit, .returned ()⟩ :=
        caught_of_quiet rfl
      have committed : (row.observe ⟨.commit, .returned ()⟩).status =
          some write.status := by
        rw [row.status_observe_commit, pending]
        rfl
      change assertion (Point.written write)
        (watch Row.observe CaughtWhileRunning (row, true) _)
      rw [watch_of_holds quiet]
      exact assertion_written write rfl committed
  | raised exc applied possible =>
      have interrupt : exc.isException = false := accepts rfl exc rfl
      have cancelled : exc.isCancelled = true := by
        simpa [Op.mayRaise, interrupt] using possible
      have outside : write.status ≠ .done →
          Op.inTry row .commit = false := by
        intro notDone
        simp [Op.inTry, pending, notDone]
      cases write with
      | done turn result =>
          have inTry : Op.inTry row .commit = true := by
            simp [Op.inTry, pending, Write.status]
          exact assertion_caught turn (.inr cancelled)
            (caught_of_inTry rfl cancelled inTry) (begun holds.2.1)
      | running =>
          exact settled_of_interrupt rfl interrupt fun _ => outside (by decide)
      | cancelled turn =>
          exact settled_of_interrupt rfl interrupt fun _ =>
            outside (by simp [Write.status])
      | failed error =>
          exact settled_of_interrupt rfl interrupt fun _ =>
            outside (by simp [Write.status])

theorem kept_serialising (job : Job) (message : Message)
    (holds : assertion (.serialising message) (row, true)) :
    Program.KeepsAssertion contract assertion (fun _ => Settled)
      (Point.next job (.serialising message)) (row, true) := by
  intro outcome _
  refine ⟨id, ?_⟩
  cases outcome with
  | returned _ =>
      have quiet : CaughtWhileRunning row
          ⟨.dumps (message.payload job), .returned ()⟩ := caught_of_quiet rfl
      change assertion (.sending message)
        (watch Row.observe CaughtWhileRunning (row, true) _)
      rw [watch_of_holds quiet]
      cases message <;> exact holds
  | raised exc applied possible =>
      cases message with
      | result turn value =>
          have isException : exc.isException = true := possible
          have caught : CaughtWhileRunning row
              ⟨.dumps _, .raised exc applied possible⟩ :=
            caught_of_exception rfl isException
          exact assertion_caught turn (.inl isException) caught (.inr holds.2)
      | started | retrying turn | completed turn value
      | failure turn lastError stop | error message => cases possible

theorem kept_sending (job : Job) (message : Message)
    (holds : assertion (.sending message) (row, true)) :
    Program.KeepsAssertion contract assertion (fun _ => Settled)
      (Point.next job (.sending message)) (row, true) := by
  intro outcome _
  refine ⟨id, ?_⟩
  have delivered : escaping? ⟨_, outcome⟩ = none →
      assertion (Point.sent message)
        (watch Row.observe CaughtWhileRunning (row, true) ⟨_, outcome⟩) := by
    intro quiet
    rw [watch_of_holds (caught_of_quiet quiet)]
    exact assertion_sent message holds
  cases outcome with
  | returned _ => exact delivered rfl
  | raised exc applied possible =>
      change assertion (if exc.isException = true then _ else _)
        (watch Row.observe CaughtWhileRunning (row, true) _)
      split
      · next isException => exact delivered (by simp [escaping?, isException])
      · next notException =>
          have interrupt : exc.isException = false := by simpa using notException
          have cancelled : exc.isCancelled = true := by
            simpa [Op.mayRaise, interrupt] using possible
          have escapes : escaping? ⟨_, .raised exc applied possible⟩ =
              some exc := by
            simp [escaping?, interrupt]
          have caught : row.isTerminal = true → CaughtWhileRunning row
              ⟨_, .raised exc applied possible⟩ :=
            fun terminal => caught_of_not_running
              (not_running_of_terminal terminal)
          cases message with
          | retrying turn =>
              exact assertion_caught turn (.inr cancelled)
                (caught_of_inTry escapes cancelled rfl) holds.2
          | result turn value =>
              exact assertion_caught turn (.inr cancelled)
                (caught holds.2) (.inr holds.2)
          | completed turn value =>
              exact assertion_caught turn (.inr cancelled)
                (caught holds.2) (.inr holds.2)
          | started => exact settled_of_interrupt escapes interrupt fun _ => rfl
          | failure turn lastError stop =>
              exact settled_of_interrupt escapes interrupt fun _ => rfl
          | error message =>
              exact settled_of_interrupt escapes interrupt fun _ => rfl

theorem kept_asking (job : Job) (turn : Turn) (begun : Begun row) :
    Program.KeepsAssertion contract assertion (fun _ => Settled)
      (Point.next job (.asking turn)) (row, true) := by
  intro outcome _
  refine ⟨id, ?_⟩
  cases outcome with
  | raised exc applied possible => cases possible
  | returned cancelled =>
      have quiet : CaughtWhileRunning row ⟨.isSet, .returned cancelled⟩ :=
        caught_of_quiet rfl
      cases cancelled with
      | true =>
          change assertion (.executing (.cancelled turn))
            (watch Row.observe CaughtWhileRunning (row, true) _)
          rw [watch_of_holds quiet]
          exact ⟨rfl, begun⟩
      | false =>
          change assertion (if turn.attempt > 0 then _ else _)
            (watch Row.observe CaughtWhileRunning (row, true) _)
          rw [watch_of_holds quiet]
          split <;> exact ⟨rfl, begun⟩

theorem kept_routing (job : Job) (turn : Turn) (begun : Begun row) :
    Program.KeepsAssertion contract assertion (fun _ => Settled)
      (Point.next job (.routing turn)) (row, true) := by
  intro outcome _
  refine ⟨id, ?_⟩
  cases outcome with
  | returned result =>
      have quiet : CaughtWhileRunning row
          ⟨.route job.routeCall, .returned result⟩ := caught_of_quiet rfl
      change assertion (.executing (.done turn result))
        (watch Row.observe CaughtWhileRunning (row, true) _)
      rw [watch_of_holds quiet]
      exact ⟨rfl, begun⟩
  | raised exc applied possible =>
      have escapes : escaping?
          ⟨.route job.routeCall, .raised exc applied possible⟩ = some exc := rfl
      apply assertion_handled turn begun
      · intro either
        have caught : CaughtWhileRunning row
            ⟨.route job.routeCall, .raised exc applied possible⟩ := by
          rcases either with isException | cancelled
          · exact caught_of_exception escapes isException
          · exact caught_of_inTry escapes cancelled rfl
        exact congrArg Prod.snd (watch_of_holds caught true)
      · intro interrupt notCancelled
        apply settled_of_interrupt escapes interrupt
        intro cancelled
        rw [notCancelled] at cancelled
        cases cancelled

theorem kept_sleeping (job : Job) (turn : Turn) (lastError : Exc)
    (begun : Begun row) :
    Program.KeepsAssertion contract assertion (fun _ => Settled)
      (Point.next job (.sleeping turn lastError)) (row, true) := by
  intro outcome _
  refine ⟨id, ?_⟩
  cases outcome with
  | returned _ =>
      have quiet : CaughtWhileRunning row
          ⟨.sleep turn.attempt, .returned ()⟩ := caught_of_quiet rfl
      change assertion (Point.goOn (some lastError) turn.rest)
        (watch Row.observe CaughtWhileRunning (row, true) _)
      rw [watch_of_holds quiet]
      exact assertion_goOn _ _ rfl begun
  | raised exc applied possible =>
      have interrupt : exc.isException = false :=
        Exc.not_isException_of_isCancelled possible
      exact settled_of_interrupt rfl interrupt fun _ => rfl

theorem kept (job : Job) (point : Point) (s : Row × Bool)
    (holds : assertion point s) :
    Program.KeepsAssertion contract assertion (fun _ => Settled)
      (Point.next job point) s := by
  obtain ⟨row, flag⟩ := s
  cases point with
  | ended result => exact holds
  | executing write =>
      obtain rfl : flag = true := by cases write <;> exact holds.1
      exact kept_executing job write holds
  | committing write =>
      obtain rfl : flag = true := by cases write <;> exact holds.1
      exact kept_committing job write holds
  | serialising message =>
      obtain rfl : flag = true := by cases message <;> exact holds.1
      exact kept_serialising job message holds
  | sending message =>
      obtain rfl : flag = true := by cases message <;> exact holds.1
      exact kept_sending job message holds
  | asking turn =>
      obtain rfl : flag = true := holds.1
      exact kept_asking job turn holds.2
  | routing turn =>
      obtain rfl : flag = true := holds.1
      exact kept_routing job turn holds.2
  | sleeping turn lastError =>
      obtain rfl : flag = true := holds.1
      exact kept_sleeping job turn lastError holds.2

/-! ## The programs around a run -/

theorem watch_of_unchanged (unchanged : row.observe event = row)
    (notRunning : row.status ≠ some .running) (flag : Bool) :
    watch Row.observe CaughtWhileRunning (row, flag) event = (row, flag) := by
  have notRunning' : (row.observe event).status ≠ some .running := by
    rw [unchanged]
    exact notRunning
  rw [watch_of_holds (caught_of_not_running notRunning'), unchanged]

/-- An operation that leaves a settled row alone leaves it settled. -/
theorem settled_of_unchanged (unchanged : s.1.observe event = s.1)
    (settled : Settled s) :
    Settled (watch Row.observe CaughtWhileRunning s event) := by
  obtain ⟨row, flag⟩ := s
  rcases Decidable.em (row.status = some .running) with running | notRunning
  · have lost : flag = false := settled.mp running
    simp [Settled, watch, unchanged, running, lost]
  · rw [watch_of_unchanged unchanged notRunning]
    exact settled

theorem meets_run (job : Job) {row : Row} (pending : row.status = some .pending) :
    (run job).Meets contract (row, true) fun _ => Settled := by
  have notRunning : row.status ≠ some .running := by simp [pending]
  apply Point.meets_run assertion
  · refine ⟨id, ?_⟩
    change assertion _ (watch Row.observe CaughtWhileRunning (row, true) _)
    rw [watch_of_unchanged rfl notRunning]
    exact ⟨rfl, pending⟩
  · intro exc applied possible
    refine ⟨id, ?_⟩
    change Settled (watch Row.observe CaughtWhileRunning (row, true) _)
    rw [watch_of_unchanged rfl notRunning]
    exact settled_of_not_running rfl notRunning
  · exact fun s => ⟨id, watch_of_holds (caught_of_quiet rfl) s.2⟩
  · exact kept job

/-- A call that does not touch the row, in front of or behind a run. -/
theorem meets_perform {op : Op}
    {post : Except Exc op.Answer → Row × Bool → Prop}
    (unchanged : ∀ outcome, s.1.observe ⟨op, outcome⟩ = s.1)
    (ends : ∀ result s', s'.1 = s.1 → (Settled s → Settled s') →
      (s.1.status ≠ some .running → s' = s) → post result s') :
    (perform op).Meets contract s post := by
  apply Program.meets_call
  intro outcome _
  refine ⟨begun_of_unchanged (congrArg Row.status (unchanged outcome)), ?_⟩
  apply ends
  · exact unchanged outcome
  · exact settled_of_unchanged (unchanged outcome)
  · intro notRunning
    exact watch_of_unchanged (unchanged outcome) notRunning s.2

/-- Giving up what a run holds does not touch the row. -/
theorem meets_cleanup {α : Type} {program : Run α} {cleanup : Run Unit}
    (meets : program.Meets contract s fun _ => Settled)
    (cleans : ∀ s, Settled s → cleanup.Meets contract s fun _ => Settled) :
    (program.tryFinally cleanup).Meets contract s fun _ => Settled := by
  apply Program.meets_tryFinally
  refine meets.mono ?_
  intro result s settled
  refine (cleans s settled).mono ?_
  intro ended s settled
  cases result <;> cases ended <;> exact settled

theorem meets_runBackground (job : Job) {row : Row}
    (pending : row.status = some .pending) :
    (runBackground job).Meets contract (row, true) fun _ => Settled := by
  have notRunning : row.status ≠ some .running := by simp [pending]
  apply Program.meets_bind.mpr
  apply meets_perform (fun _ => rfl)
  intro result s' _ _ same
  rw [same notRunning]
  cases result with
  | error exc => simp [Settled, pending]
  | ok _ =>
      apply meets_cleanup
      · apply Program.meets_tryCatch.mpr
        apply Program.meets_bind.mpr
        have closed : ((run job).tryFinally (perform .closeSession)).Meets
            contract (row, true) fun _ => Settled := by
          apply meets_cleanup (meets_run job pending)
          intro s settled
          exact meets_perform (fun _ => rfl) fun _ _ _ keeps _ => keeps settled
        refine closed.mono ?_
        intro result s settled
        cases result with
        | ok value => exact settled
        | error exc =>
            change Program.Meets contract
              (if exc.isException = true then pure () else throw exc) s _
            split <;> exact settled
      · intro s settled
        exact meets_perform (fun _ => rfl) fun _ _ _ keeps _ => keeps settled

theorem not_begun_of_absent (absent : row.status = none) : ¬ Begun row := by
  rintro (running | terminal)
  · rw [absent] at running
    cases running
  · rw [Row.isTerminal, absent] at terminal
    cases terminal

/-- Before the run the row is absent or PENDING. -/
def Prepared {α : Type} : Except Exc α → Row × Bool → Prop
  | .ok _, s => s.2 = true ∧ s.1.status = some .pending
  | .error _, s => Settled s

theorem meets_insert {invocation : MCPInvocation}
    (isPending : invocation.status = .pending) :
    Program.Meets contract (do
      perform (.add invocation)
      perform .commit
      perform .refresh) (Row.absent, true) Prepared := by
  apply Program.meets_bind.mpr
  apply Program.meets_call
  intro added _
  refine ⟨fun begun => absurd begun (not_begun_of_absent rfl), ?_⟩
  cases added with
  | raised exc applied possible => cases possible
  | returned _ =>
      have observed : contract.observe (Row.absent, true)
          ⟨.add invocation, .returned ()⟩ = (⟨none, some .pending⟩, true) := by
        rw [← isPending]
        exact watch_of_holds (caught_of_quiet rfl) true
      rw [observed]
      apply Program.meets_bind.mpr
      apply Program.meets_call
      intro committed _
      refine ⟨fun begun => absurd begun (not_begun_of_absent rfl), ?_⟩
      cases committed with
      | returned _ =>
          have observed : contract.observe (⟨none, some .pending⟩, true)
              ⟨.commit, .returned ()⟩ = (⟨some .pending, none⟩, true) :=
            watch_of_holds (caught_of_quiet rfl) true
          rw [observed]
          apply meets_perform (fun _ => rfl)
          intro result s' _ _ same
          rw [same (by simp)]
          cases result with
          | ok id => exact ⟨rfl, rfl⟩
          | error exc => exact settled_of_not_running rfl (by simp)
      | raised exc applied possible =>
          have notRunning : (Row.observe ⟨none, some .pending⟩
              ⟨.commit, .raised exc applied possible⟩).status ≠
                some .running := by
            cases applied <;> simp [Row.observe]
          exact settled_of_not_running
            (congrArg Prod.snd
              (watch_of_holds (caught_of_not_running notRunning) true))
            notRunning

theorem meets_createInvocation (request : InvokeRequest)
    (serverType : ServerType) :
    (createInvocation request serverType).Meets contract (Row.absent, true)
      Prepared := by
  have rejected : Settled (Row.absent, true) :=
    settled_of_not_running rfl (by simp [Row.absent])
  apply Program.meets_bind.mpr
  unfold uuidOf
  split
  · split
    · apply Program.meets_bind.mpr
      apply Program.meets_bind.mpr
      split
      · exact meets_insert rfl
      · exact rejected
    · exact meets_insert rfl
  · exact rejected

theorem meets_prepare (request : InvokeRequest) :
    (prepare request).Meets contract (Row.absent, true) Prepared := by
  have created : ∀ (routing : RoutingInfo) (job : Uuid → Job),
      Program.Meets contract (do
        let id ← createInvocation request routing.serverType
        return job id) (Row.absent, true) Prepared := by
    intro routing job
    apply Program.meets_bind.mpr
    refine (meets_createInvocation request routing.serverType).mono ?_
    intro result s holds
    cases result <;> exact holds
  apply Program.meets_bind.mpr
  unfold resolveToolRouting
  split
  · exact created _ _
  · apply Program.meets_bind.mpr
    apply meets_perform (fun _ => rfl)
    intro result s' _ _ same
    rw [same (by simp [Row.absent])]
    cases result with
    | error exc => exact settled_of_not_running rfl (by simp [Row.absent])
    | ok found =>
        dsimp only [Program.andThen]
        split <;> exact created _ _

theorem meets_invoke (request : InvokeRequest) :
    (invoke request).Meets contract (Row.absent, true) fun _ => Settled := by
  apply Program.meets_bind.mpr
  refine (meets_prepare request).mono ?_
  intro result s holds
  cases result with
  | error exc => exact holds
  | ok job =>
      obtain ⟨row, flag⟩ := s
      obtain ⟨rfl, pending⟩ := holds
      have pending : row.status = some .pending := pending
      have notRunning : row.status ≠ some .running := by simp [pending]
      apply Program.meets_bind.mpr
      apply meets_perform (fun _ => rfl)
      intro result s' _ _ same
      rw [same notRunning]
      cases result with
      | error exc => exact settled_of_not_running rfl notRunning
      | ok _ =>
          apply meets_cleanup (meets_run job pending)
          intro s settled
          exact meets_perform (fun _ => rfl) fun _ _ _ keeps _ => keeps settled

theorem meets_invokeAsync (request : InvokeRequest) :
    (invokeAsync request).Meets contract (Row.absent, true)
      fun _ => Settled := by
  apply Program.meets_bind.mpr
  refine (meets_prepare request).mono ?_
  intro result s holds
  cases result with
  | error exc => exact holds
  | ok job =>
      obtain ⟨row, flag⟩ := s
      obtain ⟨rfl, pending⟩ := holds
      exact meets_runBackground job pending

/-- A begun invocation stays begun, and it ends RUNNING exactly if one of its
interrupts was not caught. -/
theorem events_settled (startedBy : StartedBy) (request : InvokeRequest)
    (environment : Environment effects)
    (accepts : ∀ event ∈ startedBy.events environment request,
      DatabaseAccepts event) :
    EachStep Row.observe (fun row event => Begun row → Begun (row.observe event))
        Row.absent (startedBy.events environment request) ∧
      (((startedBy.events environment request).foldl Row.observe
          Row.absent).status = some .running ↔
        ¬ EachStep Row.observe CaughtWhileRunning Row.absent
          (startedBy.events environment request)) := by
  have accepted : EachStep contract.observe contract.assume (Row.absent, true)
      (startedBy.events environment request) := by
    intro before event after equal
    apply accepts
    rw [equal]
    simp
  have sound : EachStep contract.observe contract.guarantee (Row.absent, true)
        (startedBy.events environment request) ∧
      Settled ((startedBy.events environment request).foldl contract.observe
        (Row.absent, true)) := by
    cases startedBy with
    | invoke => exact (meets_invoke request).sound environment accepted
    | invokeAsync => exact (meets_invokeAsync request).sound environment accepted
  refine ⟨(eachStep_watch true).mp sound.1, ?_⟩
  have settled := sound.2
  simp only [contract, foldl_watch, Settled, Bool.true_and,
    decide_eq_false_iff_not] at settled
  exact settled

end NoneLeftRunning

end GrafuxMcp.Execution
