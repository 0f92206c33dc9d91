import GrafuxMcp.Execution.HandlerRules
import GrafuxMcp.Execution.NoneLeftRunning
import GrafuxMcp.Foundation.OrderedDict

/-! # A confirmed cancel

`ExecutionService.cancel` sets the event that a run reads at the top of each
attempt. Calls of it come while the run waits for one of its operations. -/

namespace GrafuxMcp.Execution

open GrafuxMcp Program

/-! ### The registry -/

/-- `CancellationRegistry._events`: whether the event of each key is set. -/
abbrev CancellationRegistry := OrderedDict Text Bool

namespace CancellationRegistry

variable (registry : CancellationRegistry) (invocationId : Text)

def register : CancellationRegistry := registry.set invocationId false

def unregister : CancellationRegistry := registry.pop invocationId

def cancel : CancellationRegistry × Bool :=
  match registry.get invocationId with
  | some false => (registry.set invocationId true, true)
  | _ => (registry, false)

end CancellationRegistry

/-! ### A run and the calls of `cancel` -/

/-- A point of a run, and the calls of `cancel` during each operation to come. The
ids of other invocations are different, so the registry has only the event of this
one. -/
structure Moment where
  registry : CancellationRegistry := .empty
  /-- A call has returned `True`. -/
  confirmed : Bool := false
  row : Row := .absent
  coming : List (List Text)

namespace Moment

variable (moment : Moment) (event : RunEvent)

def cancel (invocationId : Text) : Moment :=
  let called := CancellationRegistry.cancel moment.registry invocationId
  { moment with registry := called.1, confirmed := moment.confirmed || called.2 }

/-- The calls of the list, made one after another. -/
def cancels (calls : List Text) : Moment := calls.foldl cancel moment

/-- The operation that the run waits for is about to end. -/
def now : Moment := moment.cancels (moment.coming.headD [])

def perform : Moment where
  registry :=
    match event.op with
    | .register invocationId => CancellationRegistry.register moment.registry invocationId
    | .unregister invocationId => CancellationRegistry.unregister moment.registry invocationId
    | _ => moment.registry
  confirmed := moment.confirmed
  row := moment.row.observe event
  coming := moment.coming.tail

def next : Moment := moment.now.perform event

end Moment

/-- The run gives way to other tasks meanwhile. -/
def Op.awaits : Op → Bool
  | .register _ | .unregister _ | .isSet | .add _ | .dumps _ | .release => false
  | _ => true

/-- No call comes between operations that do not wait, and `cancel_event.is_set()`
reads the event. -/
def Moment.agrees (moment : Moment) (event : RunEvent) : Bool :=
  (event.op.awaits || (moment.coming.headD []).isEmpty) &&
    match event with
    | ⟨.isSet, .returned answer⟩ => answer == moment.registry.items.any Prod.snd
    | _ => true

/-! ### The property -/

/-- The router is not called after a confirmed cancel. A cancel during the call
itself came after its start. -/
def StartsInTime (moment : Moment) (event : RunEvent) : Prop :=
  event.op.isRoute = true → moment.confirmed = false

/-- No call of the router starts after a confirmed cancel, and the status at the
end is CANCELLED. -/
def TakesEffect (coming : List (List Text)) (events : List RunEvent) : Prop :=
  EachStep Moment.next StartsInTime { coming } events ∧
    ((events.foldl Moment.next { coming }).confirmed = true →
      (events.foldl Moment.next { coming }).row.status = some .cancelled)

/-! ### The condition -/

/-- An attempt calls the router or returns once this event is published. -/
def Op.proceeds : Op → Bool
  | .publish _ ⟨_, .log .warn _, _⟩ => true
  | .publish _ ⟨_, .log .info message, _⟩ => message == "Tool completed successfully"
  | _ => false

/-- The run reports its failure, or has ended. -/
def Op.givesUp (row : Row) : Op → Bool
  | .execute update => decide (update.status = .failed)
  | .commit => decide (row.pending = some .failed)
  | .dumps event | .publish _ event => decide (event.type = .error)
  | .closeSession => true
  | _ => false

/-- The awaits and calls inside the `try` of an attempt. -/
def Op.isGuarded (row : Row) : Op → Bool
  | .route _ => true
  | .execute update => decide (update.status = .done)
  | .commit => decide (row.pending = some .done)
  | .dumps event => decide (event.type = .result)
  | .publish channel event => decide (event.type = .result) || (Op.publish channel event).proceeds
  | _ => false

/-- While a confirmed cancel has not taken effect, the run neither calls the router
nor returns nor gives up, and no exception leaves it. -/
def Heeds (moment : Moment) (event : RunEvent) : Prop :=
  moment.now.confirmed = true → (moment.next event).row.status ≠ some .cancelled →
    event.op.givesUp moment.row = false ∧
      (event.op.proceeds = true → (escaping? event).isSome = true) ∧
      ∀ exc ∈ escaping? event, event.op.isGuarded moment.row = true ∧
        (exc.isException = true ∨ exc.isCancelled = true)

instance (moment : Moment) (event : RunEvent) : Decidable (StartsInTime moment event) :=
  inferInstanceAs (Decidable (_ → _))

instance (moment : Moment) (event : RunEvent) : Decidable (Heeds moment event) :=
  inferInstanceAs (Decidable (_ → _ → _ ∧ _ ∧ ∀ _ ∈ _, _))

instance (coming : List (List Text)) (events : List RunEvent) :
    Decidable (TakesEffect coming events) :=
  inferInstanceAs (Decidable (_ ∧ (_ → _)))

namespace ConfirmedCancel

/-- The moment, whether every step so far was `Heeds`, and whether every call of
the router so far started in time. -/
abbrev State := (Moment × Bool) × Bool

def InTime (s : Moment × Bool) (event : RunEvent) : Prop := StartsInTime s.1 event

instance (s : Moment × Bool) (event : RunEvent) : Decidable (InTime s event) :=
  inferInstanceAs (Decidable (StartsInTime s.1 event))

def contract : Contract effects State where
  observe := watch (watch Moment.next Heeds) InTime
  assume s event := s.1.1.agrees event = true
  guarantee _ _ := True

/-- The cancel has taken effect exactly if every step was `Heeds`. -/
def Settled (s : State) : Prop :=
  s.1.2 = true ↔
    s.2 = true ∧ (s.1.1.confirmed = true → s.1.1.row.status = some .cancelled)

variable {moment : Moment} {event : RunEvent} {key : Text} {s : State}

/-! ### The calls of `cancel` -/

/-- The registry has the event of the run, set by the first confirmed cancel. -/
def Registered (key : Text) (moment : Moment) : Prop :=
  moment.registry.items = [(key, moment.confirmed)]

theorem registered_cancel (registered : Registered key moment) (invocationId : Text) :
    Registered key (moment.cancel invocationId) := by
  have items : moment.registry.items = [(key, moment.confirmed)] := registered
  unfold Registered Moment.cancel CancellationRegistry.cancel
  by_cases same : invocationId = key
  · cases confirmed : moment.confirmed <;>
      simp [OrderedDict.get, OrderedDict.set, items, same, confirmed]
  · have missing : moment.registry.get invocationId = none := by
      simp [OrderedDict.get, items, same]
    simp [missing, items]

theorem registered_cancels (registered : Registered key moment) (calls : List Text) :
    Registered key (moment.cancels calls) := by
  induction calls generalizing moment with
  | nil => exact registered
  | cons call calls induction => exact induction (registered_cancel registered call)

theorem confirmed_cancels (confirmed : moment.confirmed = true) (calls : List Text) :
    (moment.cancels calls).confirmed = true := by
  induction calls generalizing moment with
  | nil => exact confirmed
  | cons call calls induction =>
      apply induction
      simp [Moment.cancel, confirmed]

@[simp] theorem row_cancels (calls : List Text) : (moment.cancels calls).row = moment.row := by
  induction calls generalizing moment with
  | nil => rfl
  | cons call calls induction => exact induction

/-- A call finds no event before the registration and after its end. -/
theorem cancels_unregistered (empty : moment.registry.items = []) (calls : List Text) :
    moment.cancels calls = moment := by
  have same : ∀ call, moment.cancel call = moment := by
    intro call
    simp [Moment.cancel, CancellationRegistry.cancel, OrderedDict.get, empty]
  induction calls with
  | nil => rfl
  | cons call calls induction =>
      change (moment.cancel call).cancels calls = moment
      rw [same]
      exact induction

theorem confirmed_next (confirmed : moment.confirmed = true) :
    (moment.next event).confirmed = true :=
  confirmed_cancels confirmed _

theorem row_next : (moment.next event).row = moment.row.observe event := by
  simp [Moment.next, Moment.perform, Moment.now]

/-- No call comes while the run does not wait. -/
theorem now_of_not_awaits (agrees : moment.agrees event = true)
    (awaits : event.op.awaits = false) : moment.now = moment := by
  have quiet : moment.coming.headD [] = [] := by
    simp only [Moment.agrees, awaits, Bool.false_or, Bool.and_eq_true] at agrees
    exact List.isEmpty_iff.mp agrees.1
  rw [Moment.now, quiet]
  rfl

/-! ### What is true at each point -/

/-- The cancel, if any, can still take effect. -/
structure Open (key : Text) (moment : Moment) : Prop where
  registered : Registered key moment
  status : moment.row.status ≠ some .cancelled

/-- The points of a run all of whose steps were `Heeds`. -/
def At (key : Text) : Point → Moment → Prop
  | .committing write, moment => Open key moment ∧ moment.row.pending = some write.status
  | .routing _, moment => Open key moment ∧ moment.confirmed = false
  | .ended _, moment => moment.confirmed = true → moment.row.status = some .cancelled
  | _, moment => Open key moment

/-- The points where a confirmed cancel is of no effect any more. -/
def Lost : Point → Moment → Prop
  | .routing _, _ => True
  | .committing (.failed _), moment =>
      moment.row.status ≠ some .cancelled ∧ moment.row.pending = some .failed
  | .executing (.failed _), moment | .serialising (.error _), moment
  | .sending (.error _), moment | .ended _, moment => moment.row.status ≠ some .cancelled
  | _, _ => False

def assertion (key : Text) (point : Point) (s : State) : Prop :=
  (s.2 = true ∧ s.1.2 = true ∧ At key point s.1.1) ∨
    (s.1.2 = false ∧ (s.2 = false ∨ (s.1.1.confirmed = true ∧ Lost point s.1.1)))

theorem settled_of_assertion {result : Except Exc Value}
    (holds : assertion key (.ended result) s) : Settled s := by
  unfold Settled
  rcases holds with ⟨timely, heeded, at_⟩ | ⟨unheeded, late | ⟨confirmed, lost⟩⟩
  · exact ⟨fun _ => ⟨timely, at_⟩, fun _ => heeded⟩
  · simp [unheeded, late]
  · have different : s.1.1.row.status ≠ some .cancelled := lost
    simp [unheeded, confirmed, different]

/-! ### One step -/

section Step

variable {point : Point}

/-- A step that heeds the cancel leads on; one that does not loses it. -/
theorem assertion_step (timely : StartsInTime moment event)
    (heeds : Heeds moment event → At key point (moment.next event))
    (loses : ¬ Heeds moment event → Lost point (moment.next event)) :
    assertion key point (contract.observe ((moment, true), true) event) := by
  by_cases heeded : Heeds moment event
  · have observed : contract.observe ((moment, true), true) event =
        ((moment.next event, true), true) := by
      simp [contract, watch, InTime, timely, heeded]
    rw [observed]
    exact Or.inl ⟨rfl, rfl, heeds heeded⟩
  · have observed : contract.observe ((moment, true), true) event =
        ((moment.next event, false), true) := by
      simp [contract, watch, InTime, timely, heeded]
    rw [observed]
    have confirmed : moment.now.confirmed = true := by
      by_contra quiet
      exact heeded fun confirmed => absurd confirmed quiet
    exact Or.inr ⟨rfl, Or.inr ⟨confirmed, loses heeded⟩⟩

theorem assertion_heeded (timely : StartsInTime moment event) (heeds : Heeds moment event)
    (at_ : At key point (moment.next event)) :
    assertion key point (contract.observe ((moment, true), true) event) :=
  assertion_step timely (fun _ => at_) fun unheeded => absurd heeds unheeded

/-- The run ends by a step that a confirmed cancel does not survive. -/
theorem assertion_ended {result : Except Exc Value} (timely : StartsInTime moment event)
    (fatal : Heeds moment event → moment.now.confirmed = true →
      (moment.next event).row.status = some .cancelled) :
    assertion key (.ended result) (contract.observe ((moment, true), true) event) := by
  apply assertion_step timely
  · exact fun heeds confirmed => fatal heeds confirmed
  · intro unheeded cancelled
    exact unheeded fun _ different => absurd cancelled different

theorem assertion_late (lost : s.1.2 = false ∧ s.2 = false) :
    assertion key point (contract.observe s event) := by
  rcases s with ⟨⟨moment, heeded⟩, timely⟩
  obtain ⟨rfl, rfl⟩ : heeded = false ∧ timely = false := lost
  exact Or.inr ⟨rfl, Or.inl rfl⟩

theorem open_next (opened : Open key moment)
    (silent : ∀ key, event.op ≠ .register key ∧ event.op ≠ .unregister key)
    (status : (moment.next event).row.status ≠ some .cancelled) :
    Open key (moment.next event) := by
  refine ⟨?_, status⟩
  have registered := registered_cancels opened.registered (moment.coming.headD [])
  rcases event with ⟨op, outcome⟩
  cases op with
  | register other => exact absurd rfl (silent other).1
  | unregister other => exact absurd rfl (silent other).2
  | _ => exact registered

/-! ### Which steps heed a cancel -/

variable {exc : Exc}

theorem heeds_of_quiet (goesOn : event.op.givesUp moment.row = false)
    (stays : event.op.proceeds = false) (quiet : escaping? event = none) :
    Heeds moment event := by
  intro _ _
  simp [goesOn, stays, quiet]

theorem heeds_of_guarded (goesOn : event.op.givesUp moment.row = false)
    (escapes : escaping? event = some exc) (guarded : event.op.isGuarded moment.row = true)
    (either : exc.isException = true ∨ exc.isCancelled = true) : Heeds moment event := by
  intro _ _
  simp [goesOn, escapes, guarded, either]

theorem cancelled_of_escape (escapes : escaping? event = some exc)
    (outside : event.op.isGuarded moment.row = true →
      ¬ (exc.isException = true ∨ exc.isCancelled = true))
    (heeds : Heeds moment event) (confirmed : moment.now.confirmed = true) :
    (moment.next event).row.status = some .cancelled := by
  by_contra different
  have caught := (heeds confirmed different).2.2 exc escapes
  exact outside caught.1 caught.2

theorem cancelled_of_proceeds (proceeds : event.op.proceeds = true)
    (quiet : escaping? event = none) (heeds : Heeds moment event)
    (confirmed : moment.now.confirmed = true) :
    (moment.next event).row.status = some .cancelled := by
  by_contra different
  have escapes := (heeds confirmed different).2.1 proceeds
  rw [quiet] at escapes
  cases escapes

theorem cancelled_of_givesUp (givesUp : event.op.givesUp moment.row = true)
    (heeds : Heeds moment event) (confirmed : moment.now.confirmed = true) :
    (moment.next event).row.status = some .cancelled := by
  by_contra different
  have goesOn := (heeds confirmed different).1
  rw [givesUp] at goesOn
  cases goesOn

/-- The handlers of an attempt, and an exception that none of them takes. -/
theorem assertion_handled (job : Job) (turn : Turn) (timely : StartsInTime moment event)
    (opened : Open key (moment.next event)) (goesOn : event.op.givesUp moment.row = false)
    (escapes : escaping? event = some exc) (guarded : event.op.isGuarded moment.row = true) :
    assertion key (Point.handled job turn exc) (contract.observe ((moment, true), true) event) := by
  have caught : exc.isException = true ∨ exc.isCancelled = true → ∀ point,
      (Open key (moment.next event) → At key point (moment.next event)) →
        assertion key point (contract.observe ((moment, true), true) event) := by
    intro either point at_
    exact assertion_heeded timely (heeds_of_guarded goesOn escapes guarded either) (at_ opened)
  unfold Point.handled
  split
  · next cancelled => exact caught (Or.inr cancelled) _ id
  · next notCancelled =>
      split
      · next timeout =>
          exact caught (Or.inl (Exc.isException_of_isinstance_timeout timeout)) _ id
      · split
        · next isException => exact caught (Or.inl isException) _ id
        · next interrupt =>
            apply assertion_ended timely
            apply cancelled_of_escape escapes
            intro _ either
            exact either.elim interrupt notCancelled

/-- An exception goes to the handlers of its pass or leaves the run. -/
theorem assertion_raised (job : Job) (guard : Option Turn) (timely : StartsInTime moment event)
    (escapes : escaping? event = some exc)
    (guarded : event.op.isGuarded moment.row = guard.isSome)
    (opened : guard.isSome = true →
      Open key (moment.next event) ∧ event.op.givesUp moment.row = false) :
    assertion key (Point.raised job exc guard) (contract.observe ((moment, true), true) event) := by
  cases guard with
  | some turn =>
      have parts := opened rfl
      exact assertion_handled job turn timely parts.1 parts.2 escapes guarded
  | none =>
      apply assertion_ended timely
      apply cancelled_of_escape escapes
      intro inside
      rw [guarded] at inside
      cases inside

theorem assertion_goOn (lastError : Option Exc) (attempts : List Nat)
    (timely : StartsInTime moment event) (heeds : Heeds moment event)
    (opened : Open key (moment.next event)) :
    assertion key (Point.goOn lastError attempts)
      (contract.observe ((moment, true), true) event) := by
  cases attempts with
  | nil => exact assertion_heeded timely heeds opened
  | cons attempt rest => exact assertion_heeded timely heeds opened

end Step

/-! ### The points -/

variable {job : Job}

theorem kept_executing (write : Write) (opened : Open key moment) :
    KeepsAssertion contract (assertion key) (fun _ => Settled)
      (Point.next job (.executing write)) ((moment, true), true) := by
  intro outcome _
  have timely : StartsInTime moment ⟨.execute (write.update job), outcome⟩ := by
    intro isRoute
    cases isRoute
  have status : (moment.next ⟨.execute (write.update job), outcome⟩).row.status ≠
      some .cancelled := by
    rw [row_next, Row.status_observe_execute]
    exact opened.status
  have still : Open key (moment.next ⟨.execute (write.update job), outcome⟩) :=
    open_next opened (fun _ => ⟨by simp, by simp⟩) status
  refine ⟨trivial, ?_⟩
  cases outcome with
  | raised exc applied possible =>
      apply assertion_raised job write.guardedBy timely rfl
      · cases write <;> rfl
      · intro guarded
        refine ⟨still, ?_⟩
        cases write with
        | done turn result => rfl
        | _ => cases guarded
  | returned _ =>
      have pending : (moment.next ⟨.execute (write.update job), .returned ()⟩).row.pending =
          some write.status := by
        rw [row_next, Row.pending_observe_execute _ _ rfl, write.status_update]
      have heeds : write.status ≠ .failed →
          Heeds moment ⟨.execute (write.update job), .returned ()⟩ := by
        intro notFailed
        apply heeds_of_quiet _ rfl rfl
        simp [Op.givesUp, notFailed]
      apply assertion_step timely
      · exact fun _ => ⟨still, pending⟩
      · intro unheeded
        cases write with
        | failed error => exact ⟨status, pending⟩
        | _ => exact absurd (heeds (by simp [Write.status])) unheeded

theorem kept_committing (write : Write) (opened : Open key moment)
    (pending : moment.row.pending = some write.status) :
    KeepsAssertion contract (assertion key) (fun _ => Settled)
      (Point.next job (.committing write)) ((moment, true), true) := by
  intro outcome _
  have timely : StartsInTime moment ⟨.commit, outcome⟩ := by
    intro isRoute
    cases isRoute
  have status : write.status ≠ .cancelled →
      (moment.next ⟨.commit, outcome⟩).row.status ≠ some .cancelled := by
    intro different
    rw [row_next]
    rcases NoneLeftRunning.status_committed outcome pending with committed | unchanged
    · rw [committed]
      exact fun equal => different (Option.some.inj equal)
    · rw [unchanged]
      exact opened.status
  have still : write.status ≠ .cancelled → Open key (moment.next ⟨.commit, outcome⟩) :=
    fun different => open_next opened (fun _ => ⟨by simp, by simp⟩) (status different)
  refine ⟨trivial, ?_⟩
  cases outcome with
  | raised exc applied possible =>
      apply assertion_raised job write.guardedBy timely rfl
      · cases write <;> simp [Op.isGuarded, pending, Write.status, Write.guardedBy]
      · intro guarded
        cases write with
        | done turn result =>
            refine ⟨still (by simp [Write.status]), ?_⟩
            simp [Op.givesUp, pending, Write.status]
        | _ => cases guarded
  | returned _ =>
      have heeds : write.status ≠ .failed → Heeds moment ⟨.commit, .returned ()⟩ := by
        intro notFailed
        apply heeds_of_quiet _ rfl rfl
        simp [Op.givesUp, pending, notFailed]
      cases write with
      | running => exact assertion_heeded timely (heeds (by simp [Write.status])) (still (by simp [Write.status]))
      | done turn result => exact assertion_heeded timely (heeds (by simp [Write.status])) (still (by simp [Write.status]))
      | cancelled turn =>
          apply assertion_ended timely
          intro _ _
          rw [row_next, Row.status_observe_commit, pending]
          rfl
      | failed error =>
          apply assertion_step timely
          · exact fun _ => still (by simp [Write.status])
          · exact fun _ => status (by simp [Write.status])

theorem kept_serialising (message : Message) (opened : Open key moment) :
    KeepsAssertion contract (assertion key) (fun _ => Settled)
      (Point.next job (.serialising message)) ((moment, true), true) := by
  intro outcome _
  have timely : StartsInTime moment ⟨.dumps (message.payload job), outcome⟩ := by
    intro isRoute
    cases isRoute
  have status : (moment.next ⟨.dumps (message.payload job), outcome⟩).row.status ≠
      some .cancelled := by
    rw [row_next]
    exact opened.status
  have still : Open key (moment.next ⟨.dumps (message.payload job), outcome⟩) :=
    open_next opened (fun _ => ⟨by simp, by simp⟩) status
  refine ⟨trivial, ?_⟩
  cases outcome with
  | raised exc applied possible =>
      cases message with
      | result turn value => exact assertion_handled job turn timely still rfl rfl rfl
      | _ => cases possible
  | returned _ =>
      apply assertion_step timely
      · exact fun _ => still
      · intro unheeded
        cases message with
        | error text => exact status
        | _ => exact absurd (heeds_of_quiet rfl rfl rfl) unheeded

theorem proceeds_started (channel : Text) (name : String) :
    (Op.publish channel ⟨.log, .log .info s!"Starting tool: {name}", false⟩).proceeds = false := by
  have different : s!"Starting tool: {name}" ≠ "Tool completed successfully" := by
    intro equal
    have first := congrArg (fun text : String => text.toList.head?) equal
    simp only [String.toList_append, List.head?_append] at first
    have starts : (toString "Starting tool: ").toList.head? = some 'S' := by decide
    rw [starts] at first
    cases first
  simp [Op.proceeds, different]

/-- A publication that does not interrupt its task. -/
theorem assertion_sent (message : Message) (opened : Open key moment)
    {outcome : Outcome effects
      (.publish (invocationEvents job.invocationId) (message.payload job))}
    (quiet : escaping? ⟨.publish (invocationEvents job.invocationId) (message.payload job),
      outcome⟩ = none) :
    assertion key (Point.sent message) (contract.observe ((moment, true), true)
      ⟨.publish (invocationEvents job.invocationId) (message.payload job), outcome⟩) := by
  have timely : StartsInTime moment
      ⟨.publish (invocationEvents job.invocationId) (message.payload job), outcome⟩ := by
    intro isRoute
    cases isRoute
  have status : (moment.next ⟨.publish (invocationEvents job.invocationId)
      (message.payload job), outcome⟩).row.status ≠ some .cancelled := by
    rw [row_next]
    exact opened.status
  have still : Open key (moment.next
      ⟨.publish (invocationEvents job.invocationId) (message.payload job), outcome⟩) :=
    open_next opened (fun _ => ⟨by simp, by simp⟩) status
  cases message with
  | started =>
      have heeds : Heeds moment ⟨.publish (invocationEvents job.invocationId)
          (Message.started.payload job), outcome⟩ :=
        heeds_of_quiet rfl (proceeds_started _ _) quiet
      exact assertion_goOn none (List.range (maxRetries + 1)) timely heeds still
  | retrying turn =>
      apply assertion_step timely
      · intro heeds
        refine ⟨still, ?_⟩
        by_contra confirmed
        exact status (cancelled_of_proceeds rfl quiet heeds (Bool.not_eq_false _ ▸ confirmed))
      · exact fun _ => trivial
  | result turn value => exact assertion_heeded timely (heeds_of_quiet rfl rfl quiet) still
  | completed turn value =>
      apply assertion_ended timely
      exact cancelled_of_proceeds (by simp [Message.payload, Op.proceeds]) quiet
  | failure turn lastError stop =>
      cases stop with
      | true => exact assertion_heeded timely (heeds_of_quiet rfl rfl quiet) still
      | false => exact assertion_heeded timely (heeds_of_quiet rfl rfl quiet) still
  | error text =>
      apply assertion_ended timely
      exact cancelled_of_givesUp rfl

theorem kept_sending (message : Message) (opened : Open key moment) :
    KeepsAssertion contract (assertion key) (fun _ => Settled)
      (Point.next job (.sending message)) ((moment, true), true) := by
  intro outcome _
  refine ⟨trivial, ?_⟩
  cases outcome with
  | returned _ => exact assertion_sent message opened rfl
  | raised exc applied possible =>
      change assertion key (if exc.isException = true then Point.sent message
        else Point.raised job exc message.guardedBy) _
      split
      · next isException =>
          apply assertion_sent message opened
          simp [escaping?, isException]
      · next interrupt =>
          have status : (moment.next ⟨.publish (invocationEvents job.invocationId)
              (message.payload job), .raised exc applied possible⟩).row.status ≠
                some .cancelled := by
            rw [row_next]
            exact opened.status
          have still : Open key (moment.next ⟨.publish (invocationEvents job.invocationId)
              (message.payload job), .raised exc applied possible⟩) :=
            open_next opened (fun _ => ⟨by simp, by simp⟩) status
          apply assertion_raised job message.guardedBy
          · intro isRoute
            cases isRoute
          · simp [escaping?, interrupt]
          · cases message with
            | started => exact proceeds_started (invocationEvents job.invocationId) _
            | completed turn value => simp [Message.payload, Op.isGuarded, Op.proceeds, Message.guardedBy]
            | _ => rfl
          · intro guarded
            refine ⟨still, ?_⟩
            cases message with
            | retrying turn | result turn value | completed turn value => rfl
            | _ => cases guarded

theorem kept_asking (turn : Turn) (opened : Open key moment) :
    KeepsAssertion contract (assertion key) (fun _ => Settled)
      (Point.next job (.asking turn)) ((moment, true), true) := by
  intro outcome agrees
  refine ⟨trivial, ?_⟩
  cases outcome with
  | raised exc applied possible => cases possible
  | returned answer =>
      have timely : StartsInTime moment ⟨.isSet, .returned answer⟩ := by
        intro isRoute
        cases isRoute
      have status : (moment.next ⟨.isSet, .returned answer⟩).row.status ≠ some .cancelled := by
        rw [row_next]
        exact opened.status
      have still : Open key (moment.next ⟨.isSet, .returned answer⟩) :=
        open_next opened (fun _ => ⟨by simp, by simp⟩) status
      have heeds : Heeds moment ⟨.isSet, .returned answer⟩ := heeds_of_quiet rfl rfl rfl
      have read : answer = moment.confirmed := by
        have agreed : moment.agrees ⟨.isSet, .returned answer⟩ = true := agrees
        simp only [Moment.agrees, Bool.and_eq_true, beq_iff_eq] at agreed
        rw [agreed.2, opened.registered]
        simp
      have unasked : (moment.next ⟨.isSet, .returned answer⟩).confirmed = moment.confirmed := by
        change moment.now.confirmed = _
        rw [now_of_not_awaits agrees rfl]
      cases answer with
      | true => exact assertion_heeded timely heeds still
      | false =>
          change assertion key
            (if turn.attempt > 0 then .serialising (.retrying turn) else .routing turn) _
          split
          · exact assertion_heeded timely heeds still
          · exact assertion_heeded timely heeds ⟨still, unasked.trans read.symm⟩

theorem kept_routing (turn : Turn) (opened : Open key moment)
    (unconfirmed : moment.confirmed = false) :
    KeepsAssertion contract (assertion key) (fun _ => Settled)
      (Point.next job (.routing turn)) ((moment, true), true) := by
  intro outcome _
  have timely : StartsInTime moment ⟨.route job.routeCall, outcome⟩ := fun _ => unconfirmed
  have status : (moment.next ⟨.route job.routeCall, outcome⟩).row.status ≠ some .cancelled := by
    rw [row_next]
    exact opened.status
  have still : Open key (moment.next ⟨.route job.routeCall, outcome⟩) :=
    open_next opened (fun _ => ⟨by simp, by simp⟩) status
  refine ⟨trivial, ?_⟩
  cases outcome with
  | returned result => exact assertion_heeded timely (heeds_of_quiet rfl rfl rfl) still
  | raised exc applied possible => exact assertion_handled job turn timely still rfl rfl rfl

theorem kept_sleeping (turn : Turn) (lastError : Exc) (opened : Open key moment) :
    KeepsAssertion contract (assertion key) (fun _ => Settled)
      (Point.next job (.sleeping turn lastError)) ((moment, true), true) := by
  intro outcome _
  have timely : StartsInTime moment ⟨.sleep turn.attempt, outcome⟩ := by
    intro isRoute
    cases isRoute
  refine ⟨trivial, ?_⟩
  cases outcome with
  | raised exc applied possible =>
      exact assertion_raised job none timely rfl rfl fun guarded => by cases guarded
  | returned _ =>
      have status : (moment.next ⟨.sleep turn.attempt, .returned ()⟩).row.status ≠
          some .cancelled := by
        rw [row_next]
        exact opened.status
      have still : Open key (moment.next ⟨.sleep turn.attempt, .returned ()⟩) :=
        open_next opened (fun _ => ⟨by simp, by simp⟩) status
      exact assertion_goOn _ _ timely (heeds_of_quiet rfl rfl rfl) still

/-- The points from which a confirmed cancel that is lost does not come back. -/
theorem assertion_lost {point : Point} {timely : Bool} (confirmed : moment.confirmed = true)
    (lost : Lost point (moment.next event)) :
    assertion key point (contract.observe ((moment, false), timely) event) := by
  refine Or.inr ⟨by simp [contract, watch], ?_⟩
  exact Or.inr ⟨confirmed_next confirmed, lost⟩

theorem kept_lost (point : Point) (timely : Bool) (confirmed : moment.confirmed = true)
    (lost : Lost point moment) :
    KeepsAssertion contract (assertion key) (fun _ => Settled)
      (Point.next job point) ((moment, false), timely) := by
  cases point with
  | routing turn =>
      intro outcome _
      refine ⟨trivial, Or.inr ⟨by simp [contract, watch], Or.inl ?_⟩⟩
      simp [contract, watch, InTime, StartsInTime, Op.isRoute, confirmed]
  | executing write =>
      cases write with
      | failed error =>
          intro outcome _
          have different : moment.row.status ≠ some .cancelled := lost
          have status : (moment.next ⟨.execute ((Write.failed error).update job),
              outcome⟩).row.status ≠ some .cancelled := by
            rw [row_next, Row.status_observe_execute]
            exact different
          refine ⟨trivial, assertion_lost confirmed ?_⟩
          cases outcome with
          | raised exc applied possible => exact status
          | returned _ =>
              refine ⟨status, ?_⟩
              rw [row_next, Row.pending_observe_execute _ _ rfl]
              rfl
      | _ => exact lost.elim
  | committing write =>
      cases write with
      | failed error =>
          intro outcome _
          have pending : moment.row.pending = some (Write.failed error).status := lost.2
          have status : (moment.next ⟨.commit, outcome⟩).row.status ≠ some .cancelled := by
            rw [row_next]
            rcases NoneLeftRunning.status_committed outcome pending with committed | unchanged
            · rw [committed]
              simp [Write.status]
            · rw [unchanged]
              exact lost.1
          refine ⟨trivial, assertion_lost confirmed ?_⟩
          cases outcome with
          | raised exc applied possible => exact status
          | returned _ => exact status
      | _ => exact lost.elim
  | serialising message =>
      cases message with
      | error text =>
          intro outcome _
          refine ⟨trivial, assertion_lost confirmed ?_⟩
          have status : (moment.next ⟨.dumps ((Message.error text).payload job),
              outcome⟩).row.status ≠ some .cancelled := by
            rw [row_next]
            exact lost
          cases outcome with
          | raised exc applied possible => exact status
          | returned _ => exact status
      | _ => exact lost.elim
  | sending message =>
      cases message with
      | error text =>
          intro outcome _
          refine ⟨trivial, assertion_lost confirmed ?_⟩
          have status : (moment.next ⟨.publish (invocationEvents job.invocationId)
              ((Message.error text).payload job), outcome⟩).row.status ≠ some .cancelled := by
            rw [row_next]
            exact lost
          cases outcome with
          | returned _ => exact status
          | raised exc applied possible =>
              change Lost (if exc.isException = true then _ else _) _
              split <;> exact status
      | _ => exact lost.elim
  | ended result =>
      have holds : assertion key (.ended result) ((moment, false), timely) :=
        Or.inr ⟨rfl, Or.inr ⟨confirmed, lost⟩⟩
      exact settled_of_assertion holds
  | _ => exact lost.elim

theorem kept_late (point : Point) :
    KeepsAssertion contract (assertion key) (fun _ => Settled)
      (Point.next job point) ((moment, false), false) := by
  cases point with
  | ended result =>
      have holds : assertion key (.ended result) ((moment, false), false) :=
        Or.inr ⟨rfl, Or.inl rfl⟩
      exact settled_of_assertion holds
  | _ => exact fun _ _ => ⟨trivial, assertion_late ⟨rfl, rfl⟩⟩

theorem kept (job : Job) (point : Point) (s : State) (holds : assertion key point s) :
    KeepsAssertion contract (assertion key) (fun _ => Settled) (Point.next job point) s := by
  rcases s with ⟨⟨moment, heeded⟩, timely⟩
  rcases holds with ⟨onTime, onTrack, at_⟩ | ⟨offTrack, late | ⟨confirmed, lost⟩⟩
  · obtain ⟨rfl, rfl⟩ : timely = true ∧ heeded = true := ⟨onTime, onTrack⟩
    cases point with
    | executing write => exact kept_executing write at_
    | committing write => exact kept_committing write at_.1 at_.2
    | serialising message => exact kept_serialising message at_
    | sending message => exact kept_sending message at_
    | asking turn => exact kept_asking turn at_
    | routing turn => exact kept_routing turn at_.1 at_.2
    | sleeping turn lastError => exact kept_sleeping turn lastError at_
    | ended result => exact settled_of_assertion (Or.inl ⟨rfl, rfl, at_⟩)
  · obtain ⟨rfl, rfl⟩ : heeded = false ∧ timely = false := ⟨offTrack, late⟩
    exact kept_late point
  · obtain rfl : heeded = false := offTrack
    exact kept_lost point timely confirmed lost

/-! ### Around the run -/

/-- A step behind a run, or in front of it, does not change what the run has come
to. -/
theorem settled_next (settled : Settled s) (noRoute : event.op.isRoute = false)
    (same : (s.1.1.next event).row.status = s.1.1.row.status)
    (fatal : s.1.2 = true → Heeds s.1.1 event → s.1.1.now.confirmed = true →
      s.1.1.row.status = some .cancelled) : Settled (contract.observe s event) := by
  rcases s with ⟨⟨moment, heeded⟩, timely⟩
  have observed : contract.observe ((moment, heeded), timely) event =
      ((moment.next event, heeded && decide (Heeds moment event)), timely) := by
    simp [contract, watch, InTime, StartsInTime, noRoute]
  have after : (moment.next event).confirmed = moment.now.confirmed := rfl
  rw [observed]
  unfold Settled at *
  dsimp only at *
  rw [after, same]
  cases heeded with
  | true =>
      have before := settled.mp rfl
      by_cases heeds : Heeds moment event
      · simpa [heeds, before.1] using fatal rfl heeds
      · have confirmed : moment.now.confirmed = true := by
          by_contra quiet
          exact heeds fun confirmed => absurd confirmed quiet
        have different : moment.row.status ≠ some .cancelled := by
          intro cancelled
          exact heeds fun _ changed => absurd (same.trans cancelled) changed
        simp [heeds, confirmed, different]
  | false =>
      have kept : moment.confirmed = true → moment.now.confirmed = true :=
        fun confirmed => confirmed_cancels confirmed _
      simp only [Bool.false_and, Bool.false_eq_true, false_iff, not_and] at settled ⊢
      intro onTime unharmed
      exact settled onTime fun confirmed => unharmed (kept confirmed)

/-- The run gives something back without waiting. -/
theorem settled_sync (settled : Settled s) (agrees : contract.assume s event)
    (awaits : event.op.awaits = false) (noRoute : event.op.isRoute = false)
    (same : (s.1.1.next event).row.status = s.1.1.row.status) :
    Settled (contract.observe s event) := by
  apply settled_next settled noRoute same
  intro heeded _ confirmed
  rw [now_of_not_awaits agrees awaits] at confirmed
  exact (settled.mp heeded).2 confirmed

theorem keeps_unregister (invocationId : Text) :
    Keeps contract Settled (perform (.unregister invocationId)) := by
  apply keeps_call
  intro s outcome settled agrees
  refine ⟨trivial, settled_sync settled agrees rfl rfl ?_⟩
  rw [row_next]
  rfl

theorem keeps_closeSession : Keeps contract Settled (perform .closeSession) := by
  apply keeps_call
  intro s outcome settled agrees
  have same : (s.1.1.next ⟨.closeSession, outcome⟩).row.status = s.1.1.row.status := by
    rw [row_next]
    rfl
  refine ⟨trivial, settled_next settled rfl same ?_⟩
  intro _ heeds confirmed
  rw [← same]
  exact cancelled_of_givesUp rfl heeds confirmed

/-- Nothing is registered yet. -/
structure Waiting (s : State) : Prop where
  timely : s.2 = true
  heeded : s.1.2 = true
  unconfirmed : s.1.1.confirmed = false
  empty : s.1.1.registry.items = []
  status : s.1.1.row.status ≠ some .cancelled
  pending : s.1.1.row.pending ≠ some .cancelled

theorem observe_waiting (waiting : Waiting s) :
    contract.observe s event = ((s.1.1.perform event, true), true) := by
  rcases s with ⟨⟨moment, heeded⟩, timely⟩
  have now : moment.now = moment := cancels_unregistered waiting.empty _
  have heeds : Heeds moment event := by
    intro confirmed
    rw [now, waiting.unconfirmed] at confirmed
    cases confirmed
  have inTime : StartsInTime moment event := fun _ => waiting.unconfirmed
  have next : moment.next event = moment.perform event := by rw [Moment.next, now]
  obtain ⟨rfl, rfl⟩ : timely = true ∧ heeded = true := ⟨waiting.timely, waiting.heeded⟩
  simp [contract, watch, InTime, heeds, inTime, next]

theorem keeps_waiting {op : Op} (silent : ∀ key, op ≠ .register key ∧ op ≠ .unregister key)
    (row : ∀ (row : Row) (outcome : Outcome effects op), row.status ≠ some .cancelled →
      row.pending ≠ some .cancelled → (row.observe ⟨op, outcome⟩).status ≠ some .cancelled ∧
        (row.observe ⟨op, outcome⟩).pending ≠ some .cancelled) :
    Keeps contract Waiting (perform op) := by
  apply keeps_call
  intro s outcome waiting _
  refine ⟨trivial, ?_⟩
  rw [observe_waiting waiting]
  have rows := row s.1.1.row outcome waiting.status waiting.pending
  refine ⟨rfl, rfl, waiting.unconfirmed, ?_, rows.1, rows.2⟩
  cases op with
  | register key => exact absurd rfl (silent key).1
  | unregister key => exact absurd rfl (silent key).2
  | _ => exact waiting.empty

theorem settled_of_waiting (waiting : Waiting s) : Settled s := by
  simp [Settled, waiting.timely, waiting.heeded, waiting.unconfirmed]

theorem meets_registered (job : Job) (waiting : Waiting s) :
    Program.Meets contract (do
      perform (.register job.invocationId)
      run job) s fun _ => Settled := by
  apply meets_bind.mpr
  apply meets_call
  intro outcome _
  refine ⟨trivial, ?_⟩
  cases outcome with
  | raised exc applied possible => cases possible
  | returned _ =>
      rw [observe_waiting waiting]
      have opened : Open job.invocationId
          (s.1.1.perform ⟨.register job.invocationId, .returned ()⟩) := by
        refine ⟨?_, waiting.status⟩
        simp [Registered, Moment.perform, CancellationRegistry.register, OrderedDict.set,
          waiting.empty, waiting.unconfirmed]
      apply Point.meets_run_of (assertion job.invocationId)
      · intro outcome _
        refine ⟨trivial, ?_⟩
        have timely : StartsInTime (s.1.1.perform ⟨.register job.invocationId, .returned ()⟩)
            ⟨.acquire, outcome⟩ := by
          intro isRoute
          cases isRoute
        cases outcome with
        | returned _ =>
            apply assertion_heeded timely (heeds_of_quiet rfl rfl rfl)
            exact open_next opened (fun _ => ⟨by simp, by simp⟩) (by rw [row_next]; exact opened.status)
        | raised exc applied possible =>
            have ended : assertion job.invocationId (.ended (.error exc)) _ :=
              assertion_raised job none timely rfl rfl fun guarded => by cases guarded
            exact settled_of_assertion ended
      · intro result s settled agrees
        refine ⟨trivial, settled_sync settled agrees rfl rfl ?_⟩
        rw [row_next]
        rfl
      · exact kept job

theorem meets_prepared (request : InvokeRequest) (waiting : Waiting s) :
    (prepare request).Meets contract s fun result s =>
      match result with
      | .ok job => Program.Meets contract (do
          perform (.register job.invocationId)
          run job) s fun _ => Settled
      | .error _ => Settled s := by
  have prepares : Keeps contract Waiting (prepare request) := by
    apply keeps_prepare
    · intro toolId
      exact keeps_waiting (fun _ => ⟨by simp, by simp⟩) fun _ _ status pending => ⟨status, pending⟩
    · intro invocation isPending
      refine keeps_waiting (fun _ => ⟨by simp, by simp⟩) fun row outcome status pending => ?_
      cases outcome with
      | raised exc applied possible => cases possible
      | returned _ => simp [Row.observe, status, isPending]
    · refine keeps_waiting (fun _ => ⟨by simp, by simp⟩) fun row outcome status pending => ?_
      unfold Row.observe
      dsimp only
      split
      · cases recorded : row.pending with
        | none => exact ⟨status, by simp⟩
        | some write =>
            rw [recorded] at pending
            exact ⟨pending, by simp⟩
      · exact ⟨status, by simp⟩
    · exact keeps_waiting (fun _ => ⟨by simp, by simp⟩) fun _ _ status pending => ⟨status, pending⟩
  refine (prepares s waiting).mono ?_
  intro result s waiting
  cases result with
  | ok job => exact meets_registered job waiting
  | error exc => exact settled_of_waiting waiting

/-- Watching a run does not change what its steps are. -/
theorem eachStep_heeding {events : List RunEvent} (holds : Moment → RunEvent → Prop) :
    EachStep (watch Moment.next Heeds) (fun s event => holds s.1 event) (moment, true) events ↔
      EachStep Moment.next holds moment events :=
  eachStep_watch true

theorem eachStep_observe {events : List RunEvent} (holds : Moment → RunEvent → Prop) :
    EachStep contract.observe (fun s event => holds s.1.1 event) ((moment, true), true) events ↔
      EachStep Moment.next holds moment events := by
  rw [← eachStep_heeding holds]
  have outer : ∀ inner : Moment × Bool → RunEvent → Prop,
      EachStep contract.observe (fun s event => inner s.1 event) ((moment, true), true) events ↔
        EachStep (watch Moment.next Heeds) inner (moment, true) events :=
    fun _ => eachStep_watch true
  exact outer fun s event => holds s.1 event

theorem events_settled (startedBy : StartedBy) (request : InvokeRequest)
    (environment : Environment effects) (coming : List (List Text))
    (agrees : EachStep Moment.next (fun moment event => moment.agrees event = true) { coming }
      (startedBy.events environment request)) :
    Settled ((startedBy.events environment request).foldl contract.observe
      (({ coming }, true), true)) := by
  have waiting : Waiting (({ coming }, true), true)   :=
    ⟨rfl, rfl, rfl, rfl, by simp [Row.absent], by simp [Row.absent]⟩
  have assumed : EachStep contract.observe contract.assume (({ coming }, true), true)
      (startedBy.events environment request) :=
    (eachStep_observe fun moment event => moment.agrees event = true).mpr agrees
  cases startedBy with
  | invoke =>
      have meets := meets_invoke (meets_prepared request waiting) keeps_unregister
      exact (meets.sound environment assumed).2
  | invokeAsync =>
      have meets := meets_invokeAsync (meets_prepared request waiting) keeps_closeSession
        keeps_unregister
      exact (meets.sound environment assumed).2

end ConfirmedCancel

/-- Surroundings in which the event of the run is set when it is first read. -/
def cancelledFirst : Environment effects := fun history op =>
  match op with
  | .isSet => .returned true
  | op => undisturbed exampleJob.ref.id (fun _ => none) .none history op

end GrafuxMcp.Execution
