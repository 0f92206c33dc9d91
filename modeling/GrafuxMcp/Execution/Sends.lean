import GrafuxMcp.Execution.RunPoints
import GrafuxMcp.Integrations.RemoteCalls

/-! # How often a request is sent

An invocation calls its backend once for each attempt, and the layers below the router send the
request of one call again after a failure. -/

namespace GrafuxMcp.Remote

open GrafuxMcp Execution Router

/-! ### The calls of a run

Between two calls of the router there is a pause, and there are at most three. -/

namespace Attempts

/-- The calls so far, and whether there was a pause since the last one. -/
structure Calls where
  made : Nat
  rested : Bool

def observe (calls : Calls) (event : RunEvent) : Calls :=
  if event.op.isRoute then ⟨calls.made + 1, false⟩
  else if event.op.isSleep then { calls with rested := true }
  else calls

def contract (serverType : ServerType) : Contract Execution.effects Calls where
  observe := observe
  assume _ _ := True
  guarantee calls event := ∀ call, event.op = .route call →
    call.serverType = serverType ∧ calls.rested = true ∧ calls.made < maxRetries + 1

/-- The calls that may still follow a point, and whether it is in front of the next one. -/
def ahead : Point → Nat × Bool
  | .executing .running | .committing .running | .serialising .started | .sending .started =>
      (maxRetries + 1, true)
  | .asking turn | .routing turn | .serialising (.retrying turn) | .sending (.retrying turn) =>
      (turn.rest.length + 1, true)
  | .executing (.done turn _) | .committing (.done turn _)
  | .serialising (.result turn _) | .sending (.result turn _)
  | .serialising (.completed turn _) | .sending (.completed turn _)
  | .serialising (.failure turn _ _) | .sending (.failure turn _ _)
  | .sleeping turn _ => (turn.rest.length, false)
  | _ => (0, false)

def assertion (point : Point) (calls : Calls) : Prop :=
  calls.made + (ahead point).1 ≤ maxRetries + 1 ∧ ((ahead point).2 = true → calls.rested = true)

variable {calls : Calls} {job : Job}

theorem observe_of_other {event : RunEvent} (notRoute : event.op.isRoute = false)
    (notSleep : event.op.isSleep = false) : observe calls event = calls := by
  simp [observe, notRoute, notSleep]

/-- A point that is not in front of a call. -/
theorem assertion_after {point : Point} {left : Nat} (same : ahead point = (left, false))
    (bound : calls.made + left ≤ maxRetries + 1) : assertion point calls := by
  refine ⟨same ▸ bound, ?_⟩
  rw [same]
  intro impossible
  cases impossible

/-- A point from which no call follows. -/
theorem assertion_last {point : Point} (same : ahead point = (0, false))
    (bound : calls.made ≤ maxRetries + 1) : assertion point calls :=
  assertion_after same bound

theorem made_le {point : Point} (holds : assertion point calls) :
    calls.made ≤ maxRetries + 1 :=
  Nat.le_of_add_right_le holds.1

theorem assertion_handled {turn : Execution.Turn} {exc : Exc}
    (left : calls.made + turn.rest.length ≤ maxRetries + 1) :
    assertion (Point.handled job turn exc) calls := by
  have bound : calls.made ≤ maxRetries + 1 := Nat.le_of_add_right_le left
  unfold Point.handled
  split
  · exact assertion_last rfl bound
  · split
    · exact assertion_after rfl left
    · split
      · exact assertion_after rfl left
      · exact assertion_last rfl bound

theorem assertion_raised {exc : Exc} {guard : Option Execution.Turn}
    (bound : calls.made ≤ maxRetries + 1)
    (left : ∀ turn ∈ guard, calls.made + turn.rest.length ≤ maxRetries + 1) :
    assertion (Point.raised job exc guard) calls := by
  cases guard with
  | none => exact assertion_last rfl bound
  | some turn => exact assertion_handled (left turn rfl)

theorem assertion_goOn {turn : Execution.Turn} (lastError : Option Exc)
    (left : calls.made + turn.rest.length ≤ maxRetries + 1) (rested : calls.rested = true) :
    assertion (Point.goOn lastError turn.rest) calls := by
  cases rest : turn.rest with
  | nil => exact assertion_last rfl (Nat.le_of_add_right_le left)
  | cons attempt rest' =>
      rw [rest] at left
      exact ⟨left, fun _ => rested⟩

theorem assertion_sent (message : Message) (holds : assertion (.sending message) calls) :
    assertion (Point.sent message) calls := by
  have bound : calls.made ≤ maxRetries + 1 := made_le holds
  cases message with
  | started => exact ⟨holds.1, holds.2⟩
  | retrying turn => exact holds
  | result turn value => exact assertion_after rfl holds.1
  | completed turn value => exact assertion_last rfl bound
  | failure turn lastError stop =>
      cases stop with
      | true => exact assertion_last rfl bound
      | false => exact assertion_after rfl holds.1
  | error message => exact assertion_last rfl bound

theorem guarded_of_sending (message : Message) (holds : assertion (.sending message) calls) :
    ∀ turn ∈ message.guardedBy, calls.made + turn.rest.length ≤ maxRetries + 1 := by
  intro turn guarded
  cases message with
  | retrying turn' =>
      cases guarded
      exact Nat.le_of_succ_le holds.1
  | result turn' value | completed turn' value =>
      cases guarded
      exact holds.1
  | started | failure turn' lastError stop | error message => cases guarded

theorem kept_executing (job : Job) (write : Write) (holds : assertion (.executing write) calls) :
    Program.KeepsAssertion (contract job.routing.serverType) assertion
      (fun _ calls => calls.made ≤ maxRetries + 1)
      (Point.next job (.executing write)) calls := by
  have bound : calls.made ≤ maxRetries + 1 := made_le holds
  intro outcome _
  refine ⟨fun _ isRoute => (nomatch isRoute), ?_⟩
  cases outcome with
  | returned _ => cases write <;> exact holds
  | raised exc applied possible =>
      refine assertion_raised bound fun turn guarded => ?_
      cases write with
      | done turn' result =>
          cases guarded
          exact holds.1
      | running | cancelled turn' | failed error => cases guarded

theorem kept_committing (job : Job) (write : Write) (holds : assertion (.committing write) calls) :
    Program.KeepsAssertion (contract job.routing.serverType) assertion
      (fun _ calls => calls.made ≤ maxRetries + 1)
      (Point.next job (.committing write)) calls := by
  have bound : calls.made ≤ maxRetries + 1 := made_le holds
  intro outcome _
  refine ⟨fun _ isRoute => (nomatch isRoute), ?_⟩
  cases outcome with
  | returned _ =>
      cases write with
      | running => exact holds
      | done turn result => exact holds
      | cancelled turn => exact assertion_last rfl bound
      | failed error => exact assertion_last rfl bound
  | raised exc applied possible =>
      refine assertion_raised bound fun turn guarded => ?_
      cases write with
      | done turn' result =>
          cases guarded
          exact holds.1
      | running | cancelled turn' | failed error => cases guarded

theorem kept_message (job : Job) (message : Message)
    (holds : assertion (.sending message) calls) :
    Program.KeepsAssertion (contract job.routing.serverType) assertion
      (fun _ calls => calls.made ≤ maxRetries + 1)
        (Point.next job (.serialising message)) calls ∧
      Program.KeepsAssertion (contract job.routing.serverType) assertion
        (fun _ calls => calls.made ≤ maxRetries + 1)
        (Point.next job (.sending message)) calls := by
  have leaves : ∀ exc, assertion (Point.raised job exc message.guardedBy) calls := fun exc =>
    assertion_raised (made_le holds) (guarded_of_sending message holds)
  constructor
  · intro outcome _
    refine ⟨fun _ isRoute => (nomatch isRoute), ?_⟩
    cases outcome with
    | returned _ => exact holds
    | raised exc applied possible => exact leaves exc
  · intro outcome _
    refine ⟨fun _ isRoute => (nomatch isRoute), ?_⟩
    cases outcome with
    | returned _ => exact assertion_sent message holds
    | raised exc applied possible =>
        change assertion (if exc.isException = true then _ else _) calls
        split
        · exact assertion_sent message holds
        · exact leaves exc

theorem kept (job : Job) (point : Point) (calls : Calls) (holds : assertion point calls) :
    Program.KeepsAssertion (contract job.routing.serverType) assertion
      (fun _ calls => calls.made ≤ maxRetries + 1)
      (Point.next job point) calls := by
  have bound : calls.made ≤ maxRetries + 1 := made_le holds
  cases point with
  | executing write => exact kept_executing job write holds
  | committing write => exact kept_committing job write holds
  | serialising message => exact (kept_message job message (by cases message <;> exact holds)).1
  | sending message => exact (kept_message job message holds).2
  | asking turn =>
      intro outcome _
      refine ⟨fun _ isRoute => (nomatch isRoute), ?_⟩
      cases outcome with
      | raised exc applied possible => exact assertion_last rfl bound
      | returned cancelled =>
          cases cancelled with
          | true => exact assertion_last rfl bound
          | false =>
              change assertion (if turn.attempt > 0 then _ else _) calls
              split
              · exact holds
              · exact holds
  | routing turn =>
      have first : calls.made + (turn.rest.length + 1) ≤ maxRetries + 1 := holds.1
      have later : calls.made + 1 + turn.rest.length ≤ maxRetries + 1 := by omega
      intro outcome _
      refine ⟨fun call same => ?_, ?_⟩
      · cases same
        exact ⟨rfl, holds.2 rfl, by omega⟩
      · cases outcome with
        | returned result => exact assertion_after rfl later
        | raised exc applied possible => exact assertion_handled later
  | sleeping turn lastError =>
      intro outcome _
      refine ⟨fun _ isRoute => (nomatch isRoute), ?_⟩
      cases outcome with
      | returned _ => exact assertion_goOn _ holds.1 rfl
      | raised exc applied possible => exact assertion_last rfl bound
  | ended result => exact bound

theorem meets_run (job : Job) :
    (run job).Meets (contract job.routing.serverType) ⟨0, true⟩
      fun _ calls => calls.made ≤ maxRetries + 1 := by
  apply Point.meets_run assertion
  · exact ⟨fun _ isRoute => (nomatch isRoute), Nat.le_refl _, fun _ => rfl⟩
  · exact fun _ _ _ => ⟨fun _ isRoute => (nomatch isRoute), Nat.zero_le _⟩
  · exact fun _ => ⟨fun _ isRoute => (nomatch isRoute), rfl⟩
  · exact kept job

end Attempts

/-! ### The sends -/

/-- The sends so far, and whether one since the last pause did anything but fail. -/
structure Sends where
  made : Nat := 0
  settled : Bool := false

def failed (event : Event operations.interface) : Bool :=
  event.outcome.exception?.any (·.isException)

namespace Sends

def observe (sends : Sends) (event : Event operations.interface) : Sends :=
  if event.op.isSend then ⟨sends.made + 1, sends.settled || !failed event⟩ else sends

/-- A request is not sent after one that did not fail. -/
def contract : Contract operations.interface Sends where
  observe := observe
  assume _ _ := True
  guarantee sends event := event.op.isSend = true → sends.settled = false

/-- A number of sends may follow. -/
def Room (cap left : Nat) (sends : Sends) : Prop :=
  sends.settled = false ∧ sends.made + left ≤ cap

def Under (cap : Nat) (sends : Sends) : Prop :=
  sends.made ≤ cap

/-- The program sends nothing. -/
def Silent (program : Stack α) : Prop :=
  ∀ sends, program.Meets contract sends fun _ after => after = sends

/-- It sends nothing, and no handler of `Exception` sees it end. -/
def Calm (program : Stack α) : Prop :=
  ∀ sends, program.Meets contract sends fun result after =>
    after = sends ∧ ∀ exc, result = .error exc → exc.isException = false

/-- When the program fails, a number of sends may follow. -/
def Spends (cap before left : Nat) (program : Stack α) : Prop :=
  ∀ sends, Room cap before sends → program.Meets contract sends fun result after =>
    Under cap after ∧ ∀ exc, result = .error exc → exc.isException = true → Room cap left after

variable {cap before left : Nat} {sends : Sends} {program : Stack α}

theorem Room.under (room : Room cap left sends) : Under cap sends :=
  Nat.le_of_add_right_le room.2

theorem Room.fewer {fewer : Nat} (room : Room cap left sends) (le : fewer ≤ left) :
    Room cap fewer sends :=
  ⟨room.1, Nat.le_trans (Nat.add_le_add_left le _) room.2⟩

theorem observe_of_other {event : Event operations.interface}
    (notSend : event.op.isSend = false) : observe sends event = sends := by
  simp [observe, notSend]

theorem observe_send {event : Event operations.interface} (send : event.op.isSend = true) :
    observe sends event = ⟨sends.made + 1, sends.settled || !failed event⟩ := by
  simp [observe, send]

/-! Programs that send nothing. -/

theorem silent_perform {op : Op} (notSend : op.isSend = false) :
    Silent (perform op) := by
  intro sends
  apply Program.meets_call
  intro outcome _
  refine ⟨?_, observe_of_other notSend⟩
  intro send
  rw [notSend] at send
  cases send

theorem silent_pure (value : α) : Silent (pure value) :=
  fun _ => Program.meets_pure.mpr rfl

theorem silent_throw (exc : Exc) : Silent (throw exc : Stack α) :=
  fun _ => Program.meets_throw.mpr rfl

theorem Silent.bind {next : α → Stack β} (first : Silent program)
    (rest : ∀ value, Silent (next value)) : Silent (program >>= next) := by
  intro sends
  refine Program.meets_bind.mpr ((first sends).mono ?_)
  rintro result _ rfl
  cases result with
  | ok value => exact rest value _
  | error exc => rfl

theorem Silent.catch {handle : Exc → Stack α} (body : Silent program)
    (handled : ∀ exc, Silent (handle exc)) : Silent (tryCatch program handle) := by
  intro sends
  refine Program.meets_tryCatch.mpr ((body sends).mono ?_)
  rintro result _ rfl
  cases result with
  | ok value => rfl
  | error exc => exact handled exc _

theorem Calm.silent (calm : Calm program) : Silent program :=
  fun sends => (calm sends).mono fun _ _ ends => ends.1

/-- An operation that raises at most a cancellation. -/
theorem calm_perform {op : Op} (notSend : op.isSend = false)
    (raises : ∀ exc, op.mayRaise exc = true → exc.isException = false) : Calm (perform op) := by
  intro sends
  apply Program.meets_call
  intro outcome _
  refine ⟨?_, observe_of_other notSend, ?_⟩
  · intro send
    rw [notSend] at send
    cases send
  · intro exc ends
    cases outcome with
    | returned _ => cases ends
    | raised exc' applied possible =>
        cases ends
        exact raises exc possible

theorem calm_pure (value : α) : Calm (pure value) :=
  fun _ => Program.meets_pure.mpr ⟨rfl, fun _ impossible => nomatch impossible⟩

theorem Calm.bind {next : α → Stack β} (first : Calm program)
    (rest : ∀ value, Calm (next value)) : Calm (program >>= next) := by
  intro sends
  refine Program.meets_bind.mpr ((first sends).mono ?_)
  rintro result _ ⟨rfl, notException⟩
  cases result with
  | ok value => exact rest value _
  | error exc => exact ⟨rfl, fun _ same => by cases same; exact notException exc rfl⟩

theorem Silent.logged {program : Stack Unit} (body : Silent program) :
    Calm (logged program) := by
  intro sends
  refine Program.meets_tryCatch.mpr ((body sends).mono ?_)
  rintro result _ rfl
  cases result with
  | ok value => exact ⟨rfl, fun _ impossible => nomatch impossible⟩
  | error exc =>
      change (if exc.isException = true then pure () else throw exc : Stack Unit).Meets _ _ _
      split
      · exact ⟨rfl, fun _ impossible => nomatch impossible⟩
      · next notException =>
          refine ⟨rfl, fun _ same => ?_⟩
          cases same
          exact Bool.eq_false_iff.mpr notException

/-- It sends nothing and cannot raise. -/
def Steady (program : Stack α) : Prop :=
  ∀ sends, program.Meets contract sends fun result after =>
    after = sends ∧ ∃ value, result = .ok value

theorem steady_perform {op : Op} (notSend : op.isSend = false)
    (raises : ∀ exc, op.mayRaise exc = false) : Steady (perform op) := by
  intro sends
  apply Program.meets_call
  intro outcome _
  refine ⟨?_, observe_of_other notSend, ?_⟩
  · intro send
    rw [notSend] at send
    cases send
  · cases outcome with
    | returned answer => exact ⟨answer, rfl⟩
    | raised exc applied possible =>
        have never := raises exc
        exact absurd possible (by simp [never])

theorem Calm.finally {cleanup : Stack Unit} (body : Calm program) (cleans : Steady cleanup) :
    Calm (program.tryFinally cleanup) := by
  intro sends
  apply Program.meets_tryFinally
  refine (body sends).mono ?_
  rintro result _ ⟨rfl, notException⟩
  refine (cleans _).mono ?_
  rintro ended _ ⟨rfl, value, rfl⟩
  cases result with
  | ok value => exact ⟨rfl, fun _ impossible => nomatch impossible⟩
  | error exc => exact ⟨rfl, notException⟩

theorem Silent.finally {cleanup : Stack Unit} (body : Silent program) (cleans : Steady cleanup) :
    Silent (program.tryFinally cleanup) := by
  intro sends
  apply Program.meets_tryFinally
  refine (body sends).mono ?_
  rintro result _ rfl
  refine (cleans _).mono ?_
  rintro ended _ ⟨rfl, value, rfl⟩
  cases result with
  | ok value => rfl
  | error exc => rfl

/-! Programs that send. -/

theorem spends_perform {op : Op} (send : op.isSend = true) :
    Spends cap (before + 1) before (perform op) := by
  intro sends room
  have settled : sends.settled = false := room.1
  apply Program.meets_call
  intro outcome _
  refine ⟨fun _ => settled, ?_⟩
  have counted : contract.observe sends ⟨op, outcome⟩ =
      ⟨sends.made + 1, sends.settled || !failed ⟨op, outcome⟩⟩ := observe_send send
  rw [counted]
  have bound : sends.made + (before + 1) ≤ cap := room.2
  refine ⟨?_, ?_⟩
  · change sends.made + 1 ≤ cap
    omega
  · intro exc ends exception
    cases outcome with
    | returned _ => cases ends
    | raised exc' applied possible =>
        cases ends
        refine ⟨?_, ?_⟩
        · simp [settled, failed, exception]
        · change sends.made + 1 + before ≤ cap
          omega

theorem Spends.finally {cleanup : Stack Unit} (body : Spends cap before left program)
    (cleans : Steady cleanup) : Spends cap before left (program.tryFinally cleanup) := by
  intro sends room
  apply Program.meets_tryFinally
  refine (body sends room).mono ?_
  rintro result after ⟨under, fails⟩
  refine (cleans after).mono ?_
  rintro ended _ ⟨rfl, value, rfl⟩
  cases result with
  | ok value => exact ⟨under, fun _ impossible => nomatch impossible⟩
  | error exc => exact ⟨under, fails⟩

/-- What comes before the sends. -/
theorem Silent.followed {next : α → Stack β} (first : Silent program)
    (rest : ∀ value, Spends cap before left (next value)) (le : left ≤ before) :
    Spends cap before left (program >>= next) := by
  intro sends room
  refine Program.meets_bind.mpr ((first sends).mono ?_)
  rintro result _ rfl
  cases result with
  | ok value => exact rest value _ room
  | error exc => exact ⟨room.under, fun _ _ _ => room.fewer le⟩

/-- What comes after a send that did not fail. -/
theorem Spends.followed {next : α → Stack β} (first : Spends cap before left program)
    (rest : ∀ value, Calm (next value)) : Spends cap before left (program >>= next) := by
  intro sends room
  refine Program.meets_bind.mpr ((first sends room).mono ?_)
  rintro result after ⟨under, fails⟩
  cases result with
  | ok value =>
      refine (rest value after).mono ?_
      rintro result _ ⟨rfl, notException⟩
      refine ⟨under, fun exc ends exception => ?_⟩
      rw [notException exc ends] at exception
      cases exception
  | error exc => exact ⟨under, fun other same => by cases same; exact fails exc rfl⟩

/-- A handler of exceptions that are an `Exception` sends again. -/
theorem Spends.catch {handle : Exc → Stack α} {last : Nat}
    (body : Spends cap before left program)
    (handled : ∀ exc, exc.isException = true → Spends cap left last (handle exc))
    (others : ∀ exc, exc.isException = false → handle exc = throw exc) :
    Spends cap before last (tryCatch program handle) := by
  intro sends room
  refine Program.meets_tryCatch.mpr ((body sends room).mono ?_)
  rintro result after ⟨under, fails⟩
  cases result with
  | ok value => exact ⟨under, fun _ impossible => nomatch impossible⟩
  | error exc =>
      cases exception : exc.isException with
      | true => exact handled exc exception after (fails exc rfl exception)
      | false =>
          change (handle exc).Meets contract after _
          rw [others exc exception]
          refine ⟨under, fun other same isException => ?_⟩
          cases same
          rw [exception] at isException
          cases isException

theorem spends_throw {exc : Exc} (le : left ≤ before) :
    Spends cap before left (throw exc : Stack α) :=
  fun _ room => ⟨room.under, fun _ _ _ => room.fewer le⟩

end Sends

/-! ### The sends of each backend -/

section Backends

open Sends

variable {cap left : Nat} (wrapper : Wrapper) (name : String) (arguments : Arguments)

theorem silent_connect : Silent (connect wrapper) := by
  refine (silent_perform rfl).catch fun exc => ?_
  split
  · exact (silent_perform rfl).logged.silent
  · split
    · exact (silent_perform rfl).bind fun _ => silent_throw _
    · exact silent_throw exc

theorem calm_disconnect : Calm (disconnect wrapper) := by
  have asks : Calm (perform (.hasSession wrapper)) :=
    calm_perform rfl fun _ impossible => nomatch impossible
  refine asks.bind fun hasSession => ?_
  split
  · have leaves : Silent (perform (.exitSession wrapper)) := silent_perform rfl
    exact leaves.logged.finally (steady_perform rfl fun _ => rfl)
  · exact calm_pure _

theorem silent_hardClose : Silent (hardClose wrapper) := by
  have marks : Silent (perform (.setConnected wrapper false)) := silent_perform rfl
  refine Silent.bind (silent_perform rfl) fun isConnected => ?_
  split
  · exact (calm_disconnect wrapper).silent.logged.silent.bind fun _ => marks
  · exact marks

theorem silent_ready : Silent (ready wrapper) := by
  have asks : Silent (perform (.isConnected wrapper)) := silent_perform rfl
  have marks : Silent (perform (.setConnected wrapper true)) := silent_perform rfl
  have connects : ∀ isConnected : Bool, Silent (if isConnected then pure () else do
      connect wrapper
      perform (.setConnected wrapper true) : Stack Unit) := by
    intro isConnected
    split
    · exact silent_pure _
    · exact (silent_connect wrapper).bind fun _ => marks
  refine Silent.bind (silent_perform rfl) fun isForeign => ?_
  split
  · exact (silent_hardClose wrapper).bind fun _ => asks.bind connects
  · exact asks.bind connects

/-- A session that fails leaves the rest to a plain request. -/
theorem spends_callWrapper : Spends cap (left + 2) left (callWrapper wrapper name arguments) := by
  have sdk : Spends cap (left + 2) (left + 1) (perform (.sdkCall wrapper name arguments)) :=
    spends_perform rfl
  have http : Spends cap (left + 1) left (perform (.httpCall wrapper name arguments)) :=
    spends_perform rfl
  have asks : Steady (perform (.hasSession wrapper)) := steady_perform rfl fun _ => rfl
  intro sends room
  refine Program.meets_bind.mpr (Program.meets_tryCatch.mpr (Program.meets_bind.mpr ?_))
  refine (asks sends).mono ?_
  rintro _ _ ⟨rfl, hasSession, rfl⟩
  cases hasSession with
  | false => exact http _ (room.fewer (Nat.le_succ _))
  | true =>
      refine Program.meets_bind.mpr ((sdk _ room).mono ?_)
      rintro result after ⟨under, fails⟩
      cases result with
      | ok value => exact ⟨under, fun _ impossible => nomatch impossible⟩
      | error exc =>
          change (if exc.isException = true then pure none else throw exc : Stack _).Meets _ _ _
          split
          · next exception => exact http _ (fails exc rfl exception)
          · next notException =>
              refine ⟨under, fun _ same exception => ?_⟩
              cases same
              exact absurd exception notException

theorem spends_acquire (endpointUrl transport : String) :
    Spends cap (left + 2) left
      (acquire endpointUrl transport fun wrapper => callWrapper wrapper name arguments) := by
  have some_left : left ≤ left + 2 := Nat.le_add_right _ _
  refine Silent.followed (silent_perform rfl) (fun wrapper => ?_) some_left
  refine Silent.followed (silent_perform rfl) (fun _ => ?_) some_left
  refine Spends.finally ?_ (steady_perform rfl fun _ => rfl)
  exact (silent_ready wrapper).followed (fun _ => spends_callWrapper wrapper name arguments)
    some_left

theorem silent_markBroken (endpointUrl transport : String) :
    Silent (markBroken endpointUrl transport) := by
  refine Silent.bind (silent_perform rfl) fun found => ?_
  cases found with
  | none => exact silent_pure _
  | some wrapper =>
      refine Silent.bind (silent_perform rfl) fun _ => ?_
      exact (silent_hardClose wrapper).finally (steady_perform rfl fun _ => rfl)

theorem isException_of_reconnectable {exc : Exc}
    (broken : reconnectable.any exc.isinstance = true) : exc.isException = true := by
  have all : ∀ cls : ExcClass, reconnectable.any cls.mro.contains = true →
      cls.mro.contains .Exception = true := by
    intro cls
    cases cls <;> decide
  exact all exc.cls broken

/-- A pooled call is made twice, and each has its fallback. -/
theorem spends_callPool (endpointUrl transport : String) :
    Spends cap 4 0 (callPool endpointUrl transport name arguments) := by
  refine Spends.catch (spends_acquire name arguments endpointUrl transport) ?_ ?_
  · intro exc _
    split
    · exact (silent_markBroken endpointUrl transport).followed
        (fun _ => spends_acquire name arguments endpointUrl transport) (Nat.zero_le _)
    · exact spends_throw (Nat.zero_le _)
  · intro exc notException
    apply if_neg
    intro broken
    rw [isException_of_reconnectable broken] at notException
    cases notException

theorem spends_callComposio (config : List (String × Value)) :
    Spends cap 3 0 (callComposio config name arguments) := by
  have keys : Silent (apiKey config) := by
    unfold apiKey
    split
    · exact silent_pure _
    · exact silent_perform rfl
  refine keys.followed (fun key => ?_) (Nat.zero_le _)
  have sdk : Spends cap 3 1 (callSdk config name arguments) := by
    refine Silent.followed (silent_perform rfl) (fun wrapper => ?_) (by decide)
    refine (silent_connect wrapper).followed (fun _ => ?_) (by decide)
    refine (spends_callWrapper wrapper name arguments).followed fun result => ?_
    exact (calm_disconnect wrapper).bind fun _ => calm_pure result
  refine sdk.catch ?_ ?_
  · intro exc exception
    rw [if_pos exception]
    have rest : Spends cap 1 0 (perform (.restCall key name arguments)) := spends_perform rfl
    unfold callRest
    split
    · exact (silent_throw _).followed (fun _ => rest) (Nat.zero_le _)
    · exact rest
  · intro exc notException
    exact if_neg (by simp [notException])

/-- The sends of one call of the router. -/
def sendsOf : ServerType → Nat
  | .remoteSse | .remoteHttp => 4
  | .composio => 3
  | _ => 1

theorem spends_runBackend {call : RouteCall} {backend : BackendCall}
    (dispatched : dispatch call = .ok backend) :
    Spends cap (sendsOf call.serverType) 0 (runBackend backend) := by
  unfold dispatch at dispatched
  cases server : call.serverType with
  | localPlugin | e2b | device =>
      rw [server] at dispatched
      cases dispatched
      exact spends_perform rfl
  | composio =>
      rw [server] at dispatched
      cases dispatched
      exact spends_callComposio _ _ _
  | remoteSse | remoteHttp =>
      rw [server] at dispatched
      simp only [runRemote] at dispatched
      split at dispatched
      · cases dispatched
      · cases dispatched
        exact spends_callPool _ _ _ _

/-- One call of the router sends so often. -/
theorem meets_routed {call : RouteCall} {sends : Sends}
    (room : Room cap (sendsOf call.serverType) sends) :
    (routed call).Meets contract sends fun _ after => Under cap after := by
  unfold routed
  split
  · next backend dispatched =>
      refine Program.meets_tryCatch.mpr ((spends_runBackend dispatched sends room).mono ?_)
      rintro result after ⟨under, _⟩
      cases result with
      | ok value => exact under
      | error exc =>
          have waits : Silent (do
              if exc.isCancelled then
                if ← perform .timedOut then throw ⟨.TimeoutError, ""⟩
              throw exc : Stack Value) := by
            split
            · refine Silent.bind (silent_perform rfl) fun late => ?_
              split
              · exact (silent_throw _).bind fun _ => silent_throw exc
              · exact silent_throw exc
            · exact silent_throw exc
          refine (waits after).mono ?_
          rintro _ _ rfl
          exact under
  · exact room.under

end Backends

/-! ### The sends of a run -/

/-- A pause of the execution service. -/
def paused (sends : Sends) (event : RunEvent) : Sends :=
  if event.op.isSleep then { sends with settled := false } else sends

def pauses : Contract Execution.effects Sends where
  observe := paused
  assume _ _ := True
  guarantee _ _ := True

/-- The sends of the calls so far. -/
def Counted (serverType : ServerType) (calls : Attempts.Calls) (sends : Sends) : Prop :=
  sends.made ≤ sendsOf serverType * calls.made ∧ (calls.rested = true → sends.settled = false)

theorem Counted.performed {serverType : ServerType} {calls : Attempts.Calls} {sends : Sends}
    {event : RunEvent} (counted : Counted serverType calls sends)
    (notRoute : event.op.isRoute = false) :
    Counted serverType (Attempts.observe calls event) (paused sends event) := by
  cases sleep : event.op.isSleep with
  | false =>
      have same : paused sends event = sends := by simp [paused, sleep]
      rw [Attempts.observe_of_other notRoute sleep, same]
      exact counted
  | true =>
      have rests : Attempts.observe calls event = { calls with rested := true } := by
        simp [Attempts.observe, notRoute, sleep]
      have forgets : paused sends event = { sends with settled := false } := by
        simp [paused, sleep]
      rw [rests, forgets]
      exact ⟨counted.1, fun _ => rfl⟩

theorem handles_sends (serverType : ServerType) :
    Program.Handles handler (Attempts.contract serverType) pauses Sends.contract
      (Counted serverType) := by
  constructor
  · intro op calls sends outcome own counted _
    have notRoute : op.isRoute = false := by
      have none := isNone_handler op
      rw [own] at none
      simpa using none
    exact ⟨trivial, fun _ => ⟨trivial, counted.performed notRoute⟩⟩
  · intro op body calls sends found counted guaranteed
    cases op with
    | route call =>
        cases found
        have first := guaranteed (.raised ⟨.Exception, ""⟩ true rfl) trivial call rfl
        rcases first with ⟨rfl, rested, _⟩
        have room : Sends.Room (sendsOf call.serverType * (calls.made + 1))
            (sendsOf call.serverType) sends := by
          refine ⟨counted.2 rested, ?_⟩
          rw [Nat.mul_succ]
          exact Nat.add_le_add_right counted.1 _
        refine (meets_routed room).mono ?_
        intro result after under
        have later : ∀ outcome, Counted call.serverType
            (Attempts.observe calls ⟨.route call, outcome⟩) after :=
          fun outcome => ⟨under, fun impossible => (nomatch impossible)⟩
        cases result with
        | ok value => exact ⟨.returned value, rfl, trivial, later (.returned value)⟩
        | error exc => exact ⟨.raised exc true rfl, rfl, trivial, later (.raised exc true rfl)⟩
    | _ => cases found

/-- An event that sends the request. -/
def isSend (event : Event effects) : Bool :=
  match event with
  | ⟨.inl _, _⟩ => false
  | ⟨.inr op, _⟩ => op.isSend

def isPause (event : Event effects) : Bool :=
  match event with
  | ⟨.inl op, _⟩ => op.isSleep
  | ⟨.inr _, _⟩ => false

/-- An `Exception` is raised. -/
def isFailure (event : Event effects) : Bool :=
  event.outcome.exception?.any (·.isException)

section Events

variable {event : Event effects} {sends : Sends}

theorem observe_of_send (send : isSend event = true) :
    (pauses.both Sends.contract).observe sends event =
      ⟨sends.made + 1, sends.settled || !isFailure event⟩ := by
  rcases event with ⟨op, outcome⟩
  cases op with
  | inl op => cases send
  | inr op =>
      have sent : op.isSend = true := send
      have same : failed ⟨op, outcome.right⟩ = isFailure ⟨.inr op, outcome⟩ := by
        cases outcome with
        | returned answer => rfl
        | raised exc applied possible => rfl
      rw [← same]
      exact (Sends.observe_send sent : sends.observe ⟨op, outcome.right⟩ = _)

theorem made_of_not_send (notSend : isSend event = false) :
    ((pauses.both Sends.contract).observe sends event).made = sends.made := by
  rcases event with ⟨op, outcome⟩
  cases op with
  | inl op =>
      change (paused sends _).made = sends.made
      rw [paused]
      split
      · rfl
      · rfl
  | inr op =>
      have other : op.isSend = false := notSend
      have same : sends.observe ⟨op, outcome.right⟩ = sends := Sends.observe_of_other other
      exact congrArg Sends.made same

theorem settled_of_not_pause (settled : sends.settled = true) (awake : isPause event = false) :
    ((pauses.both Sends.contract).observe sends event).settled = true := by
  cases send : isSend event with
  | true =>
      rw [observe_of_send send]
      simp [settled]
  | false =>
      rcases event with ⟨op, outcome⟩
      cases op with
      | inl op =>
          change (paused sends _).settled = true
          rw [paused, if_neg (by simpa [isPause] using awake)]
          exact settled
      | inr op =>
          have other : op.isSend = false := send
          have same : sends.observe ⟨op, outcome.right⟩ = sends := Sends.observe_of_other other
          exact (congrArg Sends.settled same).trans settled

end Events

theorem foldl_made (trace : List (Event effects)) (sends : Sends) :
    (trace.foldl (pauses.both Sends.contract).observe sends).made =
      sends.made + trace.countP isSend := by
  induction trace generalizing sends with
  | nil => rfl
  | cons event trace induction =>
      rw [List.foldl_cons, induction, List.countP_cons]
      cases send : isSend event with
      | true =>
          rw [observe_of_send send]
          simp only [if_true]
          omega
      | false =>
          rw [made_of_not_send send]
          simp

theorem foldl_settled {middle : List (Event effects)} {sends : Sends}
    (settled : sends.settled = true) (awake : ∀ event ∈ middle, isPause event = false) :
    (middle.foldl (pauses.both Sends.contract).observe sends).settled = true := by
  induction middle generalizing sends with
  | nil => exact settled
  | cons event middle induction =>
      exact induction (settled_of_not_pause settled (awake event List.mem_cons_self))
        fun other member => awake other (List.mem_cons_of_mem _ member)

/-- Surroundings in which the servers are connected and do not answer. -/
def unanswered : Environment effects := fun _ op =>
  match op with
  | .inl op =>
      match undisturbed Uuid.zero (fun _ => none) .none [] op with
      | .returned answer => .returned answer
      | .raised exc applied possible => .raised exc applied possible
  | .inr (.backend _) | .inr (.sdkCall _ _ _) | .inr (.httpCall _ _ _) | .inr (.restCall _ _ _) =>
      .raised ⟨.TimeoutError, "timed out"⟩ true rfl
  | .inr (.getEntry url transport) => .returned ⟨0, .str url, .str transport⟩
  | .inr (.findEntry url transport) => .returned (some ⟨0, .str url, .str transport⟩)
  | .inr (.newWrapper url transport) => .returned ⟨0, url, transport⟩
  | .inr (.isConnected _) | .inr (.hasSession _) => .returned true
  | .inr (.isForeign _) | .inr .timedOut => .returned false
  | .inr (.str _) => .returned ""
  | .inr .composioApiKey => .returned (.str "key")
  | .inr (.lockEntry _) | .inr (.unlockEntry _) | .inr (.setConnected _ _)
  | .inr (.openSession _) | .inr (.exitSession _) | .inr (.clearSession _)
  | .inr (.httpProbe _) => .returned ()

def remoteJob (serverType : ServerType) : Job :=
  { exampleJob with routing := ⟨serverType, some "https://weather.example", none⟩ }

example : ((stack (run (remoteJob .remoteSse))).trace unanswered).countP isSend = 12 := by
  decide +kernel

example : ((stack (run (remoteJob .composio))).trace unanswered).countP isSend = 9 := by
  decide +kernel

end GrafuxMcp.Remote
