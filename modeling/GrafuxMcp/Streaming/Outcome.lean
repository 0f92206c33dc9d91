import GrafuxMcp.Streaming.Delivery
import GrafuxMcp.Execution.EventStream
import GrafuxMcp.Foundation.Trace

/-! # Who learns how an invocation ends

The bus keeps no event for those that subscribe later, and a generator that finds its
deadline passed does not look into its queue. -/

namespace GrafuxMcp.Streaming

open GrafuxMcp Redis

variable {Data : Type}

/-! ### A run among its subscribers -/

def typeName : Execution.EventType → String
  | .log => "log"
  | .result => "result"
  | .error => "error"

/-- The data of the run's events are JSON values, too. -/
def payloadOf (data : Execution.EventData → Data) (event : Execution.BusEvent) : Payload Data :=
  ⟨typeName event.type, data event.data, event.final⟩

/-- The process while an invocation runs. -/
structure Session (Data : Type) where
  bus : Bus Data
  /-- What the run is still to do. -/
  rest : List Execution.RunEvent
  /-- The times at which the run has published a final event. -/
  finals : List ℚ := []

inductive Move (Data : Type)
  /-- The run performs its next operation. -/
  | run
  /-- Anything else on the bus. -/
  | bus (action : Action Data)

namespace Session

variable (json : Json Data) (data : Execution.EventData → Data) (invocationId : Text)
  (session : Session Data)

def perform (event : Execution.RunEvent) (rest : List Execution.RunEvent) : Session Data :=
  let sent := Execution.Stream.sentOn (Execution.invocationEvents invocationId) event
  { bus := sent.foldl (fun bus event => bus.publish json invocationId (payloadOf data event))
      session.bus
    rest
    finals := if sent.any (·.final) then session.bus.now :: session.finals else session.finals }

/-- A move that is not possible does nothing. -/
def step : Move Data → Session Data
  | .run =>
      match session.rest with
      | [] => session
      | event :: rest => session.perform json data invocationId event rest
  | .bus action => { session with bus := (session.bus.step json action).getD session.bus }

def run (moves : List (Move Data)) : Session Data :=
  moves.foldl (step json data invocationId) session

end Session

/-- The background run of `invoke_async` is about to begin. -/
def Session.start (job : Execution.Job) (environment : Environment Execution.effects) (now : ℚ) :
    Session Data :=
  { bus := { now }, rest := (Execution.runBackground job).trace environment }

/-! ### The property -/

/-- The generator gets there by turns of its own. -/
def Bus.Reaches (json : Json Data) (id : QueueId) (bus new : Bus Data) : Prop :=
  ∃ turns : List Turn, bus.run json (turns.map (.turn id)) = some new

def GivenFinal (self : Subscriber Data) : Prop :=
  ∃ event ∈ self.yielded, event.final = true

/-- A generator that its client does not close gives it a final event: it has done so
when it ends, and until its deadline its own turns lead there. -/
structure LearnsOutcome (json : Json Data) (bus : Bus Data) (id : QueueId)
    (subscriber : Subscriber Data) : Prop where
  ended : ∀ ending, subscriber.stage = .ended ending → ending ≠ .closed → GivenFinal subscriber
  live : subscriber.isLive = true → bus.now < subscriber.deadline →
    ∃ new next, bus.Reaches json id new ∧ new.subscribers id = some next ∧ GivenFinal next

/-- Every generator for the invocation gives the outcome, if the run has published it
before the generator's deadline. -/
def Session.Informs (json : Json Data) (invocationId : Text) (session : Session Data) : Prop :=
  ∀ id self, session.bus.subscribers id = some self → self.invocationId = invocationId →
    (∃ time ∈ session.finals, time < self.deadline) → LearnsOutcome json session.bus id self

/-! ### The condition -/

/-- No final event was published before a generator subscribes, and none that was
published in time waits in the queue of a generator that finds its deadline passed. -/
def InTime (json : Json Data) (invocationId : Text) (session : Session Data) : Move Data → Prop
  | .bus (.subscribe _ target _) => target = invocationId → session.finals = []
  | .bus (.turn id .poll) => ∀ self, session.bus.subscribers id = some self →
      self.invocationId = invocationId → self.deadline ≤ session.bus.now →
        (∃ time ∈ session.finals, time < self.deadline) →
          ∀ message ∈ session.bus.redis.queues id, ∀ event, json.loads message = some event →
            event.final = false
  | _ => True

/-! ### A generator that goes on -/

section Progress

variable {json : Json Data} {bus new : Bus Data} {id : QueueId} {self : Subscriber Data}
  {sent waiting : List (Payload Data)} {event : Payload Data}

theorem reaches_refl (bus : Bus Data) : bus.Reaches json id bus :=
  ⟨[], rfl⟩

theorem Bus.Reaches.trans {middle : Bus Data} (first : bus.Reaches json id middle)
    (second : middle.Reaches json id new) : bus.Reaches json id new := by
  rcases first with ⟨before, runs⟩
  rcases second with ⟨after, later⟩
  refine ⟨before ++ after, ?_⟩
  rw [List.map_append, Bus.run_append, runs, Option.bind_some, later]

theorem Bus.Reaches.consistent (reaches : bus.Reaches json id new) (consistent : Consistent bus) :
    Consistent new := by
  rcases reaches with ⟨turns, runs⟩
  exact consistent_run consistent runs

theorem reaches_turn {turn : Turn} (found : bus.subscribers id = some self)
    (moves : bus.turn json id self turn = some new) : bus.Reaches json id new := by
  refine ⟨[turn], ?_⟩
  rw [List.map_singleton, Bus.run_cons, Bus.step, found]
  simp only [moves, Option.bind_some]
  rfl

/-- The subscriber with one more event. -/
def Subscriber.given (self : Subscriber Data) (event : Payload Data) : Subscriber Data :=
  { self with stage := .yielding event.final, yielded := self.yielded ++ [event] }

/-- `get_message` returns the oldest message, which becomes the next event. -/
theorem reaches_received {wakeAt : ℚ} (consistent : Consistent bus)
    (found : bus.subscribers id = some self) (stage : self.stage = .waiting wakeAt)
    (queued : bus.redis.queues id = (event :: waiting).map json.dumps) :
    ∃ new, bus.Reaches json id new ∧ new.now = bus.now ∧
      new.redis.queues id = waiting.map json.dumps ∧
      new.subscribers id = some (self.given event) := by
  have live : self.isLive = true := by rw [Subscriber.isLive, stage]
  have own : self.pubsub.queue = id := by rw [consistent.pubsub id self found live]
  have moves : bus.turn json id self .receive =
      some ({ bus with redis := bus.redis.setQueue id (waiting.map json.dumps) }.set id
        (self.given event)) := by
    simp only [Bus.turn, stage, Bus.receive, InMemoryPubSub.getMessage, own, queued, List.map_cons,
      json.loads_dumps, Subscriber.given]
  exact ⟨_, reaches_turn found moves, rfl, Function.update_self .., Bus.set_self⟩

/-- The head of the loop, before the deadline. -/
theorem reaches_waiting (json : Json Data) (found : bus.subscribers id = some self) (stage : self.stage = .polling)
    (early : bus.now < self.deadline) :
    ∃ wakeAt, bus.Reaches json id (bus.goto id self (.waiting wakeAt)) := by
  refine ⟨bus.now + min (self.deadline - bus.now) 5, ?_⟩
  have remaining : ¬ self.deadline - bus.now ≤ 0 := not_le.mpr (sub_pos.mpr early)
  have moves : bus.turn json id self .poll =
      some (bus.goto id self (.waiting (bus.now + min (self.deadline - bus.now) 5))) := by
    simp only [Bus.turn, stage, Bus.poll, if_neg remaining]
  exact reaches_turn found moves

theorem reaches_polled (consistent : Consistent bus) (found : bus.subscribers id = some self)
    (stage : self.stage = .polling) (early : bus.now < self.deadline)
    (queued : bus.redis.queues id = (event :: waiting).map json.dumps) :
    ∃ new, bus.Reaches json id new ∧ new.now = bus.now ∧
      new.redis.queues id = waiting.map json.dumps ∧
      new.subscribers id = some (self.given event) := by
  rcases reaches_waiting json found stage early with ⟨wakeAt, first⟩
  rcases reaches_received (first.consistent consistent) Bus.set_self rfl queued with
    ⟨new, second, now, queue, given⟩
  exact ⟨new, first.trans second, now, queue, given⟩

/-- A final event in the queue is given, if time does not run out. -/
theorem reaches_final (consistent : Consistent bus) (found : bus.subscribers id = some self)
    (early : bus.now < self.deadline)
    (stage : self.stage = .polling ∨ self.stage = .yielding false)
    (queued : bus.redis.queues id = waiting.map json.dumps)
    (final : ∃ event ∈ waiting, event.final = true) :
    ∃ new next, bus.Reaches json id new ∧ new.subscribers id = some next ∧ GivenFinal next := by
  induction waiting generalizing bus self with
  | nil => simp at final
  | cons event waiting induction =>
      -- back at the head of the loop
      have head : ∃ first polling, bus.Reaches json id first ∧ first.now = bus.now ∧
          first.redis.queues id = bus.redis.queues id ∧ first.subscribers id = some polling ∧
          polling.stage = .polling ∧ polling.deadline = self.deadline := by
        rcases stage with polling | yielding
        · exact ⟨bus, self, reaches_refl bus, rfl, rfl, found, polling, rfl⟩
        · have moves : bus.turn json id self .resume = some (bus.goto id self .polling) := by
            simp [Bus.turn, yielding, Bus.resume]
          exact ⟨_, _, reaches_turn found moves, rfl, rfl, Bus.set_self, rfl, rfl⟩
      rcases head with ⟨first, polling, reached, now, queue, present, atHead, deadline⟩
      have early' : first.now < polling.deadline := by rw [now, deadline]; exact early
      rcases reaches_polled (reached.consistent consistent) present atHead early'
        (queue.trans queued) with ⟨second, received, now', queue', given⟩
      have arrived := reached.trans received
      by_cases last : event.final = true
      · exact ⟨second, _, arrived, given, event, List.mem_append_right _ List.mem_cons_self, last⟩
      · have open_ : event.final = false := by simpa using last
        have later : ∃ event ∈ waiting, event.final = true := by
          rcases final with ⟨other, member, isFinal⟩
          rcases List.mem_cons.mp member with same | inside
          · rw [same] at isFinal
            exact absurd isFinal last
          · exact ⟨other, inside, isFinal⟩
        have early'' : second.now < (polling.given event).deadline := by
          rw [now']
          exact early'
        have yielding : (polling.given event).stage = .yielding false := by
          rw [← open_]
          rfl
        rcases induction (arrived.consistent consistent) given early'' (Or.inr yielding) queue'
          later with ⟨new, next, reaches, found', isGiven⟩
        exact ⟨new, next, arrived.trans reaches, found', isGiven⟩

/-- Once a final event was sent to it, a live generator can give one. -/
theorem Delivering.reaches_final (delivering : Delivering json (bus.redis.queues id) self sent)
    (consistent : Consistent bus) (found : bus.subscribers id = some self)
    (live : self.isLive = true) (early : bus.now < self.deadline)
    (final : ∃ event ∈ sent, event.final = true) :
    ∃ new next, bus.Reaches json id new ∧ new.subscribers id = some next ∧ GivenFinal next := by
  rcases delivering.pending live with ⟨waiting, whole, queued⟩
  by_cases given : GivenFinal self
  · exact ⟨bus, self, reaches_refl bus, found, given⟩
  have later : ∃ event ∈ waiting, event.final = true := by
    rcases final with ⟨event, member, isFinal⟩
    rw [whole] at member
    rcases List.mem_append.mp member with before | after
    · exact absurd ⟨event, before, isFinal⟩ given
    · exact ⟨event, after, isFinal⟩
  cases stage : self.stage with
  | polling => exact Streaming.reaches_final consistent found early (Or.inl stage) queued later
  | ended ending => simp [Subscriber.isLive, stage] at live
  | yielding last =>
      cases last with
      | false => exact Streaming.reaches_final consistent found early (Or.inr stage) queued later
      | true =>
          have fits := delivering.fits
          rw [stage] at fits
          rcases fits with ⟨earlier, event, equal, _, isFinal⟩
          have member : event ∈ self.yielded := by simp [equal]
          exact absurd ⟨event, member, isFinal⟩ given
  | waiting wakeAt =>
      cases waiting with
      | nil => simp at later
      | cons event waiting =>
          rcases reaches_received consistent found stage queued with
            ⟨middle, received, now, queue, present⟩
          by_cases last : event.final = true
          · exact ⟨middle, _, received, present, event,
              List.mem_append_right _ List.mem_cons_self, last⟩
          · have open_ : event.final = false := by simpa using last
            have behind : ∃ event ∈ waiting, event.final = true := by
              rcases later with ⟨other, member, isFinal⟩
              rcases List.mem_cons.mp member with same | inside
              · rw [same] at isFinal
                exact absurd isFinal last
              · exact ⟨other, inside, isFinal⟩
            have early' : middle.now < (self.given event).deadline := by
              rw [now]
              exact early
            have yielding : (self.given event).stage = .yielding false := by
              rw [← open_]
              rfl
            rcases Streaming.reaches_final (received.consistent consistent) present early'
              (Or.inr yielding) queue behind with ⟨new, next, reaches, found', isGiven⟩
            exact ⟨new, next, received.trans reaches, found', isGiven⟩

end Progress

/-! ### Every run -/

section Runs

variable {json : Json Data} {data : Execution.EventData → Data} {invocationId : Text}
  {session : Session Data} {bus new : Bus Data} {id : QueueId} {self next : Subscriber Data}
  {sent : List (Payload Data)} {finals : List ℚ}

/-- What a generator has been sent tells the outcome, and it has given it unless it still
goes on or the outcome came too late. -/
structure Informed (json : Json Data) (bus : Bus Data) (finals : List ℚ) (id : QueueId)
    (subscriber : Subscriber Data) (sent : List (Payload Data)) : Prop where
  delivering : Delivering json (bus.redis.queues id) subscriber sent
  told : finals ≠ [] → ∃ event ∈ sent, event.final = true
  overdue : subscriber.stage = .ended .deadline → subscriber.deadline ≤ bus.now ∧
    ((∃ time ∈ finals, time < subscriber.deadline) → GivenFinal subscriber)

/-- All generators for the invocation. -/
structure AllInformed (json : Json Data) (invocationId : Text) (bus : Bus Data)
    (finals : List ℚ) : Prop where
  consistent : Consistent bus
  each : ∀ id self, bus.subscribers id = some self → self.invocationId = invocationId →
    ∃ sent, Informed json bus finals id self sent

/-- A generator either stays as it is or takes a turn. -/
theorem StepEffect.stays_or_turns {action : Action Data}
    (effect : StepEffect json bus action new) (consistent : Consistent bus)
    (found : bus.subscribers id = some self) (present : new.subscribers id = some next) :
    next = self ∨ ∃ turn, action = .turn id turn ∧ TurnEffect json bus id self turn new := by
  have stays : new.subscribers id = bus.subscribers id → next = self := by
    intro same
    rw [same, found, Option.some.injEq] at present
    exact present.symm
  cases effect with
  | publish | elapse => exact Or.inl (stays rfl)
  | @subscribe other unused =>
      have different : id ≠ other := by
        intro same
        rw [same, unused] at found
        cases found
      exact Or.inl (stays (Bus.set_of_ne different))
  | @turn other actor turn _ actorFound effect =>
      by_cases same : other = id
      · rw [same] at actorFound effect ⊢
        rw [found, Option.some.injEq] at actorFound
        rw [← actorFound] at effect
        exact Or.inr ⟨turn, rfl, effect⟩
      · have different : id ≠ other := fun equal => same equal.symm
        exact Or.inl (stays (effect.frame consistent actorFound different).1)

theorem TurnEffect.invocation {turn : Turn} (effect : TurnEffect json bus id self turn new)
    (consistent : Consistent bus) (found : bus.subscribers id = some self)
    (present : new.subscribers id = some next) : next.invocationId = self.invocationId := by
  have live := effect.isLive
  cases effect with
  | overdue | last | close =>
      rw [finish_eq consistent found live, Bus.set_self, Option.some.injEq] at present
      rw [← present]
  | poll | timeOut | next | skip =>
      rw [Bus.goto, Bus.set_self, Option.some.injEq] at present
      rw [← present]
  | receive =>
      rw [Bus.set_self, Option.some.injEq] at present
      rw [← present]

/-- A new generator has just subscribed. -/
theorem StepEffect.subscribed {action : Action Data} (effect : StepEffect json bus action new)
    (consistent : Consistent bus) (unknown : bus.subscribers id = none)
    (present : new.subscribers id = some next) :
    ∃ target timeout, action = .subscribe id target timeout ∧
      new = bus.subscribe id target timeout := by
  have absent : new.subscribers id ≠ bus.subscribers id := by
    rw [unknown, present]
    simp
  cases effect with
  | publish | elapse => exact absurd rfl absent
  | @subscribe other unused target timeout =>
      by_cases same : id = other
      · rw [same]
        exact ⟨target, timeout, rfl, rfl⟩
      · exact absurd (Bus.set_of_ne same) absent
  | @turn other actor turn _ found effect =>
      have different : id ≠ other := by
        intro same
        rw [← same, unknown] at found
        cases found
      exact absurd (effect.frame consistent found different).1 absent

/-- A turn that ends at the deadline gives no event. -/
theorem TurnEffect.overdue_cases {turn : Turn} (effect : TurnEffect json bus id self turn new)
    (consistent : Consistent bus) (found : bus.subscribers id = some self)
    (present : new.subscribers id = some next) (ended : next.stage = .ended .deadline) :
    turn = .poll ∧ self.deadline ≤ bus.now ∧ next.yielded = self.yielded := by
  have live := effect.isLive
  have finished : ∀ ending, (bus.finish id self ending).subscribers id = some next →
      ending = .deadline ∧ next.yielded = self.yielded := by
    intro ending present
    rw [finish_eq consistent found live, Bus.set_self, Option.some.injEq] at present
    rw [← present] at ended ⊢
    exact ⟨Stage.ended.inj ended, rfl⟩
  cases effect with
  | overdue stage late => exact ⟨rfl, late, (finished _ present).2⟩
  | last | close => cases (finished _ present).1
  | poll | timeOut | next | skip =>
      rw [Bus.goto, Bus.set_self, Option.some.injEq] at present
      rw [← present] at ended
      cases ended
  | receive =>
      rw [Bus.set_self, Option.some.injEq] at present
      rw [← present] at ended
      cases ended

/-- The condition on one action, with the times at which final events were published. -/
def Timely (json : Json Data) (invocationId : Text) (bus : Bus Data) (finals : List ℚ)
    (action : Action Data) : Prop :=
  InTime json invocationId { bus, rest := [], finals } (.bus action)

theorem Informed.action {action : Action Data} (informed : Informed json bus finals id self sent)
    (effect : StepEffect json bus action new) (consistent : Consistent bus)
    (found : bus.subscribers id = some self)
    (timely : Timely json self.invocationId bus finals action)
    (present : new.subscribers id = some next) :
    Informed json new finals id next (sent ++ publishedFor self.invocationId [action]) := by
  have stopped : StoppedFor id self bus.now [.turn id .close] :=
    ⟨fun stage => (informed.overdue stage).1, fun _ => List.mem_cons_self⟩
  rcases effect.continues consistent found informed.delivering stopped with ⟨other, continues⟩
  have same := continues.found
  rw [present, Option.some.injEq] at same
  rw [← same] at continues
  refine ⟨continues.delivering, ?_, ?_⟩
  · intro published
    rcases informed.told published with ⟨event, member, final⟩
    exact ⟨event, List.mem_append_left _ member, final⟩
  · intro ended
    have late := continues.stopped.overdue ended
    refine ⟨late, ?_⟩
    rw [continues.deadline]
    intro inTime
    rcases effect.stays_or_turns consistent found present with stays | ⟨turn, equal, turned⟩
    · rw [stays] at ended ⊢
      exact (informed.overdue ended).2 inTime
    · rcases turned.overdue_cases consistent found present ended with ⟨polled, passed, yielded⟩
      rw [equal, polled] at timely
      have unread := timely self found rfl passed inTime
      have live := turned.isLive
      rcases informed.delivering.pending live with ⟨waiting, whole, queued⟩
      rcases inTime with ⟨time, member, _⟩
      rcases informed.told (List.ne_nil_of_mem member) with ⟨event, inside, final⟩
      rw [whole] at inside
      rcases List.mem_append.mp inside with given | left
      · exact ⟨event, by rw [yielded]; exact given, final⟩
      · -- it would be in the queue
        have message : json.dumps event ∈ bus.redis.queues id := by
          rw [queued]
          exact List.mem_map_of_mem left
        have open_ := unread _ message event (json.loads_dumps event)
        rw [final] at open_
        cases open_

theorem AllInformed.action {action : Action Data}
    (informed : AllInformed json invocationId bus finals)
    (effect : StepEffect json bus action new)
    (timely : Timely json invocationId bus finals action) :
    AllInformed json invocationId new finals := by
  refine ⟨effect.consistent informed.consistent, ?_⟩
  intro id next present names
  cases found : bus.subscribers id with
  | some self =>
      have target : self.invocationId = invocationId := by
        rcases effect.stays_or_turns informed.consistent found present with stays | ⟨_, _, turned⟩
        · rw [← stays]
          exact names
        · exact (turned.invocation informed.consistent found present).symm.trans names
      rcases informed.each id self found target with ⟨sent, told⟩
      rw [← target] at timely
      exact ⟨_, told.action effect informed.consistent found timely present⟩
  | none =>
      rcases effect.subscribed informed.consistent found present with ⟨target, timeout, equal, same⟩
      rcases delivering_subscribe json bus id target timeout with
        ⟨fresh, joined, freshNames, _, delivering, live⟩
      rw [same] at present ⊢
      rw [joined, Option.some.injEq] at present
      rw [present] at freshNames delivering live
      rw [equal] at timely
      have early : finals = [] := timely (freshNames.symm.trans names)
      refine ⟨[], delivering, fun published => absurd early published, ?_⟩
      intro ended
      simp [Subscriber.isLive, ended] at live

/-- The run publishes on the channel of its invocation. -/
theorem AllInformed.publish (informed : AllInformed json invocationId bus finals)
    (payload : Payload Data) :
    AllInformed json invocationId (bus.publish json invocationId payload)
      (if payload.final then bus.now :: finals else finals) := by
  refine ⟨informed.consistent.of_channels rfl publish_channels, ?_⟩
  intro id self found names
  rcases informed.each id self found names with ⟨sent, told⟩
  have delivering := told.delivering.publish informed.consistent found invocationId payload
  refine ⟨_, delivering, ?_, ?_⟩
  · intro published
    by_cases final : payload.final = true
    · refine ⟨payload, ?_, final⟩
      simp [publishedFor, names]
    · rw [if_neg final] at published
      rcases told.told published with ⟨event, member, isFinal⟩
      exact ⟨event, List.mem_append_left _ member, isFinal⟩
  · intro ended
    have late := told.overdue ended
    refine ⟨late.1, ?_⟩
    intro inTime
    apply late.2
    rcases inTime with ⟨time, member, before⟩
    refine ⟨time, ?_, before⟩
    split at member
    · rcases List.mem_cons.mp member with now | earlier
      · -- a final event that is published now comes too late
        rw [now] at before
        exact absurd before (not_lt.mpr late.1)
      · exact earlier
    · exact member

theorem sentOn_cases (channel : Text) (event : Execution.RunEvent) :
    Execution.Stream.sentOn channel event = [] ∨
      ∃ payload, Execution.Stream.sentOn channel event = [payload] := by
  unfold Execution.Stream.sentOn
  split
  · split
    · exact Or.inr ⟨_, rfl⟩
    · exact Or.inl rfl
  · exact Or.inl rfl

def Session.AllInformed (json : Json Data) (invocationId : Text) (session : Session Data) : Prop :=
  Streaming.AllInformed json invocationId session.bus session.finals

theorem allInformed_step {move : Move Data} (informed : session.AllInformed json invocationId)
    (inTime : InTime json invocationId session move) :
    (session.step json data invocationId move).AllInformed json invocationId := by
  cases move with
  | run =>
      unfold Session.step
      cases session.rest with
      | nil => exact informed
      | cons event rest =>
          simp only [Session.perform, Session.AllInformed]
          rcases sentOn_cases (Execution.invocationEvents invocationId) event with
            none_ | ⟨payload, one⟩
          · rw [none_]
            exact informed
          · rw [one]
            simp only [List.foldl_cons, List.foldl_nil, List.any_cons, List.any_nil, Bool.or_false]
            exact Streaming.AllInformed.publish informed (payloadOf data payload)
  | bus action =>
      have stepped : session.step json data invocationId (.bus action) =
          { session with bus := (session.bus.step json action).getD session.bus } := rfl
      rw [stepped]
      cases moves : session.bus.step json action with
      | none => exact informed
      | some new => exact Streaming.AllInformed.action informed (step_effect moves) inTime

theorem allInformed_start (job : Execution.Job) (environment : Environment Execution.effects)
    (now : ℚ) :
    (Session.start job environment now : Session Data).AllInformed json invocationId := by
  refine ⟨consistent_initial now, ?_⟩
  intro id self found
  cases found

/-- What a run keeps. -/
theorem allInformed_run {moves : List (Move Data)} (informed : session.AllInformed json invocationId)
    (inTime : EachStep (Session.step json data invocationId) (InTime json invocationId) session
      moves) :
    (session.run json data invocationId moves).AllInformed json invocationId := by
  induction moves generalizing session with
  | nil => exact informed
  | cons move moves induction =>
      have parts := (eachStep_cons _ _).mp inTime
      exact induction (allInformed_step informed parts.1) parts.2

theorem Session.AllInformed.informs (informed : session.AllInformed json invocationId) :
    session.Informs json invocationId := by
  intro id self found names inTime
  rcases informed.each id self found names with ⟨sent, told⟩
  constructor
  · intro ending ended open_
    cases ending with
    | closed => exact absurd rfl open_
    | deadline => exact (told.overdue ended).2 inTime
    | final =>
        have fits := told.delivering.fits
        rw [ended] at fits
        rcases fits with ⟨earlier, last, equal, _, isFinal⟩
        exact ⟨last, by simp [equal], isFinal⟩
  · intro live early
    rcases inTime with ⟨time, member, _⟩
    exact told.delivering.reaches_final informed.consistent found live early
      (told.told (List.ne_nil_of_mem member))

end Runs

theorem outcome_learned (json : Json Data) (data : Execution.EventData → Data)
    (job : Execution.Job) (environment : Environment Execution.effects) (now : ℚ)
    (moves : List (Move Data))
    (inTime : EachStep (Session.step json data job.invocationId) (InTime json job.invocationId)
      (Session.start job environment now) moves) :
    ((Session.start job environment now).run json data job.invocationId moves).Informs json
      job.invocationId :=
  (allInformed_run (allInformed_start job environment now) inTime).informs

/-! ### Two subscribers of one run -/

/-- A run that ends with DONE and publishes its result. -/
def doneEnvironment : Environment Execution.effects :=
  Execution.undisturbed Uuid.zero (fun _ => none) (.int 7)

def exampleSession : Session Unit :=
  .start Execution.exampleJob doneEnvironment 0

def subscribes : Move Unit :=
  .bus (.subscribe 0 Execution.exampleJob.invocationId 300)

/-- A generator that was there before the run. -/
theorem outcome_learned_subscribed :
    let session := exampleSession.run plainJson (fun _ => ())
      Execution.exampleJob.invocationId (subscribes :: List.replicate 20 .run)
    ∃ new next, session.bus.Reaches plainJson 0 new ∧ new.subscribers 0 = some next ∧
      GivenFinal next := by
  intro session
  have inTime : EachStep (Session.step plainJson (fun _ => ()) Execution.exampleJob.invocationId)
      (InTime plainJson Execution.exampleJob.invocationId) exampleSession
      (subscribes :: List.replicate 20 .run) := by
    rw [eachStep_cons]
    refine ⟨fun _ => rfl, ?_⟩
    intro before move after equal
    have member : move ∈ List.replicate 20 (Move.run : Move Unit) := by simp [equal]
    rw [List.eq_of_mem_replicate member]
    trivial
  have informs := outcome_learned plainJson (fun _ => ()) Execution.exampleJob doneEnvironment 0 _
    inTime
  have subscriber : (session.bus.subscribers 0).map (fun self =>
      (self.invocationId, self.isLive, self.deadline)) =
        some (Execution.exampleJob.invocationId, true, 300) := by
    decide +kernel
  have published : session.finals = [0] := by decide +kernel
  have time : session.bus.now = 0 := by decide +kernel
  rcases Option.map_eq_some_iff.mp subscriber with ⟨self, found, equal⟩
  simp only [Prod.mk.injEq] at equal
  have early : session.bus.now < self.deadline := by
    rw [time, equal.2.2]
    decide +kernel
  have inTime : ∃ time ∈ session.finals, time < self.deadline := by
    rw [published, ← time]
    exact ⟨_, List.mem_cons_self, early⟩
  exact (informs 0 self found equal.1 inTime).live equal.2.1 early

/-- A generator for a run that has ended waits until its deadline and gives nothing. -/
theorem late_subscriber_uninformed :
    ¬ ∀ (Data : Type) (json : Json Data) (data : Execution.EventData → Data) (job : Execution.Job)
        (environment : Environment Execution.effects) (now : ℚ) (moves : List (Move Data)),
      (((Execution.runBackground job).trace environment).foldl Execution.Row.observe
        Execution.Row.created).status ∈ [some .done, some .failed] →
      ((Session.start job environment now).run json data job.invocationId moves).Informs json
        job.invocationId := by
  intro claimed
  let moves : List (Move Unit) := List.replicate 20 .run ++
    [subscribes, .bus (.turn 0 .poll), .bus (.elapse 300), .bus (.turn 0 .timeOut),
      .bus (.turn 0 .poll)]
  let session := exampleSession.run plainJson (fun _ => ()) Execution.exampleJob.invocationId moves
  have ended : (((Execution.runBackground Execution.exampleJob).trace doneEnvironment).foldl
      Execution.Row.observe Execution.Row.created).status = some .done := by
    decide +kernel
  have subscriber : (session.bus.subscribers 0).map (fun self =>
      (self.invocationId, self.stage, self.yielded, self.deadline)) =
        some (Execution.exampleJob.invocationId, .ended .deadline, [], 300) := by
    decide +kernel
  have published : session.finals = [0] := by decide +kernel
  rcases Option.map_eq_some_iff.mp subscriber with ⟨self, found, equal⟩
  simp only [Prod.mk.injEq] at equal
  have inTime : ∃ time ∈ session.finals, time < self.deadline := by
    rw [published, equal.2.2.2]
    exact ⟨0, List.mem_cons_self, by decide +kernel⟩
  have learns := claimed Unit plainJson (fun _ => ()) Execution.exampleJob doneEnvironment 0 moves
    (by simp [ended]) 0 self found equal.1 inTime
  rcases learns.ended _ equal.2.1 (by simp) with ⟨event, member, _⟩
  rw [equal.2.2.1] at member
  cases member

end GrafuxMcp.Streaming
