import GrafuxMcp.Streaming.Subscription

/-! # Delivery on the in-process bus

Each generator has a queue of its own, which holds what was published on its
channel since it subscribed and was not yet received. -/

namespace GrafuxMcp.Streaming

open GrafuxMcp Redis

variable {Data : Type}

/-! ### The property -/

/-- The events that are published for an invocation, in order. -/
def publishedFor (invocationId : Text) : List (Action Data) → List (Payload Data)
  | [] => []
  | .publish other payload :: actions =>
      if other = invocationId then payload :: publishedFor invocationId actions
      else publishedFor invocationId actions
  | _ :: actions => publishedFor invocationId actions

/-- The events given to the client of a generator, of those that were published
since it subscribed. -/
structure DeliveredInOrder (subscriber : Subscriber Data) (published : List (Payload Data)) : Prop where
  inOrder : subscriber.yielded <+: published
  /-- Nothing follows a final event. -/
  stops : ∀ event ∈ subscriber.yielded.dropLast, event.final = false
  /-- The last event is final, if no other reason has ended the generator. -/
  ends : subscriber.stage = .ended .final → ∃ last ∈ subscriber.yielded.getLast?, last.final = true

/-- The other two reasons are what they say. -/
structure StoppedFor (id : QueueId) (subscriber : Subscriber Data) (now : ℚ)
    (actions : List (Action Data)) : Prop where
  overdue : subscriber.stage = .ended .deadline → subscriber.deadline ≤ now
  closed : subscriber.stage = .ended .closed → .turn id .close ∈ actions

/-- A generator that has ended leaves nothing behind. -/
structure CleanedUp (id : QueueId) (subscriber : Subscriber Data) (redis : InMemoryRedis) : Prop where
  removed : subscriber.isLive = false →
    ∀ channel subs, redis.channels channel = some subs → id ∉ subs
  noEmptySet : redis.NoEmptySet

/-! ### What an action does -/

section Turns

variable {json : Json Data} {bus new : Bus Data} {id : QueueId} {self : Subscriber Data}

/-- The generator is in `get_message` or at its `yield`. -/
def Stage.isOpen : Stage → Bool
  | .waiting _ | .yielding _ => true
  | _ => false

/-- What one turn of a generator does. -/
inductive TurnEffect (json : Json Data) (bus : Bus Data) (id : QueueId) (self : Subscriber Data) :
    Turn → Bus Data → Prop where
  | poll (stage : self.stage = .polling) (early : bus.now < self.deadline) :
      TurnEffect json bus id self .poll
        (bus.goto id self (.waiting (bus.now + min (self.deadline - bus.now) 5)))
  | overdue (stage : self.stage = .polling) (late : self.deadline ≤ bus.now) :
      TurnEffect json bus id self .poll (bus.finish id self .deadline)
  | timeOut {wakeAt : ℚ} (stage : self.stage = .waiting wakeAt) (late : wakeAt ≤ bus.now) :
      TurnEffect json bus id self .timeOut (bus.goto id self .polling)
  | skip {wakeAt : ℚ} {message : Text} {rest : List Text} (stage : self.stage = .waiting wakeAt)
      (queued : bus.redis.queues self.pubsub.queue = message :: rest)
      (unreadable : json.loads message = none) :
      TurnEffect json bus id self .receive
        ({ bus with redis := bus.redis.setQueue self.pubsub.queue rest }.goto id self .polling)
  | receive {wakeAt : ℚ} {message : Text} {rest : List Text} {event : Payload Data}
      (stage : self.stage = .waiting wakeAt)
      (queued : bus.redis.queues self.pubsub.queue = message :: rest)
      (loaded : json.loads message = some event) :
      TurnEffect json bus id self .receive
        ({ bus with redis := bus.redis.setQueue self.pubsub.queue rest }.set id { self with
          stage := .yielding event.final
          yielded := self.yielded ++ [event] })
  | next (stage : self.stage = .yielding false) :
      TurnEffect json bus id self .resume (bus.goto id self .polling)
  | last (stage : self.stage = .yielding true) :
      TurnEffect json bus id self .resume (bus.finish id self .final)
  | close (stage : self.stage.isOpen = true) :
      TurnEffect json bus id self .close (bus.finish id self .closed)

theorem turn_effect {turn : Turn} (moves : bus.turn json id self turn = some new) :
    TurnEffect json bus id self turn new := by
  unfold Bus.turn at moves
  split at moves
  case h_1 stage =>
      rw [Option.some.injEq] at moves
      rw [← moves, Bus.poll]
      by_cases late : self.deadline - bus.now ≤ 0
      · rw [if_pos late]
        exact .overdue stage (sub_nonpos.mp late)
      · rw [if_neg late]
        exact .poll stage (sub_pos.mp (not_le.mp late))
  case h_2 stage =>
      unfold Bus.receive InMemoryPubSub.getMessage at moves
      cases queued : bus.redis.queues self.pubsub.queue with
      | nil => simp [queued] at moves
      | cons message rest =>
          cases loaded : json.loads message with
          | none =>
              simp only [queued, loaded, Option.some.injEq] at moves
              rw [← moves]
              exact .skip stage queued loaded
          | some event =>
              simp only [queued, loaded, Option.some.injEq] at moves
              rw [← moves]
              exact .receive stage queued loaded
  case h_3 stage =>
      split at moves
      case isTrue late =>
        rw [Option.some.injEq] at moves
        rw [← moves]
        exact .timeOut stage late
      case isFalse => cases moves
  case h_4 final stage =>
      rw [Option.some.injEq] at moves
      rw [← moves]
      cases final with
      | true => exact .last stage
      | false => exact .next stage
  case h_5 stage =>
      rw [Option.some.injEq] at moves
      rw [← moves]
      exact .close (by rw [stage]; rfl)
  case h_6 stage =>
      rw [Option.some.injEq] at moves
      rw [← moves]
      exact .close (by rw [stage]; rfl)
  case h_7 => cases moves

/-- What one action does. -/
inductive StepEffect (json : Json Data) (bus : Bus Data) : Action Data → Bus Data → Prop where
  | publish (invocationId : Text) (payload : Payload Data) :
      StepEffect json bus (.publish invocationId payload) (bus.publish json invocationId payload)
  | subscribe {id : QueueId} (unused : bus.subscribers id = none) (invocationId : Text)
      (timeout : ℚ) :
      StepEffect json bus (.subscribe id invocationId timeout) (bus.subscribe id invocationId timeout)
  | turn {id : QueueId} {self : Subscriber Data} {turn : Turn} {new : Bus Data}
      (found : bus.subscribers id = some self) (effect : TurnEffect json bus id self turn new) :
      StepEffect json bus (.turn id turn) new
  | elapse {seconds : ℚ} (forward : 0 ≤ seconds) :
      StepEffect json bus (.elapse seconds) { bus with now := bus.now + seconds }

theorem step_effect {action : Action Data} (moves : bus.step json action = some new) :
    StepEffect json bus action new := by
  cases action with
  | publish invocationId payload =>
      rw [Bus.step, Option.some.injEq] at moves
      rw [← moves]
      exact .publish invocationId payload
  | subscribe id invocationId timeout =>
      unfold Bus.step at moves
      cases found : bus.subscribers id with
      | some _ => simp [found] at moves
      | none =>
          simp only [found, Option.some.injEq] at moves
          rw [← moves]
          exact .subscribe found invocationId timeout
  | turn id turn =>
      unfold Bus.step at moves
      cases found : bus.subscribers id with
      | none => simp [found] at moves
      | some self =>
          simp only [found] at moves
          exact .turn found (turn_effect moves)
  | elapse seconds =>
      simp only [Bus.step] at moves
      split at moves
      case isTrue forward =>
        rw [Option.some.injEq] at moves
        rw [← moves]
        exact .elapse forward
      case isFalse => cases moves

end Turns

/-! ### Subscriptions

A channel's subscribers are the live generators of its invocation. -/

theorem invocationEvents_ne_nil (invocationId : Text) :
    Execution.invocationEvents invocationId ≠ [] := by
  intro empty
  have suffix : ":events".toList = [] := (List.append_eq_nil_iff.mp empty).2
  exact absurd suffix (by decide)

theorem invocationEvents_injective {left right : Text}
    (same : Execution.invocationEvents left = Execution.invocationEvents right) : left = right :=
  List.append_cancel_left (List.append_cancel_right same)

structure Consistent (bus : Bus Data) : Prop where
  /-- A live generator has its own queue on its one channel. -/
  pubsub : ∀ id self, bus.subscribers id = some self → self.isLive = true →
    self.pubsub = ⟨id, [self.channel]⟩
  subscribed : ∀ channel id, id ∈ bus.redis.subscribersOf channel ↔
    ∃ self, bus.subscribers id = some self ∧ self.isLive = true ∧ self.channel = channel
  noEmptySet : bus.redis.NoEmptySet

section Consistency

variable {json : Json Data} {bus new : Bus Data} {id : QueueId} {self : Subscriber Data}

theorem consistent_initial (now : ℚ) : Consistent ({ now } : Bus Data) where
  pubsub _ _ found := by cases found
  subscribed _ _ := by simp [InMemoryRedis.subscribersOf]
  noEmptySet _ := by simp

/-- Only the queues and the clock have changed. -/
theorem Consistent.of_channels (consistent : Consistent bus)
    (subscribers : new.subscribers = bus.subscribers)
    (channels : new.redis.channels = bus.redis.channels) : Consistent new := by
  have same : ∀ channel, new.redis.subscribersOf channel = bus.redis.subscribersOf channel := by
    intro channel
    simp only [InMemoryRedis.subscribersOf, channels]
  constructor
  · intro id self found
    rw [subscribers] at found
    exact consistent.pubsub id self found
  · intro channel id
    rw [same, subscribers]
    exact consistent.subscribed channel id
  · intro channel
    rw [channels]
    exact consistent.noEmptySet channel

/-- A live generator goes on. -/
theorem Consistent.set {changed : Subscriber Data} (consistent : Consistent bus)
    (found : bus.subscribers id = some self) (before : self.isLive = true)
    (live : changed.isLive = true) (pubsub : changed.pubsub = self.pubsub)
    (invocation : changed.invocationId = self.invocationId) : Consistent (bus.set id changed) := by
  have channel : changed.channel = self.channel := by
    rw [Subscriber.channel, invocation, Subscriber.channel]
  constructor
  · intro other found'
    by_cases same : other = id
    · intro present _
      rw [same, Bus.set_self, Option.some.injEq] at present
      rw [← present, same, pubsub, channel]
      exact consistent.pubsub id self found before
    · rw [Bus.set_of_ne same]
      exact consistent.pubsub other found'
  · intro target other
    have old := consistent.subscribed target other
    by_cases same : other = id
    · rw [same, found] at old
      rw [same, Bus.set_self]
      simp only [Option.some.injEq, exists_eq_left', before, live, true_and, channel] at old ⊢
      exact old
    · rw [Bus.set_of_ne same]
      exact old
  · exact consistent.noEmptySet

/-- Who is subscribed, once the generator `id` is `changed`. -/
theorem subscribed_set (consistent : Consistent bus) {redis : InMemoryRedis}
    {changed : Subscriber Data}
    (own : ∀ channel, id ∈ redis.subscribersOf channel ↔
      changed.isLive = true ∧ changed.channel = channel)
    (others : ∀ channel other, other ≠ id →
      (other ∈ redis.subscribersOf channel ↔ other ∈ bus.redis.subscribersOf channel))
    (channel : Text) (other : QueueId) :
    other ∈ redis.subscribersOf channel ↔
      ∃ self, ({ bus with redis }.set id changed).subscribers other = some self ∧
        self.isLive = true ∧ self.channel = channel := by
  by_cases same : other = id
  · rw [same, own channel]
    simp [Bus.set]
  · rw [others channel other same, consistent.subscribed channel other]
    simp [Bus.set, same]

theorem consistent_subscribe (consistent : Consistent bus) (unused : bus.subscribers id = none)
    (invocationId : Text) (timeout : ℚ) : Consistent (bus.subscribe id invocationId timeout) := by
  have joins : ∀ channel, (bus.subscribe id invocationId timeout).redis.subscribersOf channel =
      if channel = Execution.invocationEvents invocationId then
        insert id (bus.redis.subscribersOf channel)
      else bus.redis.subscribersOf channel :=
    fun channel => subscribersOf_subscribe channel
  constructor
  · intro other self found live
    by_cases same : other = id
    · rw [same] at found ⊢
      rw [Bus.subscribe, Bus.set_self, Option.some.injEq] at found
      rw [← found]
      rfl
    · rw [Bus.subscribe, Bus.set_of_ne same] at found
      exact consistent.pubsub other self found live
  · apply subscribed_set consistent
    · intro channel
      rw [joins]
      have absent : id ∉ bus.redis.subscribersOf channel := by
        intro member
        rcases (consistent.subscribed channel id).mp member with ⟨self, found, _⟩
        rw [unused] at found
        cases found
      split
      case isTrue same =>
        rw [same]
        exact ⟨fun _ => ⟨rfl, rfl⟩, fun _ => Finset.mem_insert_self ..⟩
      case isFalse different =>
        exact ⟨fun member => absurd member absent, fun same => absurd same.2.symm different⟩
    · intro channel other different
      rw [joins]
      split
      · simp [different]
      · rfl
  · exact noEmptySet_subscribe consistent.noEmptySet

/-- The cleanup takes the queue out of its channel. -/
theorem finish_eq (consistent : Consistent bus) (found : bus.subscribers id = some self)
    (live : self.isLive = true) (ending : Ending) :
    bus.finish id self ending =
      { bus with redis := (self.pubsub.leave bus.redis self.channel).1 }.set id
        { self with pubsub := ⟨id, []⟩, stage := .ended ending } := by
  have own := consistent.pubsub id self found live
  have one : self.pubsub.channels = [self.channel] := by rw [own]
  have named : self.channel ≠ [] := invocationEvents_ne_nil self.invocationId
  have cleanup : InMemoryPubSub.aclose (self.pubsub.unsubscribe bus.redis (some self.channel)).1
      (self.pubsub.unsubscribe bus.redis (some self.channel)).2 =
        self.pubsub.leave bus.redis self.channel := unsubscribe_aclose named one
  have left : (self.pubsub.leave bus.redis self.channel).2 = ⟨id, []⟩ := by
    rw [leave_channels, own]
    simp
  rw [← left]
  simp only [Bus.finish]
  rw [cleanup]

theorem consistent_finish (consistent : Consistent bus)
    (found : bus.subscribers id = some self) (live : self.isLive = true) (ending : Ending) :
    Consistent (bus.finish id self ending) := by
  have own := consistent.pubsub id self found live
  have leaves : ∀ channel, (self.pubsub.leave bus.redis self.channel).1.subscribersOf channel =
      if channel = self.channel then (bus.redis.subscribersOf channel).erase id
      else bus.redis.subscribersOf channel := by
    intro channel
    rw [subscribersOf_leave, own]
  rw [finish_eq consistent found live]
  constructor
  · intro other changed present alive
    by_cases same : other = id
    · rw [same, Bus.set_self, Option.some.injEq] at present
      rw [← present] at alive
      cases alive
    · rw [Bus.set_of_ne same] at present
      exact consistent.pubsub other changed present alive
  · apply subscribed_set consistent
    · intro channel
      rw [Bus.set_redis, leaves]
      have gone : ¬ ((false : Bool) = true ∧ self.channel = channel) := by simp
      refine ⟨fun member => absurd member ?_, fun ended => absurd ended gone⟩
      split
      case isTrue => simp
      case isFalse different =>
        intro member
        rcases (consistent.subscribed channel id).mp member with ⟨other, present, _, same⟩
        rw [found, Option.some.injEq] at present
        rw [← present] at same
        exact different same.symm
    · intro channel other different
      rw [Bus.set_redis, leaves]
      split
      · simp [different]
      · rfl
  · exact noEmptySet_leave consistent.noEmptySet

theorem isLive_of_isOpen (isOpen : self.stage.isOpen = true) : self.isLive = true := by
  unfold Subscriber.isLive
  cases stage : self.stage with
  | ended _ => simp [stage, Stage.isOpen] at isOpen
  | _ => rfl

theorem TurnEffect.isLive {turn : Turn} (effect : TurnEffect json bus id self turn new) :
    self.isLive = true := by
  cases effect with
  | close isOpen => exact isLive_of_isOpen isOpen
  | poll stage | overdue stage | timeOut stage | skip stage | receive stage | next stage
  | last stage => rw [Subscriber.isLive, stage]

theorem TurnEffect.consistent {turn : Turn} (effect : TurnEffect json bus id self turn new)
    (consistent : Consistent bus) (found : bus.subscribers id = some self) : Consistent new := by
  have live := effect.isLive
  cases effect with
  | overdue | last | close => exact consistent_finish consistent found live _
  | poll | timeOut | next => exact consistent.set found live rfl rfl rfl
  | skip | receive =>
      have taken : ∀ rest, Consistent
          { bus with redis := bus.redis.setQueue self.pubsub.queue rest } :=
        fun _ => consistent.of_channels rfl rfl
      exact (taken _).set found live rfl rfl rfl

theorem StepEffect.consistent {action : Action Data} (effect : StepEffect json bus action new)
    (consistent : Consistent bus) : Consistent new := by
  cases effect with
  | publish => exact consistent.of_channels rfl publish_channels
  | subscribe unused => exact consistent_subscribe consistent unused _ _
  | turn found effect => exact effect.consistent consistent found
  | elapse => exact consistent.of_channels rfl rfl

theorem consistent_run {actions : List (Action Data)} (consistent : Consistent bus)
    (runs : bus.run json actions = some new) : Consistent new := by
  induction actions generalizing bus with
  | nil =>
      cases runs
      exact consistent
  | cons action actions induction =>
      rw [Bus.run_cons] at runs
      rcases Option.bind_eq_some_iff.mp runs with ⟨next, steps, rest⟩
      exact induction ((step_effect steps).consistent consistent) rest

/-- A generator's turn leaves the others and their queues alone. -/
theorem TurnEffect.frame {turn : Turn} {other : QueueId}
    (effect : TurnEffect json bus id self turn new) (consistent : Consistent bus)
    (found : bus.subscribers id = some self) (different : other ≠ id) :
    new.subscribers other = bus.subscribers other ∧
      new.redis.queues other = bus.redis.queues other ∧ new.now = bus.now := by
  have live := effect.isLive
  have own : self.pubsub.queue = id := by rw [consistent.pubsub id self found live]
  have finished : ∀ ending, (bus.finish id self ending).subscribers other = bus.subscribers other ∧
      (bus.finish id self ending).redis.queues other = bus.redis.queues other ∧
        (bus.finish id self ending).now = bus.now := by
    intro ending
    rw [finish_eq consistent found live, Bus.set_of_ne different, Bus.set_redis, leave_queues]
    exact ⟨rfl, rfl, rfl⟩
  have kept : ∀ rest, (bus.redis.setQueue self.pubsub.queue rest).queues other =
      bus.redis.queues other := by
    intro rest
    rw [own]
    exact Function.update_of_ne different ..
  cases effect with
  | overdue | last | close => exact finished _
  | poll | timeOut | next => exact ⟨Bus.set_of_ne different, rfl, rfl⟩
  | skip | receive => exact ⟨Bus.set_of_ne different, kept _, rfl⟩

end Consistency

/-! ### What a generator has been given -/

/-- Events that may be followed by another. -/
def NoneFinal (events : List (Payload Data)) : Prop :=
  ∀ event ∈ events, event.final = false

/-- The last event, and only that one, is final or not. -/
def EndsWith (final : Bool) (events : List (Payload Data)) : Prop :=
  ∃ earlier last, events = earlier ++ [last] ∧ NoneFinal earlier ∧ last.final = final

/-- What the stage says about the events so far. -/
def Stage.Fits (events : List (Payload Data)) : Stage → Prop
  | .polling | .waiting _ => NoneFinal events
  | .yielding final => EndsWith final events
  | .ended .final => EndsWith true events
  | .ended _ => NoneFinal events.dropLast

/-- The queue of a live generator holds what was sent and not yet received. -/
structure Delivering (json : Json Data) (queue : List Text) (subscriber : Subscriber Data)
    (sent : List (Payload Data)) : Prop where
  pending : subscriber.isLive = true → ∃ waiting, sent = subscriber.yielded ++ waiting ∧
    queue = waiting.map json.dumps
  inOrder : subscriber.yielded <+: sent
  fits : subscriber.stage.Fits subscriber.yielded

section Given

variable {json : Json Data} {bus new : Bus Data} {id : QueueId} {self : Subscriber Data}
  {events sent : List (Payload Data)}

theorem noneFinal_dropLast (none_ : NoneFinal events) : NoneFinal events.dropLast :=
  fun event member => none_ event (List.dropLast_subset events member)

theorem EndsWith.dropLast {final : Bool} (ends : EndsWith final events) :
    NoneFinal events.dropLast := by
  rcases ends with ⟨earlier, last, equal, none_, _⟩
  rw [equal, List.dropLast_concat]
  exact none_

theorem EndsWith.noneFinal (ends : EndsWith false events) : NoneFinal events := by
  rcases ends with ⟨earlier, last, equal, none_, open_⟩
  rw [equal]
  intro event member
  rcases List.mem_append.mp member with before | same
  · exact none_ event before
  · rw [List.mem_singleton.mp same]
    exact open_

theorem noneFinal_of_fits {stage : Stage} (fits : stage.Fits events) :
    NoneFinal events.dropLast := by
  cases stage with
  | polling | waiting _ => exact noneFinal_dropLast fits
  | yielding final => exact EndsWith.dropLast fits
  | ended ending =>
      cases ending with
      | final => exact EndsWith.dropLast fits
      | deadline | closed => exact fits

/-- Messages that can all be read are received in order. -/
theorem Delivering.receive {queue rest : List Text} {message : Text}
    (delivering : Delivering json queue self sent) (live : self.isLive = true)
    (queued : queue = message :: rest) :
    ∃ event waiting, json.loads message = some event ∧
      sent = self.yielded ++ event :: waiting ∧ rest = waiting.map json.dumps := by
  rcases delivering.pending live with ⟨waiting, whole, equal⟩
  rw [queued] at equal
  cases waiting with
  | nil => cases equal
  | cons event waiting =>
      rw [List.map_cons, List.cons.injEq] at equal
      exact ⟨event, waiting, by rw [equal.1, json.loads_dumps], whole, equal.2⟩

/-- How the generator that was `before` stands after some of the actions since it
subscribed. -/
structure Continues (json : Json Data) (id : QueueId) (before : Subscriber Data)
    (sent : List (Payload Data)) (actions : List (Action Data)) (new : Bus Data)
    (next : Subscriber Data) : Prop where
  found : new.subscribers id = some next
  invocationId : next.invocationId = before.invocationId
  deadline : next.deadline = before.deadline
  delivering : Delivering json (new.redis.queues id) next sent
  stopped : StoppedFor id next new.now actions

theorem stoppedFor_of_isLive {now : ℚ} {actions : List (Action Data)} (live : self.isLive = true) :
    StoppedFor id self now actions := by
  have never : ∀ ending, self.stage ≠ .ended ending := by
    intro ending stage
    simp [Subscriber.isLive, stage] at live
  exact ⟨fun stage => absurd stage (never _), fun stage => absurd stage (never _)⟩

theorem StoppedFor.later {now later : ℚ} {actions more : List (Action Data)}
    (stopped : StoppedFor id self now actions) (forward : now ≤ later) :
    StoppedFor id self later (actions ++ more) :=
  ⟨fun stage => (stopped.overdue stage).trans forward,
    fun stage => List.mem_append_left _ (stopped.closed stage)⟩

/-- One turn of the generator itself. -/
theorem TurnEffect.continues {turn : Turn} {actions : List (Action Data)}
    (effect : TurnEffect json bus id self turn new) (consistent : Consistent bus)
    (found : bus.subscribers id = some self)
    (delivering : Delivering json (bus.redis.queues id) self sent) :
    ∃ next, Continues json id self sent (actions ++ [.turn id turn]) new next := by
  have live := effect.isLive
  have own : self.pubsub.queue = id := by rw [consistent.pubsub id self found live]
  have pending := delivering.pending
  have inOrder := delivering.inOrder
  have fits := delivering.fits
  have went : ∀ stage : Stage, stage.Fits self.yielded → (∀ ending, stage ≠ .ended ending) →
      ∃ next, Continues json id self sent (actions ++ [.turn id turn]) (bus.goto id self stage)
        next := by
    intro stage fits never
    have stopped : StoppedFor id { self with stage } bus.now (actions ++ [.turn id turn]) :=
      ⟨fun ended => absurd ended (never _), fun ended => absurd ended (never _)⟩
    exact ⟨_, Bus.set_self, rfl, rfl, ⟨fun _ => pending live, inOrder, fits⟩, stopped⟩
  have finished : ∀ ending, (Stage.ended ending).Fits self.yielded →
      (ending = .deadline → self.deadline ≤ bus.now) → (ending = .closed → turn = .close) →
      ∃ next, Continues json id self sent (actions ++ [.turn id turn]) (bus.finish id self ending)
        next := by
    intro ending ends overdue closed
    rw [finish_eq consistent found live]
    refine ⟨_, Bus.set_self, rfl, rfl, ⟨?_, inOrder, ends⟩, ?_, ?_⟩
    · exact fun alive => absurd alive (by simp [Subscriber.isLive])
    · exact fun stage => overdue (Stage.ended.inj stage)
    · intro stage
      rw [closed (Stage.ended.inj stage)]
      exact List.mem_append_right _ List.mem_cons_self
  cases effect with
  | poll stage | timeOut stage =>
      rw [stage] at fits
      exact went _ fits (by simp)
  | next stage =>
      rw [stage] at fits
      exact went _ (EndsWith.noneFinal fits) (by simp)
  | overdue stage late =>
      rw [stage] at fits
      exact finished _ (noneFinal_dropLast fits) (fun _ => late) (by simp)
  | last stage =>
      rw [stage] at fits
      exact finished _ fits (by simp) (by simp)
  | close isOpen => exact finished _ (noneFinal_of_fits fits) (by simp) (by simp)
  | skip stage queued unreadable =>
      rw [own] at queued
      rcases delivering.receive live queued with ⟨event, waiting, loaded, _⟩
      rw [loaded] at unreadable
      cases unreadable
  | @receive wakeAt message rest event stage queued loaded =>
      rw [own] at queued
      rcases delivering.receive live queued with ⟨same, waiting, loads, whole, left⟩
      rw [loaded, Option.some.injEq] at loads
      rw [← loads] at whole
      rw [stage] at fits
      have longer : sent = (self.yielded ++ [event]) ++ waiting := by rw [whole]; simp
      refine ⟨_, Bus.set_self, rfl, rfl, ⟨?_, ⟨waiting, longer.symm⟩, ?_⟩, ?_⟩
      · intro _
        refine ⟨waiting, longer, ?_⟩
        rw [Bus.set_redis, own, ← left]
        exact Function.update_self ..
      · exact ⟨self.yielded, event, rfl, fits, rfl⟩
      · exact stoppedFor_of_isLive rfl

/-- An event that is published reaches the queues of its invocation's generators. -/
theorem Delivering.publish (consistent : Consistent bus) (found : bus.subscribers id = some self)
    (delivering : Delivering json (bus.redis.queues id) self sent) (invocationId : Text)
    (payload : Payload Data) :
    Delivering json ((bus.publish json invocationId payload).redis.queues id) self
      (sent ++ publishedFor self.invocationId [.publish invocationId payload]) := by
  have queues : (bus.publish json invocationId payload).redis.queues id =
      if id ∈ bus.redis.subscribersOf (Execution.invocationEvents invocationId) then
        bus.redis.queues id ++ [json.dumps payload]
      else bus.redis.queues id := publish_queues id
  refine ⟨?_, delivering.inOrder.trans (List.prefix_append _ _), delivering.fits⟩
  intro live
  rcases delivering.pending live with ⟨waiting, whole, equal⟩
  have listed : id ∈ bus.redis.subscribersOf (Execution.invocationEvents invocationId) ↔
      invocationId = self.invocationId := by
    rw [consistent.subscribed, found]
    simp only [Option.some.injEq, exists_eq_left', live, true_and]
    exact ⟨fun same => (invocationEvents_injective same).symm, fun same => by rw [same]; rfl⟩
  rw [queues]
  by_cases same : invocationId = self.invocationId
  · rw [if_pos (listed.mpr same)]
    refine ⟨waiting ++ [payload], ?_, ?_⟩
    · simp [publishedFor, same, whole]
    · simp [equal]
  · rw [if_neg (mt listed.mp same)]
    exact ⟨waiting, by simp [publishedFor, same, whole], equal⟩

theorem StepEffect.continues {action : Action Data} {actions : List (Action Data)}
    (effect : StepEffect json bus action new) (consistent : Consistent bus)
    (found : bus.subscribers id = some self)
    (delivering : Delivering json (bus.redis.queues id) self sent)
    (stopped : StoppedFor id self bus.now actions) :
    ∃ next, Continues json id self (sent ++ publishedFor self.invocationId [action])
      (actions ++ [action]) new next := by
  cases effect with
  | publish invocationId payload =>
      exact ⟨self, found, rfl, rfl, delivering.publish consistent found invocationId payload,
        stopped.later le_rfl⟩
  | @subscribe other unused invocationId timeout =>
      have different : id ≠ other := by
        intro same
        rw [same, unused] at found
        cases found
      simp only [publishedFor, List.append_nil]
      refine ⟨self, ?_, rfl, rfl, ?_, stopped.later le_rfl⟩
      · rw [Bus.subscribe, Bus.set_of_ne different]
        exact found
      · have queue : (bus.subscribe other invocationId timeout).redis.queues id =
            bus.redis.queues id := Function.update_of_ne different ..
        rw [queue]
        exact delivering
  | @turn other actor turn _ present effect =>
      simp only [publishedFor, List.append_nil]
      by_cases same : other = id
      · rw [same] at present effect ⊢
        rw [present, Option.some.injEq] at found
        rw [found] at present effect
        exact effect.continues consistent present delivering
      · have different : id ≠ other := fun equal => same equal.symm
        have frame := effect.frame consistent present different
        refine ⟨self, ?_, rfl, rfl, ?_, ?_⟩
        · rw [frame.1]
          exact found
        · rw [frame.2.1]
          exact delivering
        · rw [frame.2.2]
          exact stopped.later le_rfl
  | elapse forward =>
      simp only [publishedFor, List.append_nil]
      exact ⟨self, found, rfl, rfl, delivering, stopped.later (by simpa using forward)⟩

theorem publishedFor_append (invocationId : Text) (before after : List (Action Data)) :
    publishedFor invocationId (before ++ after) =
      publishedFor invocationId before ++ publishedFor invocationId after := by
  induction before with
  | nil => rfl
  | cons action before induction =>
      cases action with
      | publish other payload =>
          simp only [List.cons_append, publishedFor, induction]
          split <;> rfl
      | _ => exact induction

theorem continues_run {actions more : List (Action Data)} (consistent : Consistent bus)
    (found : bus.subscribers id = some self)
    (delivering : Delivering json (bus.redis.queues id) self sent)
    (stopped : StoppedFor id self bus.now actions) (runs : bus.run json more = some new) :
    ∃ next, Continues json id self (sent ++ publishedFor self.invocationId more) (actions ++ more)
      new next := by
  induction more generalizing bus self sent actions with
  | nil =>
      cases runs
      simp only [publishedFor, List.append_nil]
      exact ⟨self, found, rfl, rfl, delivering, stopped⟩
  | cons action more induction =>
      rw [Bus.run_cons] at runs
      rcases Option.bind_eq_some_iff.mp runs with ⟨middle, steps, rest⟩
      have effect := step_effect steps
      rcases effect.continues consistent found delivering stopped with ⟨next, continues⟩
      rcases induction (effect.consistent consistent) continues.found continues.delivering
        continues.stopped rest with ⟨last, ends⟩
      have invocationId := ends.invocationId
      have deadline := ends.deadline
      have given := ends.delivering
      have stops := ends.stopped
      rw [continues.invocationId, List.append_assoc, ← publishedFor_append, List.singleton_append]
        at given
      rw [List.append_assoc, List.singleton_append] at stops
      exact ⟨last, ends.found, invocationId.trans continues.invocationId,
        deadline.trans continues.deadline, given, stops⟩

theorem delivering_subscribe (json : Json Data) (bus : Bus Data) (id : QueueId)
    (invocationId : Text) (timeout : ℚ) :
    ∃ self, (bus.subscribe id invocationId timeout).subscribers id = some self ∧
      self.invocationId = invocationId ∧
      self.deadline = bus.now + timeout ∧
      Delivering json ((bus.subscribe id invocationId timeout).redis.queues id) self [] ∧
      self.isLive = true := by
  refine ⟨_, Bus.set_self, rfl, rfl, ⟨?_, List.prefix_refl _, ?_⟩, rfl⟩
  · intro _
    refine ⟨[], rfl, ?_⟩
    exact Function.update_self ..
  · intro event member
    cases member

end Given

/-- A run seen from the first turn of one of its generators. -/
theorem continues_since {json : Json Data} {now : ℚ} {before after : List (Action Data)}
    {id : QueueId} {invocationId : Text} {timeout : ℚ} {bus : Bus Data}
    (runs : Bus.run json { now } (before ++ .subscribe id invocationId timeout :: after) =
      some bus) :
    ∃ start fresh, Bus.run json { now } before = some start ∧
      (start.subscribe id invocationId timeout).subscribers id = some fresh ∧
      fresh.invocationId = invocationId ∧ fresh.deadline = start.now + timeout ∧
      ∃ self, Continues json id fresh (publishedFor invocationId after) after bus self ∧
        Consistent bus := by
  rw [Bus.run_append] at runs
  rcases Option.bind_eq_some_iff.mp runs with ⟨start, first, rest⟩
  rw [Bus.run_cons] at rest
  rcases Option.bind_eq_some_iff.mp rest with ⟨joined, steps, later⟩
  have consistent := consistent_run (consistent_initial now) first
  have effect := step_effect steps
  have joins := effect.consistent consistent
  cases effect with
  | subscribe unused =>
      rcases delivering_subscribe json start id invocationId timeout with
        ⟨fresh, found, names, deadline, delivering, live⟩
      have stopped : StoppedFor id fresh start.now [] := stoppedFor_of_isLive live
      rcases continues_run joins found delivering stopped later with ⟨self, ends⟩
      rw [names] at ends
      exact ⟨start, fresh, first, found, names, deadline, self, ends, consistent_run joins later⟩

theorem delivered_once_in_order (json : Json Data) (now : ℚ) (before after : List (Action Data))
    (id : QueueId) (invocationId : Text) (timeout : ℚ) (bus : Bus Data)
    (runs : Bus.run json { now } (before ++ .subscribe id invocationId timeout :: after) =
      some bus) :
    ∃ self, bus.subscribers id = some self ∧ self.invocationId = invocationId ∧
      DeliveredInOrder self (publishedFor invocationId after) ∧
      StoppedFor id self bus.now after ∧ CleanedUp id self bus.redis := by
  rcases continues_since runs with ⟨start, fresh, _, _, names, _, self, ends, consistent⟩
  have fits := ends.delivering.fits
  refine ⟨self, ends.found, ends.invocationId.trans names,
    ⟨ends.delivering.inOrder, ?_, ?_⟩, ends.stopped, ?_, consistent.noEmptySet⟩
  · exact noneFinal_of_fits fits
  · intro stage
    rw [stage] at fits
    rcases fits with ⟨earlier, last, equal, _, final⟩
    have isLast : last ∈ self.yielded.getLast? := by
      rw [equal, List.getLast?_concat]
      rfl
    exact ⟨last, isLast, final⟩
  · intro notLive channel subs listed member
    have subscribed : id ∈ bus.redis.subscribersOf channel := by
      rw [InMemoryRedis.subscribersOf, listed]
      exact member
    rcases (consistent.subscribed channel id).mp subscribed with ⟨other, found, live, _⟩
    rw [ends.found, Option.some.injEq] at found
    rw [← found, notLive] at live
    cases live

/-- An event before the generator subscribes, and two after. -/
def exampleActions : List (Action Unit) :=
  [.publish [] ⟨"log", (), false⟩, .subscribe 3 [] 300, .publish [] ⟨"log", (), false⟩, .turn 3 .poll,
    .turn 3 .receive, .publish [] ⟨"result", (), true⟩, .turn 3 .resume, .turn 3 .poll,
    .turn 3 .receive, .turn 3 .resume]

theorem delivered_once_in_order_roundtrip :
    ∃ bus self, Bus.run plainJson { now := 0 } exampleActions = some bus ∧
      bus.subscribers 3 = some self ∧
      self.yielded = [⟨"log", (), false⟩, ⟨"result", (), true⟩] ∧
      DeliveredInOrder self [⟨"log", (), false⟩, ⟨"result", (), true⟩] ∧
      CleanedUp 3 self bus.redis := by
  have possible : (Bus.run plainJson { now := 0 } exampleActions).isSome = true := by
    decide +kernel
  rcases Option.isSome_iff_exists.mp possible with ⟨bus, runs⟩
  have yielded : ((Bus.run plainJson { now := 0 } exampleActions).bind (·.subscribers 3)).map
      (·.yielded) = some [⟨"log", (), false⟩, ⟨"result", (), true⟩] := by
    decide +kernel
  rcases delivered_once_in_order plainJson 0 (exampleActions.take 1) (exampleActions.drop 2) 3 []
    300 bus runs with ⟨self, found, _, delivered, _, clean⟩
  rw [runs, Option.bind_some, found, Option.map_some, Option.some.injEq] at yielded
  exact ⟨bus, self, runs, found, yielded, delivered, clean⟩

end GrafuxMcp.Streaming
