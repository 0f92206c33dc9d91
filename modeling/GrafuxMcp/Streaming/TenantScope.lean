import GrafuxMcp.Foundation.Unwinding
import GrafuxMcp.Streaming.Delivery

/-! # Whose events a client sees

The SSE endpoint of `app/api/v1/streaming.py` looks the invocation up for the org of the
caller; `invocation/stream` of `app/api/ws/gateway.py` takes any id. Both deliver what the
event bus yields. -/

namespace GrafuxMcp.Streaming

open GrafuxMcp Redis

variable {Data : Type}

abbrev ClientId := Nat

/-- Who is who. -/
structure World where
  /-- The org of a client's token; an anonymous client has none. -/
  auth : ClientId → Option Uuid
  /-- The client whose request a generator serves. -/
  clientOf : QueueId → ClientId
  /-- The generator serves the SSE endpoint. -/
  isSse : QueueId → Bool
  /-- The org of an invocation, also of those that are still to be created. -/
  orgOf : Uuid → Option Uuid

inductive Message (Data : Type)
  | unauthorized
  | notFound
  | missingId
  /-- The first line of the SSE stream. -/
  | connected (invocationId : Text)
  /-- The acknowledgement of `invocation/stream`. -/
  | subscribed (invocationId : Text)
  | event (invocationId : Text) (payload : Payload Data)
  /-- The last line of the SSE stream. -/
  | closed
deriving DecidableEq

structure State (Data : Type) where
  bus : Bus Data
  /-- The invocations that are in the database. -/
  created : Uuid → Bool := fun _ => false
  received : ClientId → List (Message Data) := fun _ => []

inductive Event (Data : Type)
  | create (invocation : Uuid)
  /-- `stream_invocation_events` -/
  | sse (queue : QueueId) (invocation : Uuid)
  /-- `_handle_invocation_stream` -/
  | webSocket (queue : QueueId) (invocationId : Text)
  | publish (invocation : Uuid) (payload : Payload Data)
  | turn (queue : QueueId) (turn : Turn)
  | elapse (seconds : ℚ)

/-- What the client is sent for a turn of its generator. -/
def news (isSse : Bool) (before after : Subscriber Data) : List (Message Data) :=
  let events := (after.yielded.drop before.yielded.length).map (.event after.invocationId)
  if isSse && (after.stage = .ended .final || after.stage = .ended .deadline) then
    events ++ [.closed]
  else events

namespace State

variable (json : Json Data) (world : World) (s : State Data)

def tell (client : ClientId) (messages : List (Message Data)) : State Data :=
  { s with received := Function.update s.received client (s.received client ++ messages) }

/-- A step of the bus, and what the client of the generator is told. -/
def act (action : Action Data) (queue : QueueId) (messages : Bus Data → List (Message Data)) :
    Option (State Data) :=
  (s.bus.step json action).map fun bus =>
    { s with bus }.tell (world.clientOf queue) (messages bus)

def newsOf (queue : QueueId) (bus : Bus Data) : List (Message Data) :=
  match s.bus.subscribers queue, bus.subscribers queue with
  | some before, some after => news (world.isSse queue) before after
  | _, _ => []

def step : Event Data → Option (State Data)
  | .create invocation =>
      if (world.orgOf invocation).isSome && !s.created invocation then
        some { s with created := Function.update s.created invocation true }
      else none
  | .sse queue invocation =>
      if world.isSse queue then
        match world.auth (world.clientOf queue) with
        | none => some (s.tell (world.clientOf queue) [.unauthorized])
        | some org =>
            if s.created invocation && world.orgOf invocation = some org then
              s.act json world (.subscribe queue invocation.str 300) queue fun _ =>
                [.connected invocation.str]
            else some (s.tell (world.clientOf queue) [.notFound])
      else none
  | .webSocket queue invocationId =>
      if world.isSse queue then none
      else if invocationId = [] then some (s.tell (world.clientOf queue) [.missingId])
      else s.act json world (.subscribe queue invocationId 300) queue fun _ =>
        [.subscribed invocationId]
  | .publish invocation payload =>
      if s.created invocation then
        (s.bus.step json (.publish invocation.str payload)).map fun bus => { s with bus }
      else none
  | .turn queue turn => s.act json world (.turn queue turn) queue (s.newsOf world queue)
  | .elapse seconds => (s.bus.step json (.elapse seconds)).map fun bus => { s with bus }

def run (history : List (Event Data)) : Option (State Data) :=
  history.foldlM (step json world) s

end State

/-! ### The property and the condition -/

/-- The event belongs to the invocations or to the clients of an org. -/
def Event.isOf (world : World) (org : Uuid) : Event Data → Bool
  | .create _ => false
  | .sse queue _ => world.auth (world.clientOf queue) = some org
  | .webSocket queue _ => world.auth (world.clientOf queue) = some org
  | .publish invocation _ => world.orgOf invocation = some org
  | .turn queue _ => world.auth (world.clientOf queue) = some org
  | .elapse _ => false

/-- An event was published for an invocation of the client's own org. -/
def DeliveredInOrg (world : World) (history : List (Event Data)) (s : State Data) : Prop :=
  ∀ client invocationId payload, .event invocationId payload ∈ s.received client →
    ∃ invocation org, .publish invocation payload ∈ history ∧ invocation.str = invocationId ∧
      world.orgOf invocation = some org ∧ world.auth client = some org

/-- The invocation that the text names, if it names one, is of the client's org. -/
def World.Owns (world : World) (client : ClientId) (invocationId : Text) : Prop :=
  ∀ invocation org, invocation.str = invocationId → world.orgOf invocation = some org →
    world.auth client = some org

/-- No request of `invocation/stream` names an invocation of another org. -/
def Event.NamesOwn (world : World) : Event Data → Prop
  | .webSocket queue invocationId => world.Owns (world.clientOf queue) invocationId
  | _ => True

/-- Clients of other orgs receive the same in every history that differs from this one only
in the invocation events of an org and in what its clients do. -/
def Independent (json : Json Data) (world : World) (now : ℚ) (history : List (Event Data))
    (s : State Data) : Prop :=
  ∀ org other t, ({ bus := { now } } : State Data).run json world other = some t →
    (∀ event ∈ other, event.NamesOwn world) →
    withoutSecret (·.isOf world org) other = withoutSecret (·.isOf world org) history →
    ∀ client, world.auth client ≠ some org → t.received client = s.received client

/-! ### Where the messages in the queues come from -/

section Queues

variable {json : Json Data} {world : World} {bus new : Bus Data} {queue other : QueueId}
  {self : Subscriber Data}

theorem queues_subscribe (invocationId : Text) (timeout : ℚ) :
    (bus.subscribe queue invocationId timeout).redis.queues other =
      if other = queue then [] else bus.redis.queues other :=
  Function.update_apply bus.redis.queues queue [] other

theorem subscribers_subscribe (invocationId : Text) (timeout : ℚ) :
    (bus.subscribe queue invocationId timeout).subscribers other =
      if other = queue then
        some ⟨invocationId, ⟨queue, [Execution.invocationEvents invocationId]⟩,
          bus.now + timeout, .polling, []⟩
      else bus.subscribers other :=
  Function.update_apply bus.subscribers queue _ other

theorem queues_publish (invocationId : Text) (payload : Payload Data) :
    (bus.publish json invocationId payload).redis.queues other =
      if other ∈ bus.redis.subscribersOf (Execution.invocationEvents invocationId) then
        bus.redis.queues other ++ [json.dumps payload]
      else bus.redis.queues other :=
  publish_queues other

/-- A generator has its own queue, from which a turn takes one message at most. -/
theorem TurnEffect.own {turn : Turn} (effect : TurnEffect json bus queue self turn new)
    (consistent : Consistent bus) (found : bus.subscribers queue = some self) :
    ∃ after, new.subscribers queue = some after ∧ after.invocationId = self.invocationId ∧
      (∀ message ∈ new.redis.queues queue, message ∈ bus.redis.queues queue) ∧
      (after.yielded = self.yielded ∨ ∃ message event, message ∈ bus.redis.queues queue ∧
        json.loads message = some event ∧ after.yielded = self.yielded ++ [event]) := by
  have live := effect.isLive
  have own : self.pubsub.queue = queue := by rw [consistent.pubsub queue self found live]
  have finished : ∀ ending, ∃ after,
      (bus.finish queue self ending).subscribers queue = some after ∧
      after.invocationId = self.invocationId ∧
      (∀ message ∈ (bus.finish queue self ending).redis.queues queue,
        message ∈ bus.redis.queues queue) ∧
      (after.yielded = self.yielded ∨ ∃ message event, message ∈ bus.redis.queues queue ∧
        json.loads message = some event ∧ after.yielded = self.yielded ++ [event]) := by
    intro ending
    rw [finish_eq consistent found live]
    refine ⟨_, Bus.set_self, rfl, ?_, Or.inl rfl⟩
    intro message member
    rw [Bus.set_redis, leave_queues] at member
    exact member
  cases effect with
  | overdue | last | close => exact finished _
  | poll | timeOut | next => exact ⟨_, Bus.set_self, rfl, fun _ member => member, Or.inl rfl⟩
  | skip _ queued unreadable =>
      refine ⟨_, Bus.set_self, rfl, ?_, Or.inl rfl⟩
      intro message member
      rw [own] at queued member
      have rest := (congrArg (message ∈ ·) (Function.update_self queue _ _)).mp member
      rw [queued]
      exact List.mem_cons_of_mem _ rest
  | receive _ queued loaded =>
      rw [own] at queued ⊢
      refine ⟨_, Bus.set_self, rfl, ?_, Or.inr ⟨_, _, ?_, loaded, rfl⟩⟩
      · intro message member
        have rest := (congrArg (message ∈ ·) (Function.update_self queue _ _)).mp member
        rw [queued]
        exact List.mem_cons_of_mem _ rest
      · rw [queued]
        exact List.mem_cons_self

/-- Generators are on invocations of the org of their clients, and their queues hold what
was published for these. -/
structure OwnStreams (json : Json Data) (world : World) (history : List (Event Data))
    (bus : Bus Data) : Prop where
  consistent : Consistent bus
  owned : ∀ queue self, bus.subscribers queue = some self →
    world.Owns (world.clientOf queue) self.invocationId
  sourced : ∀ queue self, bus.subscribers queue = some self →
    ∀ message ∈ bus.redis.queues queue, ∃ invocation org payload,
      .publish invocation payload ∈ history ∧ invocation.str = self.invocationId ∧
      world.orgOf invocation = some org ∧ message = json.dumps payload

namespace OwnStreams

variable {history : List (Event Data)}

theorem initial (now : ℚ) : OwnStreams json world history ({ now } : Bus Data) := by
  constructor
  · exact consistent_initial now
  all_goals
    intro queue self found
    cases found

theorem mono {more : List (Event Data)} (streams : OwnStreams json world history bus)
    (extends_ : ∀ event ∈ history, event ∈ more) : OwnStreams json world more bus := by
  refine ⟨streams.consistent, streams.owned, ?_⟩
  intro queue self found message member
  rcases streams.sourced queue self found message member with
    ⟨invocation, org, payload, published, rest⟩
  exact ⟨invocation, org, payload, extends_ _ published, rest⟩

theorem subscribe (streams : OwnStreams json world history bus)
    (unused : bus.subscribers queue = none) {invocationId : Text} {timeout : ℚ}
    (own : world.Owns (world.clientOf queue) invocationId) :
    OwnStreams json world history (bus.subscribe queue invocationId timeout) := by
  refine ⟨consistent_subscribe streams.consistent unused invocationId timeout, ?_, ?_⟩
  · intro other self found
    rw [subscribers_subscribe] at found
    split at found
    case isTrue same =>
      rw [same]
      cases found
      exact own
    case isFalse => exact streams.owned other self found
  · intro other self found message member
    rw [queues_subscribe] at member
    rw [subscribers_subscribe] at found
    split at found
    case isTrue same =>
      rw [if_pos same] at member
      cases member
    case isFalse different =>
      rw [if_neg different] at member
      exact streams.sourced other self found message member

/-- A message goes to the generators of its invocation. -/
theorem publish (streams : OwnStreams json world history bus) {invocation : Uuid} {org : Uuid}
    (belongs : world.orgOf invocation = some org) (payload : Payload Data) :
    OwnStreams json world (history ++ [.publish invocation payload])
      (bus.publish json invocation.str payload) := by
  refine ⟨streams.consistent.of_channels rfl publish_channels, streams.owned, ?_⟩
  intro queue self found message member
  have earlier : message ∈ bus.redis.queues queue → ∃ other org payload',
      .publish other payload' ∈ history ++ [.publish invocation payload] ∧
      other.str = self.invocationId ∧ world.orgOf other = some org ∧
      message = json.dumps payload' := by
    intro old
    rcases streams.sourced queue self found message old with ⟨other, org, payload', before, rest⟩
    exact ⟨other, org, payload', List.mem_append_left _ before, rest⟩
  rw [queues_publish] at member
  split at member
  case isFalse => exact earlier member
  case isTrue subscribed =>
    rcases List.mem_append.mp member with old | fresh
    · exact earlier old
    · rcases (streams.consistent.subscribed _ queue).mp subscribed with ⟨other, found', -, channel⟩
      have present : bus.subscribers queue = some self := found
      rw [present, Option.some.injEq] at found'
      rw [← found'] at channel
      exact ⟨invocation, org, payload, List.mem_append_right _ List.mem_cons_self,
        (invocationEvents_injective channel).symm, belongs, List.mem_singleton.mp fresh⟩

theorem turn {turn : Turn} (streams : OwnStreams json world history bus)
    (found : bus.subscribers queue = some self)
    (effect : TurnEffect json bus queue self turn new) : OwnStreams json world history new := by
  rcases effect.own streams.consistent found with ⟨after, now, same, taken, -⟩
  refine ⟨effect.consistent streams.consistent found, ?_, ?_⟩
  · intro other subscriber found'
    by_cases own : other = queue
    · rw [own, now, Option.some.injEq] at found'
      rw [own, ← found', same]
      exact streams.owned queue self found
    · rw [(effect.frame streams.consistent found own).1] at found'
      exact streams.owned other subscriber found'
  · intro other subscriber found' message member
    by_cases own : other = queue
    · rw [own] at found' member
      rw [now, Option.some.injEq] at found'
      rw [← found', same]
      exact streams.sourced queue self found message (taken message member)
    · rw [(effect.frame streams.consistent found own).1] at found'
      rw [(effect.frame streams.consistent found own).2.1] at member
      exact streams.sourced other subscriber found' message member

theorem elapse (streams : OwnStreams json world history bus) (seconds : ℚ) :
    OwnStreams json world history { bus with now := bus.now + seconds } :=
  ⟨streams.consistent.of_channels rfl rfl, streams.owned, streams.sourced⟩

end OwnStreams

end Queues

/-! ### What a step does -/

section Steps

variable {json : Json Data} {world : World} {history : List (Event Data)} {s s' : State Data}
  {event : Event Data}

/-- The generator that a request is to open. -/
def Event.opens : Event Data → Option QueueId
  | .sse queue _ | .webSocket queue _ => some queue
  | _ => none

def Message.isEvent : Message Data → Bool
  | .event _ _ => true
  | _ => false

inductive StateEffect (json : Json Data) (world : World) (s : State Data) :
    Event Data → State Data → Prop where
  | create {invocation : Uuid} (belongs : (world.orgOf invocation).isSome = true) :
      StateEffect json world s (.create invocation)
        { s with created := Function.update s.created invocation true }
  | refuse {event : Event Data} {queue : QueueId} {answer : Message Data}
      (asks : event.opens = some queue) (plain : answer.isEvent = false) :
      StateEffect json world s event (s.tell (world.clientOf queue) [answer])
  | join {event : Event Data} {queue : QueueId} {invocationId : Text} {answer : Message Data}
      (asks : event.opens = some queue) (plain : answer.isEvent = false)
      (unused : s.bus.subscribers queue = none)
      (own : event.NamesOwn world → world.Owns (world.clientOf queue) invocationId) :
      StateEffect json world s event
        ({ s with bus := s.bus.subscribe queue invocationId 300 }.tell
          (world.clientOf queue) [answer])
  | publish {invocation : Uuid} (created : s.created invocation = true) (payload : Payload Data) :
      StateEffect json world s (.publish invocation payload)
        { s with bus := s.bus.publish json invocation.str payload }
  | turn {queue : QueueId} {turn : Turn} {self : Subscriber Data} {bus : Bus Data}
      (found : s.bus.subscribers queue = some self)
      (effect : TurnEffect json s.bus queue self turn bus) :
      StateEffect json world s (.turn queue turn)
        ({ s with bus }.tell (world.clientOf queue) (s.newsOf world queue bus))
  | elapse {seconds : ℚ} :
      StateEffect json world s (.elapse seconds)
        { s with bus := { s.bus with now := s.bus.now + seconds } }

theorem state_effect_of_subscribe {queue : QueueId} {invocationId : Text} {answer : Message Data}
    (asks : event.opens = some queue) (plain : answer.isEvent = false)
    (own : event.NamesOwn world → world.Owns (world.clientOf queue) invocationId)
    (acts : s.act json world (.subscribe queue invocationId 300) queue (fun _ => [answer]) =
      some s') : StateEffect json world s event s' := by
  rcases Option.map_eq_some_iff.mp acts with ⟨bus, steps, equal⟩
  rw [← equal]
  cases step_effect steps with
  | subscribe unused => exact .join asks plain unused own

theorem state_effect (steps : s.step json world event = some s') :
    StateEffect json world s event s' := by
  cases event with
  | create invocation =>
      rw [State.step] at steps
      split at steps
      case isTrue new =>
        cases steps
        exact .create (Bool.and_eq_true_iff.mp new).1
      case isFalse => cases steps
  | sse queue invocation =>
      rw [State.step] at steps
      split at steps
      case isFalse => cases steps
      case isTrue =>
        split at steps
        case h_1 =>
          cases steps
          exact .refuse rfl rfl
        case h_2 org token =>
          split at steps
          case isTrue known =>
            apply state_effect_of_subscribe rfl rfl _ steps
            intro _ other org' same belongs
            have belongsHere := of_decide_eq_true (Bool.and_eq_true_iff.mp known).2
            rw [Uuid.str_injective same, belongsHere] at belongs
            rw [token, belongs]
          case isFalse =>
            cases steps
            exact .refuse rfl rfl
  | webSocket queue invocationId =>
      rw [State.step] at steps
      split at steps
      case isTrue => cases steps
      case isFalse =>
        split at steps
        case isTrue =>
          cases steps
          exact .refuse rfl rfl
        case isFalse => exact state_effect_of_subscribe rfl rfl (fun own => own) steps
  | publish invocation payload =>
      rw [State.step] at steps
      split at steps
      case isFalse => cases steps
      case isTrue created =>
        cases steps
        exact .publish created payload
  | turn queue turn =>
      rcases Option.map_eq_some_iff.mp steps with ⟨bus, moves, equal⟩
      rw [← equal]
      cases step_effect moves with
      | turn found effect => exact .turn found effect
  | elapse seconds =>
      rcases Option.map_eq_some_iff.mp steps with ⟨bus, moves, equal⟩
      rw [← equal]
      cases step_effect moves with
      | elapse => exact .elapse

theorem DeliveredInOrg.mono {more : List (Event Data)}
    (delivered : DeliveredInOrg world history s) (same : s'.received = s.received) :
    DeliveredInOrg world (history ++ more) s' := by
  intro client invocationId payload given
  rw [same] at given
  rcases delivered client invocationId payload given with ⟨invocation, org, published, rest⟩
  exact ⟨invocation, org, List.mem_append_left _ published, rest⟩

theorem tell_received {client : ClientId} {messages : List (Message Data)} (other : ClientId) :
    (s.tell client messages).received other =
      if other = client then s.received client ++ messages else s.received other :=
  Function.update_apply s.received client _ other

theorem DeliveredInOrg.tell {client : ClientId} {messages : List (Message Data)}
    (delivered : DeliveredInOrg world history s)
    (own : ∀ invocationId payload, .event invocationId payload ∈ messages →
      ∃ invocation org, .publish invocation payload ∈ history ∧ invocation.str = invocationId ∧
        world.orgOf invocation = some org ∧ world.auth client = some org) :
    DeliveredInOrg world history (s.tell client messages) := by
  intro other invocationId payload given
  rw [tell_received] at given
  split at given
  case isTrue same =>
    rw [same]
    rcases List.mem_append.mp given with before | now
    · exact delivered client invocationId payload before
    · exact own invocationId payload now
  case isFalse => exact delivered other invocationId payload given

theorem not_event_of_plain {answer : Message Data} (plain : answer.isEvent = false)
    {invocationId : Text} {payload : Payload Data} : .event invocationId payload ∉ [answer] := by
  intro given
  rw [← List.mem_singleton.mp given] at plain
  cases plain

/-- The events of the news are those the generator has yielded since. -/
theorem event_mem_news {isSse : Bool} {before after : Subscriber Data} {invocationId : Text}
    {payload : Payload Data} (given : .event invocationId payload ∈ news isSse before after) :
    invocationId = after.invocationId ∧
      payload ∈ after.yielded.drop before.yielded.length := by
  have listed : .event invocationId payload ∈
      (after.yielded.drop before.yielded.length).map (Message.event after.invocationId) := by
    unfold news at given
    split at given
    case isTrue => simpa using given
    case isFalse => exact given
  rcases List.mem_map.mp listed with ⟨event, yielded, equal⟩
  rw [Message.event.injEq] at equal
  rw [← equal.1, ← equal.2]
  exact ⟨rfl, yielded⟩

/-- What the invocation events and the clients of a run have to do with each other. -/
structure Scoped (json : Json Data) (world : World) (history : List (Event Data))
    (s : State Data) : Prop where
  streams : OwnStreams json world history s.bus
  belongs : ∀ invocation, s.created invocation = true → (world.orgOf invocation).isSome = true
  delivered : DeliveredInOrg world history s

theorem scoped_initial (now : ℚ) : Scoped json world history ({ bus := { now } } : State Data) := by
  refine ⟨OwnStreams.initial now, ?_, ?_⟩
  · intro invocation created
    cases created
  · intro client invocationId payload given
    cases given

/-- An event that a turn yields was published for the generator's invocation. -/
theorem Scoped.event_of_turn {queue : QueueId} {turn : Turn} {self : Subscriber Data}
    {bus : Bus Data} (keeps : Scoped json world history s)
    (found : s.bus.subscribers queue = some self)
    (effect : TurnEffect json s.bus queue self turn bus) {invocationId : Text}
    {payload : Payload Data} (given : .event invocationId payload ∈ s.newsOf world queue bus) :
    ∃ invocation org, .publish invocation payload ∈ history ∧ invocation.str = invocationId ∧
      world.orgOf invocation = some org ∧ world.auth (world.clientOf queue) = some org := by
  rcases effect.own keeps.streams.consistent found with ⟨after, now, same, _, yields⟩
  rw [State.newsOf, found, now] at given
  rcases event_mem_news given with ⟨names, yielded⟩
  rcases yields with still | ⟨message, event, queued, loaded, longer⟩
  · rw [still, List.drop_length] at yielded
    cases yielded
  · rw [longer, List.drop_left] at yielded
    rcases keeps.streams.sourced queue self found message queued with
      ⟨invocation, org, payload', published, own, belongs, dumped⟩
    rw [dumped, json.loads_dumps, Option.some.injEq] at loaded
    rw [List.mem_singleton.mp yielded, ← loaded, names, same]
    exact ⟨invocation, org, published, own, belongs,
      keeps.streams.owned queue self found invocation org own belongs⟩

/-- Every step whose request names an own invocation keeps it so. -/
theorem Scoped.step (keeps : Scoped json world history s) (namesOwn : event.NamesOwn world)
    (steps : s.step json world event = some s') :
    Scoped json world (history ++ [event]) s' := by
  have streams : OwnStreams json world (history ++ [event]) s.bus :=
    keeps.streams.mono fun _ member => List.mem_append_left _ member
  have delivered : DeliveredInOrg world (history ++ [event]) s := keeps.delivered.mono rfl
  cases state_effect steps with
  | @create invocation belongs =>
      refine ⟨streams, ?_, delivered⟩
      intro other created
      by_cases same : other = invocation
      · rw [same]
        exact belongs
      · have before := (Function.update_of_ne same true s.created).symm.trans created
        exact keeps.belongs other before
  | refuse _ plain =>
      exact ⟨streams, keeps.belongs,
        delivered.tell fun _ _ given => absurd given (not_event_of_plain plain)⟩
  | @join _ queue invocationId _ _ plain unused own =>
      refine ⟨streams.subscribe unused (own namesOwn), keeps.belongs, ?_⟩
      have kept : DeliveredInOrg world (history ++ [event])
          { s with bus := s.bus.subscribe queue invocationId 300 } := delivered
      exact kept.tell fun _ _ given => absurd given (not_event_of_plain plain)
  | @publish invocation created payload =>
      rcases Option.isSome_iff_exists.mp (keeps.belongs invocation created) with ⟨org, belongs⟩
      exact ⟨keeps.streams.publish belongs payload, keeps.belongs, delivered⟩
  | turn found effect =>
      refine ⟨streams.turn found effect, keeps.belongs, ?_⟩
      have kept : DeliveredInOrg world (history ++ [.turn _ _]) { s with bus := _ } := delivered
      apply kept.tell
      intro invocationId payload given
      rcases keeps.event_of_turn found effect given with ⟨invocation, org, published, rest⟩
      exact ⟨invocation, org, List.mem_append_left _ published, rest⟩
  | elapse => exact ⟨streams.elapse _, keeps.belongs, delivered⟩

theorem Scoped.run {more : List (Event Data)} (keeps : Scoped json world history s)
    (namesOwn : ∀ event ∈ more, event.NamesOwn world) (runs : s.run json world more = some s') :
    Scoped json world (history ++ more) s' := by
  induction more generalizing s history with
  | nil =>
      cases runs
      rw [List.append_nil]
      exact keeps
  | cons event more induction =>
      rw [State.run, List.foldlM_cons] at runs
      rcases Option.bind_eq_some_iff.mp runs with ⟨middle, steps, rest⟩
      have next := keeps.step (namesOwn event List.mem_cons_self) steps
      have others : ∀ event ∈ more, event.NamesOwn world :=
        fun event member => namesOwn event (List.mem_cons_of_mem _ member)
      have ends := induction next others rest
      rw [List.append_assoc, List.singleton_append] at ends
      exact ends

end Steps

/-! ### Two runs -/

section TwoRuns

variable {json : Json Data} {world : World} {org : Uuid} {bus new other : Bus Data}
  {queue : QueueId} {self : Subscriber Data}

/-- The same for the generators of clients of other orgs. -/
structure AlikeBus (world : World) (org : Uuid) (bus other : Bus Data) : Prop where
  now : bus.now = other.now
  subscribers : ∀ queue, world.auth (world.clientOf queue) ≠ some org →
    bus.subscribers queue = other.subscribers queue
  queues : ∀ queue, world.auth (world.clientOf queue) ≠ some org →
    bus.redis.queues queue = other.redis.queues queue

namespace AlikeBus

theorem rfl_ (bus : Bus Data) : AlikeBus world org bus bus :=
  ⟨rfl, fun _ _ => rfl, fun _ _ => rfl⟩

/-- One of the two has changed where these clients do not look. -/
theorem hidden (alike : AlikeBus world org bus other) (now : new.now = bus.now)
    (same : ∀ queue, world.auth (world.clientOf queue) ≠ some org →
      new.subscribers queue = bus.subscribers queue ∧
        new.redis.queues queue = bus.redis.queues queue) : AlikeBus world org new other := by
  constructor
  · rw [now, alike.now]
  · intro queue low
    rw [(same queue low).1, alike.subscribers queue low]
  · intro queue low
    rw [(same queue low).2, alike.queues queue low]

theorem set (alike : AlikeBus world org bus other) :
    AlikeBus world org (bus.set queue self) (other.set queue self) := by
  refine ⟨alike.now, ?_, alike.queues⟩
  intro generator low
  by_cases same : generator = queue
  · rw [same, Bus.set_self, Bus.set_self]
  · rw [Bus.set_of_ne same, Bus.set_of_ne same]
    exact alike.subscribers generator low

theorem setQueue (alike : AlikeBus world org bus other) (rest : List Text) :
    AlikeBus world org { bus with redis := bus.redis.setQueue queue rest }
      { other with redis := other.redis.setQueue queue rest } := by
  refine ⟨alike.now, alike.subscribers, ?_⟩
  intro generator low
  by_cases same : generator = queue
  · rw [same]
    exact (Function.update_self queue rest bus.redis.queues).trans
      (Function.update_self queue rest other.redis.queues).symm
  · exact (Function.update_of_ne same rest bus.redis.queues).trans
      ((alike.queues generator low).trans
        (Function.update_of_ne same rest other.redis.queues).symm)

theorem finish (alike : AlikeBus world org bus other) (consistent : Consistent bus)
    (consistentOther : Consistent other) (found : bus.subscribers queue = some self)
    (foundOther : other.subscribers queue = some self) (live : self.isLive = true)
    (ending : Ending) :
    AlikeBus world org (bus.finish queue self ending) (other.finish queue self ending) := by
  rw [finish_eq consistent found live, finish_eq consistentOther foundOther live]
  apply AlikeBus.set
  refine ⟨alike.now, alike.subscribers, ?_⟩
  intro generator low
  rw [leave_queues, leave_queues]
  exact alike.queues generator low

theorem subscribe (alike : AlikeBus world org bus other) (invocationId : Text) (timeout : ℚ) :
    AlikeBus world org (bus.subscribe queue invocationId timeout)
      (other.subscribe queue invocationId timeout) := by
  refine ⟨alike.now, ?_, ?_⟩
  · intro generator low
    rw [subscribers_subscribe, subscribers_subscribe, alike.now, alike.subscribers generator low]
  · intro generator low
    rw [queues_subscribe, queues_subscribe, alike.queues generator low]

/-- The generators that look alike listen to the same channels. -/
theorem listens (alike : AlikeBus world org bus other) (consistent : Consistent bus)
    (consistentOther : Consistent other) (low : world.auth (world.clientOf queue) ≠ some org)
    (channel : Text) :
    queue ∈ bus.redis.subscribersOf channel ↔ queue ∈ other.redis.subscribersOf channel := by
  rw [consistent.subscribed, consistentOther.subscribed, alike.subscribers queue low]

theorem publish (alike : AlikeBus world org bus other) (consistent : Consistent bus)
    (consistentOther : Consistent other) (invocationId : Text) (payload : Payload Data) :
    AlikeBus world org (bus.publish json invocationId payload)
      (other.publish json invocationId payload) := by
  refine ⟨alike.now, alike.subscribers, ?_⟩
  intro generator low
  rw [queues_publish, queues_publish, alike.queues generator low]
  simp only [alike.listens consistent consistentOther low]

theorem elapse (alike : AlikeBus world org bus other) (seconds : ℚ) :
    AlikeBus world org { bus with now := bus.now + seconds }
      { other with now := other.now + seconds } :=
  ⟨congrArg (· + seconds) alike.now, alike.subscribers, alike.queues⟩

end AlikeBus

theorem TurnEffect.moves {turn : Turn} (effect : TurnEffect json bus queue self turn new) :
    bus.turn json queue self turn = some new := by
  unfold Bus.turn
  cases effect with
  | poll stage early =>
      simp only [stage, Bus.poll, if_neg (not_le.mpr (sub_pos.mpr early))]
  | overdue stage late => simp only [stage, Bus.poll, if_pos (sub_nonpos.mpr late)]
  | timeOut stage late => simp only [stage, if_pos late]
  | skip stage queued unreadable =>
      simp only [stage, Bus.receive, InMemoryPubSub.getMessage, queued, unreadable]
  | receive stage queued loaded =>
      simp only [stage, Bus.receive, InMemoryPubSub.getMessage, queued, loaded]
  | next stage => simp [stage, Bus.resume]
  | last stage => simp [stage, Bus.resume]
  | close isOpen =>
      cases stage : self.stage with
      | waiting | yielding => rfl
      | polling | ended => simp [stage, Stage.isOpen] at isOpen

/-- The same turn of a generator that looks alike. -/
theorem TurnEffect.alike {turn : Turn} (effect : TurnEffect json bus queue self turn new)
    (alike : AlikeBus world org bus other) (low : world.auth (world.clientOf queue) ≠ some org)
    (consistent : Consistent bus) (consistentOther : Consistent other)
    (found : bus.subscribers queue = some self) :
    ∃ newOther, TurnEffect json other queue self turn newOther ∧
      AlikeBus world org new newOther := by
  have live := effect.isLive
  have own : self.pubsub.queue = queue := by rw [consistent.pubsub queue self found live]
  have foundOther : other.subscribers queue = some self := by
    rw [← alike.subscribers queue low]
    exact found
  have finished : ∀ ending, AlikeBus world org (bus.finish queue self ending)
      (other.finish queue self ending) :=
    fun ending => alike.finish consistent consistentOther found foundOther live ending
  have sameQueue : bus.redis.queues self.pubsub.queue = other.redis.queues self.pubsub.queue := by
    rw [own]
    exact alike.queues queue low
  cases effect with
  | poll stage early =>
      rw [alike.now] at early ⊢
      exact ⟨_, .poll stage early, alike.set⟩
  | overdue stage late =>
      rw [alike.now] at late
      exact ⟨_, .overdue stage late, finished _⟩
  | timeOut stage late =>
      rw [alike.now] at late
      exact ⟨_, .timeOut stage late, alike.set⟩
  | skip stage queued unreadable =>
      rw [sameQueue] at queued
      exact ⟨_, .skip stage queued unreadable, (alike.setQueue _).set⟩
  | receive stage queued loaded =>
      rw [sameQueue] at queued
      exact ⟨_, .receive stage queued loaded, (alike.setQueue _).set⟩
  | next stage => exact ⟨_, .next stage, alike.set⟩
  | last stage => exact ⟨_, .last stage, finished _⟩
  | close isOpen => exact ⟨_, .close isOpen, finished _⟩

/-- Nothing that clients of other orgs see tells the states apart. -/
structure Alike (world : World) (org : Uuid) (s t : State Data) : Prop where
  bus : AlikeBus world org s.bus t.bus
  created : s.created = t.created
  received : ∀ client, world.auth client ≠ some org → s.received client = t.received client

namespace Alike

variable {history historyOther : List (Event Data)} {s s' t : State Data} {event : Event Data}

theorem tell (alike : Alike world org s t) (client : ClientId) (messages : List (Message Data)) :
    Alike world org (s.tell client messages) (t.tell client messages) := by
  refine ⟨alike.bus, alike.created, ?_⟩
  intro one low
  rw [tell_received, tell_received]
  split
  case isTrue same =>
    rw [same] at low
    rw [alike.received client low]
  case isFalse => exact alike.received one low

theorem tell_hidden (alike : Alike world org s t) {client : ClientId}
    (high : world.auth client = some org) (messages : List (Message Data)) :
    Alike world org (s.tell client messages) t := by
  refine ⟨alike.bus, alike.created, ?_⟩
  intro one low
  have different : one ≠ client := by
    intro same
    rw [same] at low
    exact low high
  rw [tell_received, if_neg different]
  exact alike.received one low

theorem withBus (alike : Alike world org s t) (looks : AlikeBus world org new other) :
    Alike world org { s with bus := new } { t with bus := other } :=
  ⟨looks, alike.created, alike.received⟩

/-- The same action of the bus, told to the same client. -/
theorem act (alike : Alike world org s t) {action : Action Data}
    {messages messagesOther : Bus Data → List (Message Data)}
    (acts : s.act json world action queue messages = some s')
    (same : ∀ new, s.bus.step json action = some new → ∃ newOther,
      t.bus.step json action = some newOther ∧ AlikeBus world org new newOther ∧
        messages new = messagesOther newOther) :
    ∃ t', t.act json world action queue messagesOther = some t' ∧ Alike world org s' t' := by
  rcases Option.map_eq_some_iff.mp acts with ⟨new, steps, equal⟩
  rcases same new steps with ⟨newOther, moves, looks, told⟩
  refine ⟨_, by rw [State.act, moves, Option.map_some], ?_⟩
  rw [← equal, told]
  exact (alike.withBus looks).tell _ _

theorem act_subscribe (alike : Alike world org s t)
    (low : world.auth (world.clientOf queue) ≠ some org) {invocationId : Text} {timeout : ℚ}
    {answer : Message Data}
    (acts : s.act json world (.subscribe queue invocationId timeout) queue (fun _ => [answer]) =
      some s') :
    ∃ t', t.act json world (.subscribe queue invocationId timeout) queue (fun _ => [answer]) =
      some t' ∧ Alike world org s' t' := by
  apply alike.act acts
  intro new steps
  cases step_effect steps with
  | subscribe unused =>
      rw [alike.bus.subscribers queue low] at unused
      exact ⟨_, by simp only [Bus.step, unused], alike.bus.subscribe _ _, rfl⟩

theorem act_turn (alike : Alike world org s t)
    (low : world.auth (world.clientOf queue) ≠ some org) (consistent : Consistent s.bus)
    (consistentOther : Consistent t.bus) {turn : Turn}
    (acts : s.act json world (.turn queue turn) queue (s.newsOf world queue) = some s') :
    ∃ t', t.act json world (.turn queue turn) queue (t.newsOf world queue) = some t' ∧
      Alike world org s' t' := by
  apply alike.act acts
  intro new steps
  cases step_effect steps with
  | turn found effect =>
      rcases effect.alike alike.bus low consistent consistentOther found with
        ⟨newOther, effectOther, looks⟩
      have foundOther := (alike.bus.subscribers queue low).symm.trans found
      have told : s.newsOf world queue new = t.newsOf world queue newOther := by
        rw [State.newsOf, State.newsOf, alike.bus.subscribers queue low,
          looks.subscribers queue low]
      exact ⟨newOther, by simp only [Bus.step, foundOther, effectOther.moves], looks, told⟩

/-- Other clients see nothing of what is published for an org and of what its clients do. -/
theorem hidden (alike : Alike world org s t) (keeps : Scoped json world history s)
    (ofOrg : event.isOf world org = true) (steps : s.step json world event = some s') :
    Alike world org s' t := by
  have other : ∀ {queue} generator, world.auth (world.clientOf queue) = some org →
      world.auth (world.clientOf generator) ≠ some org → generator ≠ queue := by
    intro queue generator high low same
    rw [same] at low
    exact low high
  have opener : ∀ {queue}, event.opens = some queue →
      world.auth (world.clientOf queue) = some org := by
    intro queue asks
    cases event with
    | sse | webSocket =>
        cases asks
        exact of_decide_eq_true ofOrg
    | _ => cases asks
  cases state_effect steps with
  | create | elapse => cases ofOrg
  | refuse asks => exact alike.tell_hidden (opener asks) _
  | @join _ queue invocationId _ asks =>
      have looks : AlikeBus world org (s.bus.subscribe queue invocationId 300) t.bus := by
        refine alike.bus.hidden rfl ?_
        intro generator low
        have different := other generator (opener asks) low
        rw [subscribers_subscribe, queues_subscribe, if_neg different, if_neg different]
        exact ⟨rfl, rfl⟩
      exact (alike.withBus looks).tell_hidden (opener asks) _
  | @publish invocation _ payload =>
      have belongs : world.orgOf invocation = some org := of_decide_eq_true ofOrg
      refine alike.withBus (alike.bus.hidden rfl ?_)
      intro generator low
      have absent : generator ∉
          s.bus.redis.subscribersOf (Execution.invocationEvents invocation.str) := by
        intro listed
        rcases (keeps.streams.consistent.subscribed _ generator).mp listed with
          ⟨self, found, -, channel⟩
        exact low (keeps.streams.owned generator self found invocation org
          (invocationEvents_injective channel).symm belongs)
      rw [queues_publish, if_neg absent]
      exact ⟨rfl, rfl⟩
  | @turn queue _ self bus found effect =>
      have high : world.auth (world.clientOf queue) = some org := of_decide_eq_true ofOrg
      have frame := fun generator low =>
        effect.frame keeps.streams.consistent found (other generator high low)
      have looks : AlikeBus world org bus t.bus := by
        apply alike.bus.hidden
        · exact (effect.frame keeps.streams.consistent found (Nat.succ_ne_self queue)).2.2
        · exact fun generator low => ⟨(frame generator low).1, (frame generator low).2.1⟩
      exact (alike.withBus looks).tell_hidden high _

/-- Any other event is possible in both states. -/
theorem visible (alike : Alike world org s t) (keeps : Scoped json world history s)
    (keepsOther : Scoped json world historyOther t) (notOfOrg : event.isOf world org = false)
    (steps : s.step json world event = some s') :
    ∃ t', t.step json world event = some t' ∧ Alike world org s' t' := by
  cases event with
  | create invocation =>
      simp only [State.step, ← alike.created] at steps ⊢
      split at steps
      case isFalse => cases steps
      case isTrue new =>
        cases steps
        exact ⟨_, if_pos new, alike.bus, rfl, alike.received⟩
  | sse queue invocation =>
      have low : world.auth (world.clientOf queue) ≠ some org := of_decide_eq_false notOfOrg
      simp only [State.step, ← alike.created] at steps ⊢
      split at steps
      case isFalse => cases steps
      case isTrue isSse =>
        simp only [isSse, if_true]
        split at steps
        case h_1 =>
          cases steps
          exact ⟨_, rfl, alike.tell _ _⟩
        case h_2 =>
          split at steps
          case isTrue known =>
            simp only [known, if_true]
            exact alike.act_subscribe low steps
          case isFalse unknown =>
            cases steps
            exact ⟨_, if_neg unknown, alike.tell _ _⟩
  | webSocket queue invocationId =>
      have low : world.auth (world.clientOf queue) ≠ some org := of_decide_eq_false notOfOrg
      simp only [State.step] at steps ⊢
      split at steps
      case isTrue => cases steps
      case isFalse notSse =>
        simp only [notSse]
        split at steps
        case isTrue empty =>
          cases steps
          exact ⟨_, if_pos empty, alike.tell _ _⟩
        case isFalse named =>
          simp only [named, if_false]
          exact alike.act_subscribe low steps
  | publish invocation payload =>
      simp only [State.step, ← alike.created] at steps ⊢
      split at steps
      case isFalse => cases steps
      case isTrue created =>
        cases steps
        have looks : AlikeBus world org (s.bus.publish json invocation.str payload)
            (t.bus.publish json invocation.str payload) :=
          alike.bus.publish keeps.streams.consistent keepsOther.streams.consistent _ _
        exact ⟨_, if_pos created, looks, rfl, alike.received⟩
  | turn queue turn =>
      have low : world.auth (world.clientOf queue) ≠ some org := of_decide_eq_false notOfOrg
      exact alike.act_turn low keeps.streams.consistent keepsOther.streams.consistent steps
  | elapse seconds =>
      rcases Option.map_eq_some_iff.mp steps with ⟨bus, moves, equal⟩
      rw [← equal]
      cases step_effect moves with
      | elapse forward =>
          refine ⟨_, ?_, alike.withBus (alike.bus.elapse seconds)⟩
          simp only [State.step, Bus.step, if_pos forward, Option.map_some]

end Alike

theorem unwinding (json : Json Data) (world : World) (org : Uuid) :
    Unwinding (State.step json world) (Event.NamesOwn world)
      (fun s => ∃ history, Scoped json world history s) (Alike world org)
      (fun event => event.isOf world org) where
  safe_step s s' event keeps namesOwn steps := by
    rcases keeps with ⟨history, keeps⟩
    exact ⟨_, keeps.step namesOwn steps⟩
  hidden s s' t event keeps alike _ ofOrg steps := by
    rcases keeps with ⟨history, keeps⟩
    exact alike.hidden keeps ofOrg steps
  visible s s' t event keeps keepsOther alike _ notOfOrg steps := by
    rcases keeps with ⟨history, keeps⟩
    rcases keepsOther with ⟨historyOther, keepsOther⟩
    exact alike.visible keeps keepsOther notOfOrg steps

end TwoRuns

theorem delivered_in_org (json : Json Data) (world : World) (now : ℚ)
    (history : List (Event Data)) (s : State Data)
    (runs : ({ bus := { now } } : State Data).run json world history = some s)
    (namesOwn : ∀ event ∈ history, event.NamesOwn world) :
    DeliveredInOrg world history s ∧ Independent json world now history s := by
  have start : Scoped json world [] ({ bus := { now } } : State Data) := scoped_initial now
  constructor
  · exact (start.run namesOwn runs).delivered
  · intro org other t runsOther namesOwnOther same client low
    have looks : Alike world org ({ bus := { now } } : State Data) { bus := { now } } :=
      ⟨AlikeBus.rfl_ _, rfl, fun _ _ => rfl⟩
    rcases (unwinding json world org).agree ⟨[], scoped_initial now⟩ looks namesOwn namesOwnOther
      runs runsOther same with ⟨purged, left, right⟩
    rw [left.received client low, right.received client low]

/-- Client 0 is anonymous, the others are of the org of the invocation. -/
def exampleWorld : World where
  auth client := if client = 0 then none else some Uuid.zero
  clientOf queue := queue
  isSse queue := queue = 1
  orgOf invocation := if invocation = Uuid.zero then some Uuid.zero else none

def exampleHistory : List (Event Unit) :=
  [.create Uuid.zero, .sse 1 Uuid.zero, .webSocket 2 Uuid.zero.str, .webSocket 0 "job".toList,
    .publish Uuid.zero ⟨"log", (), false⟩, .turn 1 .poll, .turn 1 .receive, .turn 2 .poll,
    .turn 2 .receive]

theorem exampleWorld_owns {client : ClientId} {invocationId : Text}
    (own : client ≠ 0 ∨ invocationId ≠ Uuid.zero.str) : exampleWorld.Owns client invocationId := by
  intro invocation org same belongs
  simp only [exampleWorld] at belongs ⊢
  split at belongs
  case isFalse => cases belongs
  case isTrue isZero =>
    rw [isZero] at same
    rcases own with known | different
    · rw [← belongs]
      exact if_neg known
    · exact absurd same.symm different

theorem delivered_in_org_both_paths :
    ∃ s, ({ bus := { now := 0 } } : State Unit).run plainJson exampleWorld exampleHistory = some s ∧
      .event Uuid.zero.str ⟨"log", (), false⟩ ∈ s.received 1 ∧
      .event Uuid.zero.str ⟨"log", (), false⟩ ∈ s.received 2 ∧
      DeliveredInOrg exampleWorld exampleHistory s ∧
      Independent plainJson exampleWorld 0 exampleHistory s := by
  have possible : (({ bus := { now := 0 } } : State Unit).run plainJson exampleWorld
      exampleHistory).isSome = true := by
    decide +kernel
  rcases Option.isSome_iff_exists.mp possible with ⟨s, runs⟩
  have received : (({ bus := { now := 0 } } : State Unit).run plainJson exampleWorld
      exampleHistory).map (fun s => (s.received 1, s.received 2)) =
        some ([.connected Uuid.zero.str, .event Uuid.zero.str ⟨"log", (), false⟩],
          [.subscribed Uuid.zero.str, .event Uuid.zero.str ⟨"log", (), false⟩]) := by
    decide +kernel
  rw [runs, Option.map_some, Option.some.injEq, Prod.mk.injEq] at received
  have namesOwn : ∀ event ∈ exampleHistory, event.NamesOwn exampleWorld := by
    have client : exampleWorld.Owns 2 Uuid.zero.str := exampleWorld_owns (Or.inl (by decide))
    have unknown : exampleWorld.Owns 0 "job".toList := exampleWorld_owns (Or.inr (by decide))
    simp only [exampleHistory, List.forall_mem_cons]
    exact ⟨trivial, trivial, client, unknown, trivial, trivial, trivial, trivial, trivial,
      fun _ member => absurd member List.not_mem_nil⟩
  refine ⟨s, runs, ?_, ?_,
    delivered_in_org plainJson exampleWorld 0 exampleHistory s runs namesOwn⟩
  · simp [received.1]
  · simp [received.2]

/-- An anonymous client streams the invocation of an org. -/
def leak (type : String) : List (Event Unit) :=
  [.create Uuid.zero, .webSocket 0 Uuid.zero.str, .publish Uuid.zero ⟨type, (), false⟩,
    .turn 0 .poll, .turn 0 .receive]

theorem anonymous_client_receives :
    ∃ s t, ({ bus := { now := 0 } } : State Unit).run plainJson exampleWorld (leak "log") = some s ∧
      ({ bus := { now := 0 } } : State Unit).run plainJson exampleWorld (leak "result") = some t ∧
      exampleWorld.auth 0 ≠ some Uuid.zero ∧
      ¬ DeliveredInOrg exampleWorld (leak "log") s ∧
      withoutSecret (·.isOf exampleWorld Uuid.zero) (leak "result") =
        withoutSecret (·.isOf exampleWorld Uuid.zero) (leak "log") ∧
      t.received 0 ≠ s.received 0 := by
  have received : ∀ type ∈ ["log", "result"],
      (({ bus := { now := 0 } } : State Unit).run plainJson exampleWorld (leak type)).map
        (·.received 0) =
      some [.subscribed Uuid.zero.str, .event Uuid.zero.str ⟨type, (), false⟩] := by
    decide +kernel
  rcases Option.map_eq_some_iff.mp (received "log" (by simp)) with ⟨s, runs, given⟩
  rcases Option.map_eq_some_iff.mp (received "result" (by simp)) with ⟨t, runsOther, givenOther⟩
  refine ⟨s, t, runs, runsOther, by decide, ?_, rfl, ?_⟩
  · intro delivered
    have member : .event Uuid.zero.str ⟨"log", (), false⟩ ∈ s.received 0 := by simp [given]
    rcases delivered 0 _ _ member with ⟨_, org, _, _, _, authenticated⟩
    cases authenticated
  · rw [given, givenOther]
    decide

end GrafuxMcp.Streaming
