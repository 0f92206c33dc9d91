import GrafuxMcp.Cache.PubSub
import GrafuxMcp.Streaming.EventBus
import Mathlib.Algebra.Order.Ring.Rat

/-! # Event bus, subscribing side

`EventBus.publish` and `EventBus.subscribe` of `app/core/streaming/event_bus.py`
over the in-process Redis. A generator is cut at its awaits and at its `yield`; one
action runs a generator from one of these points to the next. -/

namespace GrafuxMcp.Streaming

open GrafuxMcp Redis

/-- The payload `{"type": ..., "data": ..., "final": ...}`. -/
structure Payload (Data : Type) where
  type : String
  data : Data
  final : Bool
  deriving DecidableEq, Repr

/-- `json.dumps` and `json.loads` on payloads whose data are JSON values. -/
structure Json (Data : Type) where
  dumps : Payload Data → Text
  loads : Text → Option (Payload Data)
  loads_dumps : ∀ payload, loads (dumps payload) = some payload

/-- Why a generator has ended. -/
inductive Ending
  | final
  | deadline
  /-- Its client has closed it, or was cancelled. -/
  | closed
  deriving DecidableEq, Repr

inductive Stage
  /-- At the head of the loop. -/
  | polling
  /-- In `get_message`, whose timeout ends at this time. -/
  | waiting (wakeAt : ℚ)
  /-- At the `yield` of an event. -/
  | yielding (final : Bool)
  | ended (ending : Ending)
  deriving DecidableEq, Repr

structure Subscriber (Data : Type) where
  invocationId : Text
  pubsub : InMemoryPubSub
  deadline : ℚ
  stage : Stage := .polling
  /-- What its client has been given so far. -/
  yielded : List (Payload Data) := []

variable {Data : Type}

def Subscriber.channel (self : Subscriber Data) : Text :=
  Execution.invocationEvents self.invocationId

def Subscriber.isLive (self : Subscriber Data) : Bool :=
  match self.stage with
  | .ended _ => false
  | _ => true

/-- The process: a generator goes by the number of its queue. -/
structure Bus (Data : Type) where
  redis : InMemoryRedis := {}
  subscribers : QueueId → Option (Subscriber Data) := fun _ => none
  /-- `loop.time()`, in seconds. -/
  now : ℚ

inductive Turn
  /-- The generator looks at its deadline and calls `get_message`. -/
  | poll
  /-- `get_message` returns a message. -/
  | receive
  /-- `get_message` returns `None`. -/
  | timeOut
  /-- The client asks for the next event. -/
  | resume
  /-- The client closes the generator, or is cancelled while it waits. -/
  | close
  deriving DecidableEq, Repr

inductive Action (Data : Type)
  | publish (invocationId : Text) (payload : Payload Data)
  /-- A new generator gets its first turn. -/
  | subscribe (id : QueueId) (invocationId : Text) (timeout : ℚ)
  | turn (id : QueueId) (turn : Turn)
  | elapse (seconds : ℚ)

namespace Bus

variable (json : Json Data) (bus : Bus Data) (id : QueueId) (self : Subscriber Data)

def set : Bus Data :=
  { bus with subscribers := Function.update bus.subscribers id (some self) }

def goto (stage : Stage) : Bus Data :=
  bus.set id { self with stage }

/-- `EventBus.publish`. -/
def publish (invocationId : Text) (payload : Payload Data) : Bus Data :=
  { bus with redis :=
      (bus.redis.publish (Execution.invocationEvents invocationId) (json.dumps payload)).1 }

def subscribe (invocationId : Text) (timeout : ℚ) : Bus Data :=
  let created := bus.redis.pubsub id
  let joined := created.2.subscribe created.1 (Execution.invocationEvents invocationId)
  { bus with redis := joined.1 }.set id
    { invocationId, pubsub := joined.2, deadline := bus.now + timeout }

/-- The `finally` block. -/
def finish (ending : Ending) : Bus Data :=
  let left := self.pubsub.unsubscribe bus.redis (some self.channel)
  let closed := left.2.aclose left.1
  { bus with redis := closed.1 }.set id { self with pubsub := closed.2, stage := .ended ending }

def poll : Bus Data :=
  let remaining := self.deadline - bus.now
  if remaining ≤ 0 then bus.finish id self .deadline
  else bus.goto id self (.waiting (bus.now + min remaining 5))

/-- A message that is not JSON is skipped. -/
def receive : Option (Bus Data) :=
  match self.pubsub.getMessage bus.redis with
  | none => none
  | some (message, redis) =>
      match json.loads message with
      | none => some ({ bus with redis }.goto id self .polling)
      | some event =>
          some ({ bus with redis }.set id { self with
            stage := .yielding event.final
            yielded := self.yielded ++ [event] })

def resume (final : Bool) : Bus Data :=
  if final then bus.finish id self .final else bus.goto id self .polling

/-- One turn of a generator, if it is possible. -/
def turn (turn : Turn) : Option (Bus Data) :=
  match self.stage, turn with
  | .polling, .poll => some (bus.poll id self)
  | .waiting _, .receive => bus.receive json id self
  | .waiting wakeAt, .timeOut =>
      if wakeAt ≤ bus.now then some (bus.goto id self .polling) else none
  | .yielding final, .resume => some (bus.resume id self final)
  | .waiting _, .close | .yielding _, .close => some (bus.finish id self .closed)
  | _, _ => none

def step : Action Data → Option (Bus Data)
  | .publish invocationId payload => some (bus.publish json invocationId payload)
  | .subscribe id invocationId timeout =>
      match bus.subscribers id with
      | none => some (bus.subscribe id invocationId timeout)
      | some _ => none
  | .turn id turn =>
      match bus.subscribers id with
      | none => none
      | some self => bus.turn json id self turn
  | .elapse seconds =>
      if 0 ≤ seconds then some { bus with now := bus.now + seconds } else none

def run (actions : List (Action Data)) : Option (Bus Data) :=
  actions.foldlM (step json) bus

variable {json bus id self}

@[simp] theorem set_redis : (bus.set id self).redis = bus.redis := rfl
@[simp] theorem set_now : (bus.set id self).now = bus.now := rfl

theorem set_self : (bus.set id self).subscribers id = some self :=
  Function.update_self ..

theorem set_of_ne {other : QueueId} (different : other ≠ id) :
    (bus.set id self).subscribers other = bus.subscribers other :=
  Function.update_of_ne different ..

theorem run_cons {action : Action Data} {actions : List (Action Data)} :
    bus.run json (action :: actions) = (bus.step json action).bind fun new => new.run json actions := by
  simp only [run, List.foldlM_cons, bind]

theorem run_append {before after : List (Action Data)} :
    bus.run json (before ++ after) = (bus.run json before).bind fun new => new.run json after := by
  simp only [run, List.foldlM_append, bind]

end Bus

/-! ### Payloads without data -/

/-- `json.dumps` puts the type first and the two other items behind it. -/
def typeKey : Text := "\x7b\"type\": \"".toList

def finalItem (final : Bool) : Text :=
  if final then "\", \"data\": null, \"final\": true\x7d".toList
  else "\", \"data\": null, \"final\": false\x7d".toList

/-- The payloads whose type needs no escape and whose data are `None`. -/
def plainJson : Json Unit where
  dumps payload := typeKey ++ (payload.type.toList ++ finalItem payload.final)
  loads text :=
    let final := text.reverse[2]? == some 'u'
    let items := text.drop typeKey.length
    some ⟨String.ofList (items.take (items.length - (finalItem final).length)), (), final⟩
  loads_dumps payload := by
    have third : ∀ final, (finalItem final).reverse[2]? = some (if final then 'u' else 's') := by
      decide
    have final : ((typeKey ++ (payload.type.toList ++ finalItem payload.final)).reverse[2]? ==
        some 'u') = payload.final := by
      rw [List.reverse_append, List.reverse_append, List.append_assoc,
        List.getElem?_append_left (by cases payload.final <;> decide), third]
      cases payload.final <;> rfl
    simp only [final, List.drop_left, List.length_append, Nat.add_sub_cancel, List.take_left,
      String.ofList_toList]

end GrafuxMcp.Streaming
