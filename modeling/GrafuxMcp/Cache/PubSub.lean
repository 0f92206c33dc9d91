import GrafuxMcp.Models.Uuid
import Mathlib.Data.Finset.Card
import Mathlib.Data.Finset.Insert

/-! # Publish and subscribe within the process

`_InMemoryPubSub` of `app/cache/redis_client.py` and the channels of
`_InMemoryRedis`. None of these operations suspends while a queue has messages. -/

namespace GrafuxMcp.Redis

open GrafuxMcp

abbrev QueueId := Nat

/-- The subscribers of each channel, and what each `asyncio.Queue` holds. -/
structure InMemoryRedis where
  channels : Text → Option (Finset QueueId) := fun _ => none
  queues : QueueId → List Text := fun _ => []

structure InMemoryPubSub where
  queue : QueueId
  channels : List Text := []
  deriving DecidableEq

namespace InMemoryRedis

variable (redis : InMemoryRedis)

/-- The loop over the set: `put_nowait` on each queue. -/
def putAll (subs : Finset QueueId) (message : Text) : InMemoryRedis :=
  { redis with queues := fun queue =>
      if queue ∈ subs then redis.queues queue ++ [message] else redis.queues queue }

def publish (channel message : Text) : InMemoryRedis × Nat :=
  match redis.channels channel with
  | none => (redis, 0)
  | some subs => if subs = ∅ then (redis, 0) else (redis.putAll subs message, subs.card)

def setQueue (queue : QueueId) (messages : List Text) : InMemoryRedis :=
  { redis with queues := Function.update redis.queues queue messages }

/-- The new queue is empty. -/
def pubsub (queue : QueueId) : InMemoryRedis × InMemoryPubSub :=
  (redis.setQueue queue [], { queue })

/-- The queues that a message on the channel reaches. -/
def subscribersOf (channel : Text) : Finset QueueId :=
  (redis.channels channel).getD ∅

def setChannel (channel : Text) (subs : Option (Finset QueueId)) : InMemoryRedis :=
  { redis with channels := Function.update redis.channels channel subs }

end InMemoryRedis

namespace InMemoryPubSub

variable (redis : InMemoryRedis) (self : InMemoryPubSub)

def subscribe (channel : Text) : InMemoryRedis × InMemoryPubSub :=
  (redis.setChannel channel (some (insert self.queue (redis.subscribersOf channel))),
    { self with channels := self.channels.insert channel })

/-- One turn of the loop of `unsubscribe`. -/
def leave (channel : Text) : InMemoryRedis × InMemoryPubSub :=
  let left := { self with channels := self.channels.filter (· != channel) }
  match redis.channels channel with
  | none => (redis, left)
  | some subs =>
      let others := subs.erase self.queue
      (redis.setChannel channel (if others = ∅ then none else some others), left)

/-- No channel, and an empty one, stand for all channels. -/
def unsubscribe (channel : Option Text := none) : InMemoryRedis × InMemoryPubSub :=
  let chosen :=
    match channel.filter (!·.isEmpty) with
    | some channel => [channel]
    | none => self.channels
  chosen.foldl (fun state channel => leave state.1 state.2 channel) (redis, self)

/-- The oldest message, unless there is none yet. -/
def getMessage : Option (Text × InMemoryRedis) :=
  match redis.queues self.queue with
  | [] => none
  | data :: rest => some (data, redis.setQueue self.queue rest)

def aclose : InMemoryRedis × InMemoryPubSub :=
  unsubscribe redis self

end InMemoryPubSub

/-! ### What the operations change -/

section Laws

variable {redis : InMemoryRedis} {self : InMemoryPubSub} {channel message : Text}

/-- No channel maps to an empty set. -/
def InMemoryRedis.NoEmptySet (redis : InMemoryRedis) : Prop :=
  ∀ channel, redis.channels channel ≠ some ∅

theorem subscribersOf_setChannel (other : Text) (subs : Option (Finset QueueId)) :
    (redis.setChannel channel subs).subscribersOf other =
      if other = channel then subs.getD ∅ else redis.subscribersOf other := by
  simp only [InMemoryRedis.subscribersOf, InMemoryRedis.setChannel, Function.update_apply]
  split <;> rfl

theorem noEmptySet_setChannel {subs : Option (Finset QueueId)} (nonempty : subs ≠ some ∅)
    (clean : redis.NoEmptySet) : (redis.setChannel channel subs).NoEmptySet := by
  intro other
  simp only [InMemoryRedis.setChannel, Function.update_apply]
  split
  · exact nonempty
  · exact clean other

@[simp] theorem publish_channels : (redis.publish channel message).1.channels = redis.channels := by
  unfold InMemoryRedis.publish
  split
  · rfl
  · split <;> rfl

theorem publish_queues (queue : QueueId) :
    (redis.publish channel message).1.queues queue =
      if queue ∈ redis.subscribersOf channel then redis.queues queue ++ [message]
      else redis.queues queue := by
  unfold InMemoryRedis.publish InMemoryRedis.subscribersOf
  cases redis.channels channel with
  | none => simp
  | some subs =>
      by_cases empty : subs = ∅
      · simp [empty]
      · simp [empty, InMemoryRedis.putAll]

theorem subscribersOf_subscribe (other : Text) :
    (self.subscribe redis channel).1.subscribersOf other =
      if other = channel then insert self.queue (redis.subscribersOf other)
      else redis.subscribersOf other := by
  unfold InMemoryPubSub.subscribe
  rw [subscribersOf_setChannel]
  split
  case isTrue same => rw [same, Option.getD_some]
  case isFalse => rfl

theorem noEmptySet_subscribe (clean : redis.NoEmptySet) :
    (self.subscribe redis channel).1.NoEmptySet := by
  apply noEmptySet_setChannel _ clean
  simp

theorem leave_channels :
    (self.leave redis channel).2 = { self with channels := self.channels.filter (· != channel) } := by
  unfold InMemoryPubSub.leave
  split <;> rfl

@[simp] theorem leave_queues : (self.leave redis channel).1.queues = redis.queues := by
  unfold InMemoryPubSub.leave
  split <;> rfl

theorem subscribersOf_leave (other : Text) :
    (self.leave redis channel).1.subscribersOf other =
      if other = channel then (redis.subscribersOf other).erase self.queue
      else redis.subscribersOf other := by
  cases found : redis.channels channel with
  | none =>
      simp only [InMemoryPubSub.leave, found]
      split
      case isTrue same => simp [same, InMemoryRedis.subscribersOf, found]
      case isFalse => rfl
  | some subs =>
      simp only [InMemoryPubSub.leave, found]
      rw [subscribersOf_setChannel]
      split
      case isFalse => rfl
      case isTrue same =>
        simp only [same, InMemoryRedis.subscribersOf, found, Option.getD_some]
        split
        case isTrue empty => rw [empty, Option.getD_none]
        case isFalse => rw [Option.getD_some]

theorem noEmptySet_leave (clean : redis.NoEmptySet) : (self.leave redis channel).1.NoEmptySet := by
  unfold InMemoryPubSub.leave
  split
  · exact clean
  · apply noEmptySet_setChannel _ clean
    split
    · simp
    · simpa using ‹_›

/-- The cleanup of a pubsub that has one channel leaves this channel, once. -/
theorem unsubscribe_aclose (named : channel ≠ []) (one : self.channels = [channel]) :
    InMemoryPubSub.aclose (self.unsubscribe redis (some channel)).1
      (self.unsubscribe redis (some channel)).2 = self.leave redis channel := by
  have chosen : (some channel).filter (!·.isEmpty) = some channel := by
    simp [named]
  have first : self.unsubscribe redis (some channel) = self.leave redis channel := by
    simp only [InMemoryPubSub.unsubscribe, chosen, List.foldl_cons, List.foldl_nil]
  have rest : (self.leave redis channel).2.channels = [] := by
    rw [leave_channels, one]
    simp
  rw [first, InMemoryPubSub.aclose, InMemoryPubSub.unsubscribe]
  simp only [Option.filter_none, rest, List.foldl_nil]

end Laws

end GrafuxMcp.Redis
