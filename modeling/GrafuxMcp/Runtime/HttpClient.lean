import GrafuxMcp.Foundation.OrderedDict
import GrafuxMcp.Foundation.Trace
import Mathlib.Logic.Function.Basic

/-! # The shared HTTP clients

`app/core/http_client.py`: one client for each running event loop, in a table that is
keyed by the identity of the loop. -/

namespace GrafuxMcp.HttpClient

open GrafuxMcp

abbrev LoopId := Nat
abbrev ClientId := Nat

/-- An event loop. `address` is its `id()`, which a later loop may have too. -/
structure EventLoop where
  address : Nat
  isClosed : Bool := false
deriving DecidableEq

def EventLoop.close (eventLoop : EventLoop) : EventLoop :=
  { eventLoop with isClosed := true }

/-- An `httpx.AsyncClient` and the loop that ran when it was created. -/
structure AsyncClient where
  loop : LoopId
  isClosed : Bool := false
deriving DecidableEq

def AsyncClient.aclose (client : AsyncClient) : AsyncClient :=
  { client with isClosed := true }

structure State where
  loops : LoopId → Option EventLoop := fun _ => none
  clients : ClientId → Option AsyncClient := fun _ => none
  /-- `_clients`. -/
  table : OrderedDict Nat (LoopId × ClientId) := .empty

namespace State

variable (state : State) (loop : LoopId) (client : ClientId)

/-- `id(loop)`. -/
def address : Nat :=
  (state.loops loop).elim 0 EventLoop.address

/-- `loop.is_closed()`. -/
def loopClosed : Bool :=
  (state.loops loop).any EventLoop.isClosed

/-- `client.is_closed`. -/
def clientClosed : Bool :=
  (state.clients client).any AsyncClient.isClosed

def setLoop (eventLoop : EventLoop) : State :=
  { state with loops := Function.update state.loops loop (some eventLoop) }

def closeLoop : State :=
  let closed := (state.loops loop).map EventLoop.close
  { state with loops := Function.update state.loops loop closed }

def closeClient : State :=
  let closed := (state.clients client).map AsyncClient.aclose
  { state with clients := Function.update state.clients client closed }

/-- `_new_client` on the running loop. -/
def newClient : State :=
  { state with clients := Function.update state.clients client (some { loop }) }

/-- `_prune_closed`. -/
def pruneClosed : State :=
  { state with table := state.table.filter fun item => !state.loopClosed item.2.1 }

/-- `get_http_client`, where `client` is the identity of the next new client. -/
def getHttpClient : ClientId × State :=
  match (state.table.get (state.address loop)).filter
      (fun entry => entry.1 == loop && !state.clientClosed entry.2) with
  | some entry => (entry.2, state)
  | none =>
      let created := state.pruneClosed.newClient loop client
      (client, { created with table := created.table.set (created.address loop) (loop, client) })

/-- `aclose_http_client`. -/
def acloseHttpClient : State :=
  let popped := { state with table := state.table.pop (state.address loop) }
  match state.table.get (state.address loop) with
  | none => popped
  | some entry => if popped.clientClosed entry.2 then popped else popped.closeClient entry.2

/-- The loop exists and is not closed. -/
def Live : Prop :=
  ∃ address, state.loops loop = some { address }

/-- The client was created while the loop ran. -/
def BelongsTo : Prop :=
  (state.clients client).map AsyncClient.loop = some loop

def IsOpen : Prop :=
  ∃ loop, state.clients client = some { loop }

end State

inductive Event
  | create (loop : LoopId) (address : Nat)
  | close (loop : LoopId)
  | getHttpClient (loop : LoopId) (client : ClientId)
  | acloseHttpClient (loop : LoopId)
  | closeClient (client : ClientId)

def perform (state : State) : Event → State
  | .create loop address => state.setLoop loop { address }
  | .close loop => state.closeLoop loop
  | .getHttpClient loop client => (state.getHttpClient loop client).2
  | .acloseHttpClient loop => state.acloseHttpClient loop
  | .closeClient client => state.closeClient client

/-- No two live loops have one identity, and only a live loop runs anything. -/
def Possible (state : State) : Event → Prop
  | .create loop address =>
      state.loops loop = none ∧ ∀ other, state.Live other → state.address other ≠ address
  | .close loop => (state.loops loop).isSome = true
  | .getHttpClient loop client => state.Live loop ∧ state.clients client = none
  | .acloseHttpClient loop => state.Live loop
  | .closeClient client => (state.clients client).isSome = true

/-- The event closes what the loop was given. -/
def Closes (loop : LoopId) (client : ClientId) : Event → Prop
  | .acloseHttpClient other => other = loop
  | .closeClient other => other = client
  | _ => False

def run (state : State) (history : List Event) : State :=
  history.foldl perform state

/-- What callers on the loop rely on. -/
structure Disciplined (state : State) (loop : LoopId) : Prop where
  /-- A client is of the running loop and open. -/
  usable : ∀ new, state.clients new = none →
    (state.getHttpClient loop new).2.BelongsTo loop (state.getHttpClient loop new).1 ∧
      (state.getHttpClient loop new).2.IsOpen (state.getHttpClient loop new).1
  /-- It is handed out again until it is closed. -/
  reused : ∀ new later, state.clients new = none →
    EachStep perform (fun s event =>
      Possible s event ∧ ¬ Closes loop (state.getHttpClient loop new).1 event)
      (state.getHttpClient loop new).2 later →
    (run (state.getHttpClient loop new).2 later).Live loop →
    ∀ again, ((run (state.getHttpClient loop new).2 later).getHttpClient loop again).1 =
      (state.getHttpClient loop new).1
  /-- Closing leaves the table without an open client of the loop. -/
  released : ∀ key entry, (state.acloseHttpClient loop).table.get key = some entry →
    (state.acloseHttpClient loop).BelongsTo loop entry.2 →
    ¬ (state.acloseHttpClient loop).IsOpen entry.2
  /-- Closing changes nothing for another loop that is live. -/
  apart : ∀ other, other ≠ loop → state.Live other →
    (state.acloseHttpClient loop).table.get (state.address other) =
        state.table.get (state.address other) ∧
      ∀ client, state.BelongsTo other client →
        (state.acloseHttpClient loop).clients client = state.clients client

/-! ### What the table holds -/

/-- Every entry is under the identity of its loop and holds a client of that loop. -/
structure Sound (state : State) : Prop where
  distinct : ∀ left right, state.Live left → state.Live right →
    state.address left = state.address right → left = right
  keyed : ∀ key entry, state.table.get key = some entry → state.address entry.1 = key
  known : ∀ key entry, state.table.get key = some entry → (state.loops entry.1).isSome = true
  owned : ∀ key entry, state.table.get key = some entry → state.BelongsTo entry.1 entry.2


section Frames

variable {state : State} {loop other : LoopId} {client : ClientId} {key : Nat}
  {entry : LoopId × ClientId}

theorem address_of_loops {other : State} (same : other.loops loop = state.loops loop) :
    other.address loop = state.address loop := by
  rw [State.address, same, State.address]

theorem loops_setLoop (eventLoop : EventLoop) (other : LoopId) :
    (state.setLoop loop eventLoop).loops other =
      if other = loop then some eventLoop else state.loops other :=
  Function.update_apply state.loops loop (some eventLoop) other

theorem loops_closeLoop (other : LoopId) :
    (state.closeLoop loop).loops other =
      if other = loop then (state.loops loop).map EventLoop.close else state.loops other :=
  Function.update_apply state.loops loop _ other

theorem clients_newClient (other : ClientId) :
    (state.newClient loop client).clients other =
      if other = client then some { loop } else state.clients other :=
  Function.update_apply state.clients client _ other

theorem clients_closeClient (other : ClientId) :
    (state.closeClient client).clients other =
      if other = client then (state.clients client).map AsyncClient.aclose
      else state.clients other :=
  Function.update_apply state.clients client _ other

theorem address_closeLoop (other : LoopId) :
    (state.closeLoop loop).address other = state.address other := by
  rw [State.address, loops_closeLoop, State.address]
  split
  case isTrue same =>
    rw [same]
    cases state.loops loop <;> rfl
  case isFalse => rfl

/-- Only a live loop that is not this one is live after it is closed. -/
theorem live_of_closeLoop (live : (state.closeLoop loop).Live other) :
    other ≠ loop ∧ state.Live other := by
  rcases live with ⟨address, found⟩
  rw [loops_closeLoop] at found
  split at found
  case isTrue =>
    rcases Option.map_eq_some_iff.mp found with ⟨before, -, closed⟩
    cases closed
  case isFalse different => exact ⟨different, address, found⟩

theorem loopClosed_of_live (live : state.Live loop) : state.loopClosed loop = false := by
  rcases live with ⟨address, found⟩
  rw [State.loopClosed, found]
  rfl

theorem clientClosed_of_isOpen (isOpen : state.IsOpen client) :
    state.clientClosed client = false := by
  rcases isOpen with ⟨loop, found⟩
  rw [State.clientClosed, found]
  rfl

theorem State.BelongsTo.isSome (belongs : state.BelongsTo loop client) :
    (state.clients client).isSome = true := by
  rw [State.BelongsTo] at belongs
  cases found : state.clients client with
  | none =>
      rw [found] at belongs
      cases belongs
  | some _ => rfl

theorem State.BelongsTo.isOpen (belongs : state.BelongsTo loop client)
    (unclosed : state.clientClosed client = false) : state.IsOpen client := by
  rw [State.BelongsTo] at belongs
  rw [State.clientClosed] at unclosed
  cases found : state.clients client with
  | none =>
      rw [found] at belongs
      cases belongs
  | some created =>
      rw [found] at unclosed
      rcases created with ⟨loop, isClosed⟩
      cases unclosed
      exact ⟨loop, found⟩

/-- A client keeps its loop when some client is closed. -/
theorem State.BelongsTo.closeClient (belongs : state.BelongsTo loop client) (closed : ClientId) :
    (state.closeClient closed).BelongsTo loop client := by
  rw [State.BelongsTo, clients_closeClient]
  split
  case isTrue same =>
    rw [← same, Option.map_map]
    exact belongs
  case isFalse => exact belongs

theorem get_of_pruneClosed (found : state.pruneClosed.table.get key = some entry) :
    state.table.get key = some entry := by
  have member := OrderedDict.mem_of_mem_filter (OrderedDict.mem_of_get found)
  exact OrderedDict.get_of_mem member

/-- Pruning keeps the entry of a loop that is not closed. -/
theorem get_pruneClosed (found : state.table.get key = some entry)
    (unclosed : state.loopClosed entry.1 = false) :
    state.pruneClosed.table.get key = some entry := by
  have member := OrderedDict.mem_of_get found
  apply OrderedDict.get_of_mem
  exact List.mem_filter.mpr ⟨member, by simp [unclosed]⟩

end Frames

section Operations

variable {state : State} {loop : LoopId} {client : ClientId}

/-- The client of the table is handed out where it is of the loop and open. -/
theorem getHttpClient_of_hit {found : ClientId}
    (entry : state.table.get (state.address loop) = some (loop, found))
    (isOpen : state.IsOpen found) : state.getHttpClient loop client = (found, state) := by
  have hit : (state.table.get (state.address loop)).filter
      (fun entry => entry.1 == loop && !state.clientClosed entry.2) = some (loop, found) := by
    rw [entry, Option.filter_some, clientClosed_of_isOpen isOpen]
    simp
  rw [State.getHttpClient, hit]

/-- Otherwise the loop gets a new client. -/
theorem getHttpClient_cases (state : State) (loop : LoopId) (client : ClientId) :
    (∃ found, state.table.get (state.address loop) = some (loop, found) ∧
        state.clientClosed found = false ∧ state.getHttpClient loop client = (found, state)) ∨
      state.getHttpClient loop client =
        (client, { state.pruneClosed.newClient loop client with
          table := state.pruneClosed.table.set (state.address loop) (loop, client) }) := by
  cases hit : (state.table.get (state.address loop)).filter
      (fun entry => entry.1 == loop && !state.clientClosed entry.2) with
  | none =>
      right
      rw [State.getHttpClient, hit]
      rfl
  | some entry =>
      left
      rcases Option.filter_eq_some_iff.mp hit with ⟨found, accepted⟩
      rcases entry with ⟨owner, found'⟩
      simp only [Bool.and_eq_true, beq_iff_eq, Bool.not_eq_true'] at accepted
      refine ⟨found', ?_, accepted.2, ?_⟩
      · rw [found, accepted.1]
      · rw [State.getHttpClient, hit]

/-- What closing does: the entry is gone, and its client is closed. -/
theorem acloseHttpClient_table :
    (state.acloseHttpClient loop).table = state.table.pop (state.address loop) := by
  unfold State.acloseHttpClient
  cases state.table.get (state.address loop) with
  | none => rfl
  | some entry =>
      dsimp only
      split <;> rfl

theorem acloseHttpClient_loops : (state.acloseHttpClient loop).loops = state.loops := by
  unfold State.acloseHttpClient
  cases state.table.get (state.address loop) with
  | none => rfl
  | some entry =>
      dsimp only
      split <;> rfl

theorem acloseHttpClient_clients (state : State) (loop : LoopId) :
    (state.acloseHttpClient loop).clients = state.clients ∨
      ∃ entry, state.table.get (state.address loop) = some entry ∧
        (state.acloseHttpClient loop).clients = (state.closeClient entry.2).clients := by
  unfold State.acloseHttpClient
  cases found : state.table.get (state.address loop) with
  | none => exact Or.inl rfl
  | some entry =>
      dsimp only
      split
      · exact Or.inl rfl
      · exact Or.inr ⟨entry, rfl, rfl⟩

end Operations

theorem acloseHttpClient_client {state : State} {loop : LoopId} {client : ClientId}
    (elsewhere : ∀ entry, state.table.get (state.address loop) = some entry → entry.2 ≠ client) :
    (state.acloseHttpClient loop).clients client = state.clients client := by
  rcases acloseHttpClient_clients state loop with same | ⟨entry, found, closed⟩
  · rw [same]
  · rw [closed, clients_closeClient, if_neg (elsewhere entry found).symm]

theorem State.BelongsTo.aclose {state : State} {other : LoopId} {client : ClientId}
    (belongs : state.BelongsTo other client) (loop : LoopId) :
    (state.acloseHttpClient loop).BelongsTo other client := by
  rcases acloseHttpClient_clients state loop with same | ⟨entry, -, closed⟩
  · rw [State.BelongsTo, same]
    exact belongs
  · rw [State.BelongsTo, closed]
    exact belongs.closeClient entry.2

theorem State.BelongsTo.loop_eq {state : State} {left right : LoopId} {client : ClientId}
    (belongs : state.BelongsTo left client) (belongs' : state.BelongsTo right client) :
    left = right := by
  rw [State.BelongsTo] at belongs belongs'
  rw [belongs] at belongs'
  exact Option.some.inj belongs'

namespace Sound

variable {state : State} {loop other : LoopId} {client : ClientId} {event : Event}

theorem initial : Sound {} := by
  constructor
  · intro left right live
    rcases live with ⟨address, found⟩
    cases found
  all_goals
    intro key entry found
    cases found

theorem create {address : Nat} (sound : Sound state)
    (possible : Possible state (.create loop address)) :
    Sound (perform state (.create loop address)) := by
  rcases possible with ⟨unused, apart⟩
  have frame : ∀ other, other ≠ loop →
      (state.setLoop loop { address }).loops other = state.loops other := by
    intro other different
    rw [loops_setLoop, if_neg different]
  have own : (state.setLoop loop { address }).address loop = address := by
    rw [State.address, loops_setLoop, if_pos rfl]
    rfl
  have before : ∀ other, other ≠ loop → (state.setLoop loop { address }).Live other →
      state.Live other := by
    intro other different live
    rcases live with ⟨address', found⟩
    rw [frame other different] at found
    exact ⟨address', found⟩
  have known : ∀ key entry, state.table.get key = some entry → entry.1 ≠ loop := by
    intro key entry found same
    have present := sound.known key entry found
    rw [same, unused] at present
    cases present
  constructor
  · intro left right liveLeft liveRight same
    by_cases isLeft : left = loop
    · by_cases isRight : right = loop
      · rw [isLeft, isRight]
      · rw [isLeft, perform, own, address_of_loops (frame right isRight)] at same
        exact absurd same.symm (apart right (before right isRight liveRight))
    · by_cases isRight : right = loop
      · rw [isRight, perform, own, address_of_loops (frame left isLeft)] at same
        exact absurd same (apart left (before left isLeft liveLeft))
      · rw [perform, address_of_loops (frame left isLeft),
          address_of_loops (frame right isRight)] at same
        exact sound.distinct left right (before left isLeft liveLeft)
          (before right isRight liveRight) same
  · intro key entry found
    rw [perform, address_of_loops (frame entry.1 (known key entry found))]
    exact sound.keyed key entry found
  · intro key entry found
    rw [perform, frame entry.1 (known key entry found)]
    exact sound.known key entry found
  · exact sound.owned

theorem close (sound : Sound state) : Sound (perform state (.close loop)) := by
  constructor
  · intro left right liveLeft liveRight same
    rw [perform, address_closeLoop, address_closeLoop] at same
    exact sound.distinct left right (live_of_closeLoop liveLeft).2
      (live_of_closeLoop liveRight).2 same
  · intro key entry found
    rw [perform, address_closeLoop]
    exact sound.keyed key entry found
  · intro key entry found
    have before := sound.known key entry found
    rw [perform, loops_closeLoop]
    split
    case isTrue same =>
      rw [← same, Option.isSome_map]
      exact before
    case isFalse => exact before
  · exact sound.owned

/-- A new client is of the running loop, and its entry takes the place of a stale one. -/
theorem getHttpClient (sound : Sound state)
    (possible : Possible state (.getHttpClient loop client)) :
    Sound (perform state (.getHttpClient loop client)) := by
  rcases possible with ⟨live, unused⟩
  rw [perform]
  rcases getHttpClient_cases state loop client with ⟨found, -, -, hit⟩ | created
  · rw [hit]
    exact sound
  · rw [created]
    have entries : ∀ key entry,
        (state.pruneClosed.table.set (state.address loop) (loop, client)).get key = some entry →
        key = state.address loop ∧ entry = (loop, client) ∨ state.table.get key = some entry := by
      intro key entry found
      rw [OrderedDict.get_set] at found
      by_cases same : key = state.address loop
      · rw [if_pos same] at found
        exact Or.inl ⟨same, (Option.some.inj found).symm⟩
      · rw [if_neg same] at found
        exact Or.inr (get_of_pruneClosed found)
    constructor
    · exact sound.distinct
    · intro key entry found
      rcases entries key entry found with ⟨rfl, rfl⟩ | old
      · rfl
      · exact sound.keyed key entry old
    · intro key entry found
      rcases entries key entry found with ⟨rfl, rfl⟩ | old
      · rcases live with ⟨address, present⟩
        exact Option.isSome_of_eq_some present
      · exact sound.known key entry old
    · intro key entry found
      rcases entries key entry found with ⟨rfl, rfl⟩ | old
      · simp [State.BelongsTo, State.newClient]
      · have belongs := sound.owned key entry old
        have different : entry.2 ≠ client := by
          intro same
          have isSome := belongs.isSome
          rw [same, unused] at isSome
          cases isSome
        rw [State.BelongsTo, clients_newClient, if_neg different]
        exact belongs

theorem acloseHttpClient (sound : Sound state) :
    Sound (perform state (.acloseHttpClient loop)) := by
  have loops : ∀ other, (state.acloseHttpClient loop).loops other = state.loops other := by
    intro other
    rw [acloseHttpClient_loops]
  have entries : ∀ key entry, (state.acloseHttpClient loop).table.get key = some entry →
      state.table.get key = some entry := by
    intro key entry found
    rw [acloseHttpClient_table, OrderedDict.get_pop] at found
    split at found
    · cases found
    · exact found
  have before : ∀ other, (state.acloseHttpClient loop).Live other → state.Live other := by
    intro other live
    rcases live with ⟨address, found⟩
    rw [loops] at found
    exact ⟨address, found⟩
  rw [perform]
  constructor
  · intro left right liveLeft liveRight same
    rw [address_of_loops (loops left), address_of_loops (loops right)] at same
    exact sound.distinct left right (before left liveLeft) (before right liveRight) same
  · intro key entry found
    rw [address_of_loops (loops entry.1)]
    exact sound.keyed key entry (entries key entry found)
  · intro key entry found
    rw [loops]
    exact sound.known key entry (entries key entry found)
  · intro key entry found
    exact (sound.owned key entry (entries key entry found)).aclose loop

theorem step (sound : Sound state) (possible : Possible state event) :
    Sound (perform state event) := by
  cases event with
  | create loop address => exact sound.create possible
  | close loop => exact sound.close
  | getHttpClient loop client => exact sound.getHttpClient possible
  | acloseHttpClient loop => exact sound.acloseHttpClient
  | closeClient client =>
      constructor
      · exact sound.distinct
      · exact sound.keyed
      · exact sound.known
      · intro key entry found
        exact (sound.owned key entry found).closeClient client

end Sound

/-! ### What a loop is served -/

/-- The loop is not new, and as long as it lives the table has this open client for it. -/
structure Serves (loop : LoopId) (client : ClientId) (state : State) : Prop where
  sound : Sound state
  present : (state.loops loop).isSome = true
  entry : state.Live loop → state.table.get (state.address loop) = some (loop, client)
  isOpen : state.Live loop → state.IsOpen client

namespace Serves

variable {state : State} {loop : LoopId} {client : ClientId} {event : Event}

theorem answer (serves : Serves loop client state) (live : state.Live loop) (new : ClientId) :
    state.getHttpClient loop new = (client, state) :=
  getHttpClient_of_hit (serves.entry live) (serves.isOpen live)

theorem create {other : LoopId} {address : Nat} (serves : Serves loop client state)
    (possible : Possible state (.create other address)) :
    Serves loop client (perform state (.create other address)) := by
  have different : loop ≠ other := by
    intro same
    have present := serves.present
    rw [same, possible.1] at present
    cases present
  have frame : (perform state (.create other address)).loops loop = state.loops loop := by
    rw [perform, loops_setLoop, if_neg different]
  have before : (perform state (.create other address)).Live loop → state.Live loop := by
    intro live
    rcases live with ⟨address', found⟩
    rw [frame] at found
    exact ⟨address', found⟩
  constructor
  · exact serves.sound.step possible
  · rw [frame]
    exact serves.present
  · intro live
    rw [address_of_loops frame]
    exact serves.entry (before live)
  · intro live
    exact serves.isOpen (before live)

theorem close {other : LoopId} (serves : Serves loop client state)
    (possible : Possible state (.close other)) :
    Serves loop client (perform state (.close other)) := by
  constructor
  · exact serves.sound.step possible
  · rw [perform, loops_closeLoop]
    split
    case isTrue same =>
      rw [← same, Option.isSome_map]
      exact serves.present
    case isFalse => exact serves.present
  · intro live
    rw [perform, address_closeLoop]
    exact serves.entry (live_of_closeLoop live).2
  · intro live
    exact serves.isOpen (live_of_closeLoop live).2

/-- Another loop's miss prunes no live loop and sets an entry at another identity. -/
theorem getHttpClient {other : LoopId} {new : ClientId} (serves : Serves loop client state)
    (possible : Possible state (.getHttpClient other new)) :
    Serves loop client (perform state (.getHttpClient other new)) := by
  have sound := serves.sound.step possible
  rw [perform] at sound ⊢
  rcases getHttpClient_cases state other new with ⟨found, -, -, hit⟩ | created
  · rw [hit]
    exact serves
  · rw [created] at sound ⊢
    refine ⟨sound, serves.present, ?_, ?_⟩
    · intro live
      have entry := serves.entry live
      have different : state.address loop ≠ state.address other := by
        intro same
        have isSame := serves.sound.distinct loop other live possible.1 same
        have hit := serves.answer live new
        rw [isSame, created] at hit
        -- the client of the loop is not new
        have isNew : new = client := congrArg Prod.fst hit
        rcases serves.isOpen live with ⟨owner, known⟩
        rw [← isNew, possible.2] at known
        cases known
      have kept := get_pruneClosed entry (loopClosed_of_live live)
      exact (OrderedDict.get_set (state.address loop)).trans ((if_neg different).trans kept)
    · intro live
      rcases serves.isOpen live with ⟨owner, known⟩
      have different : client ≠ new := by
        intro same
        rw [same, possible.2] at known
        cases known
      refine ⟨owner, ?_⟩
      rw [clients_newClient, if_neg different]
      exact known

theorem acloseHttpClient {other : LoopId} (serves : Serves loop client state)
    (possible : Possible state (.acloseHttpClient other)) (different : other ≠ loop) :
    Serves loop client (perform state (.acloseHttpClient other)) := by
  have frame : (state.acloseHttpClient other).loops loop = state.loops loop := by
    rw [acloseHttpClient_loops]
  have before : (state.acloseHttpClient other).Live loop → state.Live loop := by
    intro live
    rcases live with ⟨address, found⟩
    rw [frame] at found
    exact ⟨address, found⟩
  have apart : state.Live loop → state.address loop ≠ state.address other := by
    intro live same
    exact different (serves.sound.distinct loop other live possible same).symm
  have sound := serves.sound.step possible
  rw [perform] at sound ⊢
  constructor
  · exact sound
  · rw [frame]
    exact serves.present
  · intro live
    rw [address_of_loops frame, acloseHttpClient_table, OrderedDict.get_pop,
      if_neg (apart (before live))]
    exact serves.entry (before live)
  · intro live
    have own := serves.sound.owned _ _ (serves.entry (before live))
    rcases serves.isOpen (before live) with ⟨owner, known⟩
    refine ⟨owner, ?_⟩
    rw [acloseHttpClient_client]
    · exact known
    · intro entry found same
      -- its entry is under the identity of its own loop
      have belongs := serves.sound.owned _ _ found
      rw [same] at belongs
      have keyed := serves.sound.keyed _ _ found
      rw [belongs.loop_eq own] at keyed
      exact apart (before live) keyed

theorem step (serves : Serves loop client state) (possible : Possible state event)
    (unclosed : ¬ Closes loop client event) : Serves loop client (perform state event) := by
  cases event with
  | create other address => exact serves.create possible
  | close other => exact serves.close possible
  | getHttpClient other new => exact serves.getHttpClient possible
  | acloseHttpClient other => exact serves.acloseHttpClient possible unclosed
  | closeClient other =>
      refine ⟨serves.sound.step possible, serves.present, serves.entry, ?_⟩
      intro live
      rcases serves.isOpen live with ⟨owner, known⟩
      refine ⟨owner, ?_⟩
      rw [perform, clients_closeClient, if_neg (fun same => unclosed same.symm)]
      exact known

theorem run {later : List Event} (serves : Serves loop client state)
    (each : EachStep perform (fun s event => Possible s event ∧ ¬ Closes loop client event)
      state later) : Serves loop client (HttpClient.run state later) := by
  have states := each.invariant serves fun s event serves allowed =>
    serves.step allowed.1 allowed.2
  exact states later [] (List.append_nil later).symm

end Serves

/-- After a call the loop is served with what the call returned. -/
theorem Sound.serves {state : State} {loop : LoopId} {client : ClientId} (sound : Sound state)
    (live : state.Live loop) (unused : state.clients client = none) :
    Serves loop (state.getHttpClient loop client).1 (state.getHttpClient loop client).2 := by
  have after := sound.getHttpClient ⟨live, unused⟩
  rw [perform] at after
  rcases getHttpClient_cases state loop client with ⟨found, entry, isOpen, hit⟩ | created
  · rw [hit] at after ⊢
    have belongs := sound.owned _ _ entry
    refine ⟨after, sound.known _ _ entry, fun _ => entry, fun _ => ?_⟩
    exact belongs.isOpen isOpen
  · rw [created] at after ⊢
    refine ⟨after, ?_, ?_, ?_⟩
    · rcases live with ⟨address, present⟩
      exact Option.isSome_of_eq_some present
    · intro _
      exact (OrderedDict.get_set (state.address loop)).trans (if_pos rfl)
    · intro _
      exact ⟨loop, Function.update_self client _ _⟩

theorem sound_run {history : List Event} (possible : EachStep perform Possible {} history) :
    Sound (run {} history) := by
  have states := possible.invariant Sound.initial fun s event sound allowed => sound.step allowed
  exact states history [] (List.append_nil history).symm

/-- Whatever loops come and go, a running loop is served by its own client. -/
theorem clients_follow_loops (history : List Event)
    (possible : EachStep perform Possible {} history) (loop : LoopId)
    (live : (run {} history).Live loop) : Disciplined (run {} history) loop := by
  have sound := sound_run possible
  generalize run {} history = state at live sound
  constructor
  · intro new unused
    have serves := sound.serves live unused
    have liveAfter : (state.getHttpClient loop new).2.Live loop := by
      rcases getHttpClient_cases state loop new with ⟨_, -, -, hit⟩ | created
      · rw [hit]
        exact live
      · rw [created]
        exact live
    exact ⟨serves.sound.owned _ _ (serves.entry liveAfter), serves.isOpen liveAfter⟩
  · intro new later unused each liveAfter again
    have serves := (sound.serves live unused).run each
    rw [serves.answer liveAfter again]
  · intro key entry found belongs _
    rw [acloseHttpClient_table, OrderedDict.get_pop] at found
    split at found
    case isTrue => cases found
    case isFalse different =>
      have owned := (sound.owned _ _ found).aclose loop
      have keyed := sound.keyed _ _ found
      rw [owned.loop_eq belongs] at keyed
      exact different keyed.symm
  · intro other different liveOther
    have apart : state.address other ≠ state.address loop := fun same =>
      different (sound.distinct other loop liveOther live same)
    constructor
    · rw [acloseHttpClient_table, OrderedDict.get_pop, if_neg apart]
    · intro client belongs
      apply acloseHttpClient_client
      intro entry found same
      have owned := sound.owned _ _ found
      rw [same] at owned
      have keyed := sound.keyed _ _ found
      rw [owned.loop_eq belongs] at keyed
      exact apart keyed

/-! ### A loop with the identity of a closed one -/

/-- The second loop has the identity of the first. -/
def recycled : List Event :=
  [.create 0 7, .getHttpClient 0 0, .close 0, .create 1 7]

theorem live_recycled : (run {} recycled).Live 1 := ⟨7, rfl⟩

theorem possible_recycled : EachStep perform Possible {} recycled := by
  have first : ∀ other, ¬ State.Live {} other := by
    intro other live
    rcases live with ⟨address, found⟩
    cases found
  have last : ∀ other, ¬ (run {} [.create 0 7, .getHttpClient 0 0, .close 0]).Live other := by
    intro other live
    rcases live_of_closeLoop live with ⟨different, address, found⟩
    have frame : (run {} [.create 0 7, .getHttpClient 0 0]).loops =
        (State.setLoop {} 0 { address := 7 }).loops := rfl
    have unchanged := congrFun frame other
    rw [loops_setLoop, if_neg different] at unchanged
    cases unchanged.symm.trans found
  rw [recycled, eachStep_cons, eachStep_cons, eachStep_cons, eachStep_cons]
  refine ⟨⟨rfl, ?_⟩, ⟨⟨7, rfl⟩, rfl⟩, rfl, ⟨rfl, ?_⟩, eachStep_nil _⟩
  · exact fun other live => absurd live (first other)
  · exact fun other live => absurd live (last other)

theorem clients_follow_loops_recycled : Disciplined (run {} recycled) 1 :=
  clients_follow_loops recycled possible_recycled 1 live_recycled

end GrafuxMcp.HttpClient
