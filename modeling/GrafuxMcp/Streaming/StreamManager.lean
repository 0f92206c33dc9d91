import GrafuxMcp.Foundation.OrderedDict
import GrafuxMcp.Foundation.Trace
import GrafuxMcp.Runtime.Exceptions
import Mathlib.Data.Finset.Card
import Mathlib.Data.Finset.Insert

/-! # The stream manager

`app/core/streaming/stream_manager.py`: the sockets of each org and the sockets that wait
for each invocation. The lock is never held across an await, so what is done under it is
one step; sends to the sockets of a set lie between two such steps. -/

namespace GrafuxMcp.Sockets

open GrafuxMcp

abbrev Socket := Nat

/-- A `defaultdict(set)`. -/
abbrev SocketSets := OrderedDict Text (Finset Socket)

namespace SocketSets

variable (sets : SocketSets) (key : Text) (socket : Socket)

/-- What `sets[key]` holds; the missing set is empty. -/
def socketsAt : Finset Socket := (OrderedDict.get sets key).getD ∅

def add : SocketSets := OrderedDict.set sets key (insert socket (sets.socketsAt key))

/-- `sets[key].discard(socket)`, which also makes a set that is missing. -/
def discard : SocketSets := OrderedDict.set sets key ((sets.socketsAt key).erase socket)

def discardAll (sockets : List Socket) : SocketSets :=
  sockets.foldl (fun sets socket => sets.discard key socket) sets

/-- The socket is taken out of every set. -/
def discardEverywhere : SocketSets where
  items := sets.items.map fun item => (item.1, item.2.erase socket)
  nodup := by
    rw [List.map_map]
    exact sets.nodup

/-- The number of sockets, counted in each set. -/
def count : Nat := sets.items.foldl (fun sum item => sum + item.2.card) 0

end SocketSets

structure StreamManager where
  connections : SocketSets := .empty
  invocationWaiters : SocketSets := .empty

inductive Target
  | org (orgId : Text)
  | invocation (invocationId : Text)
deriving DecidableEq

/-- A `broadcast_to_org` or `send_to_invocation_waiters` that is under way. -/
structure Sending where
  target : Target
  /-- The sockets of the copied set that the loop has not come to. -/
  waiting : List Socket
  dead : List Socket := []

namespace StreamManager

variable (manager : StreamManager)

def connect (socket : Socket) (orgId : Text) : StreamManager :=
  { manager with connections := manager.connections.add orgId socket }

def disconnect (socket : Socket) (orgId : Text) : StreamManager :=
  let connections := manager.connections.discard orgId socket
  { connections :=
      if connections.socketsAt orgId = ∅ then connections.pop orgId else connections
    invocationWaiters := manager.invocationWaiters.discardEverywhere socket }

def subscribeInvocation (socket : Socket) (invocationId : Text) : StreamManager :=
  { manager with invocationWaiters := manager.invocationWaiters.add invocationId socket }

def unsubscribeInvocation (socket : Socket) (invocationId : Text) : StreamManager :=
  { manager with invocationWaiters := manager.invocationWaiters.discard invocationId socket }

def socketsOf : Target → Finset Socket
  | .org orgId => manager.connections.socketsAt orgId
  | .invocation invocationId => manager.invocationWaiters.socketsAt invocationId

def discardDead (dead : List Socket) : Target → StreamManager
  | .org orgId => { manager with connections := manager.connections.discardAll orgId dead }
  | .invocation invocationId =>
      { manager with
        invocationWaiters := manager.invocationWaiters.discardAll invocationId dead }

def connectionCount : Nat := manager.connections.count

end StreamManager

/-! ### Interleavings -/

structure System where
  manager : StreamManager := {}
  sendings : List Sending := []
  /-- The sockets that were connected or subscribed. -/
  known : Finset Socket := ∅
  /-- The sockets that were disconnected and not connected again. -/
  gone : Finset Socket := ∅

inductive Action
  | connect (socket : Socket) (orgId : Text)
  | disconnect (socket : Socket) (orgId : Text)
  | subscribeInvocation (socket : Socket) (invocationId : Text)
  | unsubscribeInvocation (socket : Socket) (invocationId : Text)
  /-- A loop over the copied set, in this order. -/
  | beginSending (target : Target) (order : List Socket)
  /-- The loop's send to its next socket ends. -/
  | send (index : Nat) (failed : Bool)
  | finishSending (index : Nat)

/-- A loop after the send to its next socket. -/
def Sending.sent (sending : Sending) (failed : Bool) : Sending :=
  match sending.waiting with
  | [] => sending
  | socket :: waiting =>
      { sending with
        waiting := waiting
        dead := if failed then sending.dead ++ [socket] else sending.dead }

namespace System

variable (s : System)

def finish (index : Nat) (sending : Sending) : System :=
  { s with
    manager := if sending.dead = [] then s.manager
      else s.manager.discardDead sending.dead sending.target
    sendings := s.sendings.eraseIdx index }

def step : Action → System
  | .connect socket orgId =>
      { s with
        manager := s.manager.connect socket orgId
        known := insert socket s.known
        gone := s.gone.erase socket }
  | .disconnect socket orgId =>
      { s with
        manager := s.manager.disconnect socket orgId
        gone := insert socket s.gone }
  | .subscribeInvocation socket invocationId =>
      { s with
        manager := s.manager.subscribeInvocation socket invocationId
        known := insert socket s.known }
  | .unsubscribeInvocation socket invocationId =>
      { s with manager := s.manager.unsubscribeInvocation socket invocationId }
  | .beginSending target order =>
      if order.Nodup ∧ order.toFinset = s.manager.socketsOf target then
        { s with sendings := s.sendings ++ [⟨target, order, []⟩] }
      else s
  | .send index failed =>
      { s with sendings := s.sendings.modify index fun sending => sending.sent failed }
  | .finishSending index =>
      match s.sendings[index]? with
      | some sending => if sending.waiting = [] then s.finish index sending else s
      | none => s

/-! ### The property -/

def NoEmptySet (sets : SocketSets) : Prop := ∀ item ∈ sets.items, item.2 ≠ ∅

def Holds (socket : Socket) : Prop :=
  (∃ item ∈ s.manager.connections.items, socket ∈ item.2) ∨
    ∃ item ∈ s.manager.invocationWaiters.items, socket ∈ item.2

structure LeavesNoResidue : Prop where
  noEmptySet : s.sendings = [] →
    NoEmptySet s.manager.connections ∧ NoEmptySet s.manager.invocationWaiters
  disconnected : ∀ socket ∈ s.gone, ¬ s.Holds socket
  ended : s.known ⊆ s.gone →
    s.manager.connections.items = [] ∧ s.manager.invocationWaiters.items = [] ∧
      s.manager.connectionCount = 0

/-! ### The condition -/

/-- A step that takes sockets out of a set leaves another one in it, unless it deletes the
set, and no socket is registered where its disconnect does not look. -/
def Spares : Action → Prop
  | .disconnect socket orgId =>
      (∀ item ∈ s.manager.connections.items, item.1 ≠ orgId → socket ∉ item.2) ∧
        ∀ item ∈ s.manager.invocationWaiters.items, item.2 ≠ {socket}
  | .subscribeInvocation socket _ => socket ∉ s.gone
  | .unsubscribeInvocation socket invocationId =>
      ∃ other ∈ s.manager.invocationWaiters.socketsAt invocationId, other ≠ socket
  | .finishSending index =>
      ∀ sending ∈ s.sendings[index]?, sending.waiting = [] → sending.dead ≠ [] →
        ∃ other ∈ s.manager.socketsOf sending.target, other ∉ sending.dead
  | _ => True

end System

/-! ### Populated sets -/

namespace SocketSets

/-- No set is empty, and the sockets in them are such. -/
def Populated (good : Socket → Prop) (sets : SocketSets) : Prop :=
  ∀ item ∈ sets.items, item.2 ≠ ∅ ∧ ∀ socket ∈ item.2, good socket

variable {sets : SocketSets} {key : Text} {socket : Socket} {good better : Socket → Prop}

theorem mem_socketsAt :
    socket ∈ sets.socketsAt key ↔ ∃ item ∈ sets.items, item.1 = key ∧ socket ∈ item.2 := by
  constructor
  · intro member
    cases found : OrderedDict.get sets key with
    | none => simp [socketsAt, found] at member
    | some value =>
        rw [socketsAt, found, Option.getD_some] at member
        exact ⟨(key, value), OrderedDict.mem_of_get found, rfl, member⟩
  · intro inside
    rcases inside with ⟨⟨key', value⟩, listed, rfl, member⟩
    rw [socketsAt, OrderedDict.get_of_mem listed]
    exact member

theorem socketsAt_set (value : Finset Socket) :
    SocketSets.socketsAt (OrderedDict.set sets key value) key = value := by
  rw [socketsAt, OrderedDict.get_set, if_pos rfl, Option.getD_some]

theorem socketsAt_discard :
    (sets.discard key socket).socketsAt key = (sets.socketsAt key).erase socket :=
  socketsAt_set _

theorem mem_set_cases {value : Finset Socket} {item : Text × Finset Socket}
    (member : item ∈ (OrderedDict.set sets key value).items) :
    item = (key, value) ∨ item ∈ sets.items ∧ item.1 ≠ key := by
  rcases item with ⟨key', value'⟩
  by_cases same : key' = key
  · subst same
    exact Or.inl (congrArg _ (OrderedDict.value_unique member OrderedDict.mem_set_self))
  · exact Or.inr ⟨(OrderedDict.mem_set_of_ne same).mp member, same⟩

theorem Populated.mono (populated : Populated good sets)
    (weaker : ∀ socket, good socket → better socket) : Populated better sets := by
  intro item member
  exact ⟨(populated item member).1,
    fun socket inside => weaker socket ((populated item member).2 socket inside)⟩

theorem Populated.at_good (populated : Populated good sets) (member : socket ∈ sets.socketsAt key) :
    good socket := by
  rcases mem_socketsAt.mp member with ⟨item, listed, -, inside⟩
  exact (populated item listed).2 socket inside

theorem Populated.set {value : Finset Socket} (populated : Populated good sets)
    (nonempty : value ≠ ∅) (members : ∀ socket ∈ value, good socket) :
    Populated good (OrderedDict.set sets key value) := by
  intro item member
  rcases mem_set_cases member with rfl | old
  · exact ⟨nonempty, members⟩
  · exact populated item old.1

theorem Populated.add (populated : Populated good sets) (accepted : good socket) :
    Populated good (sets.add key socket) := by
  apply populated.set
  · exact Finset.insert_ne_empty socket _
  · intro other member
    rcases Finset.mem_insert.mp member with rfl | inside
    · exact accepted
    · exact populated.at_good inside

theorem Populated.discard {other : Socket} (populated : Populated good sets)
    (stays : other ∈ sets.socketsAt key) (different : other ≠ socket) :
    Populated good (sets.discard key socket) := by
  apply populated.set
  · exact Finset.ne_empty_of_mem (Finset.mem_erase.mpr ⟨different, stays⟩)
  · intro member inside
    exact populated.at_good (Finset.mem_of_mem_erase inside)

theorem Populated.discardAll {sockets : List Socket} {other : Socket}
    (populated : Populated good sets) (stays : other ∈ sets.socketsAt key)
    (different : other ∉ sockets) : Populated good (sets.discardAll key sockets) := by
  induction sockets generalizing sets with
  | nil => exact populated
  | cons socket sockets induction =>
      have apart : other ≠ socket := fun same => different (same ▸ List.mem_cons_self)
      apply induction (populated.discard stays apart)
      · rw [socketsAt_discard]
        exact Finset.mem_erase.mpr ⟨apart, stays⟩
      · exact fun later => different (List.mem_cons_of_mem _ later)

theorem Populated.discardEverywhere (populated : Populated good sets)
    (shared : ∀ item ∈ sets.items, item.2 ≠ {socket}) :
    Populated (fun other => good other ∧ other ≠ socket) (sets.discardEverywhere socket) := by
  intro item member
  rcases List.mem_map.mp member with ⟨old, listed, rfl⟩
  constructor
  · intro empty
    rcases (Finset.erase_eq_empty_iff _ _).mp empty with vacant | single
    · exact (populated old listed).1 vacant
    · exact shared old listed single
  · intro other inside
    have parts := Finset.mem_erase.mp inside
    exact ⟨(populated old listed).2 other parts.2, parts.1⟩

/-- The disconnect of a socket that is in no other set. -/
theorem Populated.drop (populated : Populated good sets)
    (alone : ∀ item ∈ sets.items, item.1 ≠ key → socket ∉ item.2) :
    Populated (fun other => good other ∧ other ≠ socket)
      (if (sets.discard key socket).socketsAt key = ∅ then (sets.discard key socket).pop key
        else sets.discard key socket) := by
  have others : ∀ item ∈ sets.items, item.1 ≠ key →
      item.2 ≠ ∅ ∧ ∀ other ∈ item.2, good other ∧ other ≠ socket := by
    intro item listed different
    refine ⟨(populated item listed).1, ?_⟩
    intro other inside
    refine ⟨(populated item listed).2 other inside, ?_⟩
    intro same
    exact alone item listed different (same ▸ inside)
  split
  case isTrue empty =>
    intro item member
    have kept : item.1 ≠ key := by simpa using List.of_mem_filter member
    rcases mem_set_cases (OrderedDict.mem_of_mem_pop member) with rfl | old
    · exact absurd rfl kept
    · exact others item old.1 old.2
  case isFalse nonempty =>
    rw [socketsAt_discard] at nonempty
    intro item member
    rcases mem_set_cases member with rfl | old
    · refine ⟨nonempty, ?_⟩
      intro other inside
      have parts := Finset.mem_erase.mp inside
      exact ⟨populated.at_good parts.2, parts.1⟩
    · exact others item old.1 old.2

end SocketSets

/-! ### Every run -/

namespace System

variable {s : System}

/-- Connected or subscribed, and not disconnected since. -/
def IsPresent (s : System) (socket : Socket) : Prop := socket ∈ s.known ∧ socket ∉ s.gone

structure Clean (s : System) : Prop where
  connections : s.manager.connections.Populated s.IsPresent
  invocationWaiters : s.manager.invocationWaiters.Populated s.IsPresent

theorem Clean.leavesNoResidue (clean : s.Clean) : s.LeavesNoResidue := by
  have present : ∀ socket, s.Holds socket → s.IsPresent socket := by
    intro socket held
    rcases held with ⟨item, listed, inside⟩ | ⟨item, listed, inside⟩
    · exact (clean.connections item listed).2 socket inside
    · exact (clean.invocationWaiters item listed).2 socket inside
  have vanish : ∀ sets : SocketSets, sets.Populated s.IsPresent → s.known ⊆ s.gone →
      sets.items = [] := by
    intro sets populated ended
    apply List.eq_nil_iff_forall_not_mem.mpr
    intro item listed
    rcases Finset.nonempty_iff_ne_empty.mpr (populated item listed).1 with ⟨socket, inside⟩
    have here := (populated item listed).2 socket inside
    exact here.2 (ended here.1)
  constructor
  · intro _
    exact ⟨fun item listed => (clean.connections item listed).1,
      fun item listed => (clean.invocationWaiters item listed).1⟩
  · intro socket gone held
    exact (present socket held).2 gone
  · intro ended
    have none := vanish _ clean.connections ended
    refine ⟨none, vanish _ clean.invocationWaiters ended, ?_⟩
    rw [StreamManager.connectionCount, SocketSets.count, none]
    rfl

theorem Clean.finish {sending : Sending} (clean : s.Clean) (index : Nat)
    (spares : sending.dead ≠ [] →
      ∃ other ∈ s.manager.socketsOf sending.target, other ∉ sending.dead) :
    (s.finish index sending).Clean := by
  rw [System.finish]
  split
  case isTrue => exact ⟨clean.connections, clean.invocationWaiters⟩
  case isFalse failed =>
    rcases spares failed with ⟨other, stays, alive⟩
    cases target : sending.target with
    | org orgId =>
        rw [target] at stays
        exact ⟨clean.connections.discardAll stays alive, clean.invocationWaiters⟩
    | invocation invocationId =>
        rw [target] at stays
        exact ⟨clean.connections, clean.invocationWaiters.discardAll stays alive⟩

/-- A step that spares what is registered keeps the maps clean. -/
theorem Clean.step {action : Action} (clean : s.Clean) (spares : s.Spares action) :
    (s.step action).Clean := by
  cases action with
  | connect socket orgId =>
      have weaker : ∀ other, s.IsPresent other → (s.step (.connect socket orgId)).IsPresent other :=
        fun other here => ⟨Finset.mem_insert_of_mem here.1,
          fun gone => here.2 (Finset.mem_of_mem_erase gone)⟩
      have accepted : (s.step (.connect socket orgId)).IsPresent socket :=
        ⟨Finset.mem_insert_self _ _, Finset.notMem_erase _ _⟩
      exact ⟨(clean.connections.mono weaker).add accepted, clean.invocationWaiters.mono weaker⟩
  | disconnect socket orgId =>
      have weaker : ∀ other, s.IsPresent other ∧ other ≠ socket →
          (s.step (.disconnect socket orgId)).IsPresent other := by
        intro other here
        refine ⟨here.1.1, ?_⟩
        intro gone
        rcases Finset.mem_insert.mp gone with same | before
        · exact here.2 same
        · exact here.1.2 before
      exact ⟨(clean.connections.drop spares.1).mono weaker,
        (clean.invocationWaiters.discardEverywhere spares.2).mono weaker⟩
  | subscribeInvocation socket invocationId =>
      have weaker : ∀ other, s.IsPresent other →
          (s.step (.subscribeInvocation socket invocationId)).IsPresent other :=
        fun other here => ⟨Finset.mem_insert_of_mem here.1, here.2⟩
      have accepted : (s.step (.subscribeInvocation socket invocationId)).IsPresent socket :=
        ⟨Finset.mem_insert_self _ _, spares⟩
      exact ⟨clean.connections.mono weaker, (clean.invocationWaiters.mono weaker).add accepted⟩
  | unsubscribeInvocation socket invocationId =>
      rcases spares with ⟨other, stays, different⟩
      exact ⟨clean.connections, clean.invocationWaiters.discard stays different⟩
  | beginSending target order =>
      rw [System.step]
      split
      · exact ⟨clean.connections, clean.invocationWaiters⟩
      · exact clean
  | send index failed => exact ⟨clean.connections, clean.invocationWaiters⟩
  | finishSending index =>
      rw [System.step]
      split
      case h_1 sending found =>
        split
        case isTrue ended => exact clean.finish index (spares sending found ended)
        case isFalse => exact clean
      case h_2 => exact clean

theorem clean_initial : ({} : System).Clean := by
  constructor
  · intro item listed
    cases listed
  · intro item listed
    cases listed

/-- In a run whose steps spare what is registered, nothing is left behind. -/
theorem leaves_no_residue (actions : List Action)
    (spares : EachStep System.step System.Spares {} actions) :
    EachState System.step System.LeavesNoResidue {} actions :=
  (spares.invariant clean_initial fun _ _ clean spares => clean.step spares).mono
    fun _ clean => clean.leavesNoResidue

end System

instance (s : System) : (action : Action) → Decidable (s.Spares action)
  | .disconnect socket orgId => inferInstanceAs (Decidable
      ((∀ item ∈ s.manager.connections.items, item.1 ≠ orgId → socket ∉ item.2) ∧
        ∀ item ∈ s.manager.invocationWaiters.items, item.2 ≠ {socket}))
  | .subscribeInvocation socket _ => inferInstanceAs (Decidable (socket ∉ s.gone))
  | .unsubscribeInvocation socket invocationId => inferInstanceAs (Decidable
      (∃ other ∈ s.manager.invocationWaiters.socketsAt invocationId, other ≠ socket))
  | .finishSending index => inferInstanceAs (Decidable
      (∀ sending ∈ s.sendings[index]?, sending.waiting = [] → sending.dead ≠ [] →
        ∃ other ∈ s.manager.socketsOf sending.target, other ∉ sending.dead))
  | .connect _ _ | .beginSending _ _ | .send _ _ => .isTrue trivial

def exampleOrg : Text := "acme".toList

def exampleInvocation : Text := "42".toList

/-- Two sockets watch an invocation; one of them leaves. -/
def watchedByTwo : List Action :=
  [.connect 1 exampleOrg, .connect 2 exampleOrg, .subscribeInvocation 1 exampleInvocation,
    .subscribeInvocation 2 exampleInvocation, .unsubscribeInvocation 1 exampleInvocation,
    .disconnect 1 exampleOrg]

theorem leaves_no_residue_watched :
    EachState System.step System.LeavesNoResidue {} watchedByTwo :=
  System.leaves_no_residue watchedByTwo (by decide)

/-- A socket watches an invocation to its end and is disconnected. -/
def watchedByOne : List Action :=
  [.connect 1 exampleOrg, .subscribeInvocation 1 exampleInvocation,
    .unsubscribeInvocation 1 exampleInvocation, .disconnect 1 exampleOrg]

theorem empty_set_left : ¬ ∀ actions, EachState System.step System.LeavesNoResidue {} actions := by
  intro claimed
  have last := claimed watchedByOne watchedByOne [] (by simp)
  have left : (exampleInvocation, ∅) ∈
      (watchedByOne.foldl System.step {}).manager.invocationWaiters.items := by decide
  exact (last.noEmptySet rfl).2 _ left rfl

end GrafuxMcp.Sockets
