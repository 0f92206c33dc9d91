import GrafuxMcp.Pool.ConnectionPool
import GrafuxMcp.Foundation.Trace

/-! # No session is closed under a caller

A task holds at most one lock. The lock of an entry keeps the callers and the
tasks that close the entry as broken apart; an eviction closes an entry without
its lock, so it is safe only when no caller is on its way to the entry. -/

namespace GrafuxMcp.Pool

/-! ### Control points -/

/-- The lock under which an entry is closed. -/
def AfterClose.lock (e : EntryId) : AfterClose → LockId
  | .rebound _ | .broken _ => .entry e
  | .evictedToCapacity _ _ | .evictedIdle _ _ => .registry

namespace Pc

def heldLock : Pc → Option LockId
  | .inRegistry _ | .create _ | .evictStale _ => some .registry
  | .inEntry e _ | .connect e _ | .connecting e _ | .yielding e _ | .calling e _
  | .leaving e _ _ => some (.entry e)
  | .hardClose e after | .disconnecting e after | .closed e after => some (after.lock e)
  | _ => none

def awaitedLock : Pc → Option LockId
  | .waitingRegistry _ => some .registry
  | .waitingEntry e _ => some (.entry e)
  | _ => none

/-- The entry that the task is using, or about to use, in `acquire`. -/
def acquired : Pc → Option EntryId
  | .lockEntry e (.acquire _) | .waitingEntry e (.acquire _) | .inEntry e (.acquire _)
  | .hardClose e (.rebound _) | .disconnecting e (.rebound _) | .closed e (.rebound _)
  | .connect e _ | .connecting e _ | .yielding e _ | .calling e _ => some e
  | _ => none

/-- The entries that the task is going to evict. -/
def targets : Pc → List EntryId
  | .evictStale stale => stale.map Prod.snd
  | .hardClose e (.evictedToCapacity _ _) | .disconnecting e (.evictedToCapacity _ _)
  | .closed e (.evictedToCapacity _ _) => [e]
  | .hardClose e (.evictedIdle _ stale) | .disconnecting e (.evictedIdle _ stale)
  | .closed e (.evictedIdle _ stale) => e :: stale.map Prod.snd
  | _ => []

/-- The entry of the control point itself. -/
def atEntry : Pc → Option EntryId
  | .lockEntry e _ | .waitingEntry e _ | .inEntry e _ | .connect e _ | .connecting e _
  | .yielding e _ | .calling e _ | .leaving e _ _ | .hardClose e _ | .disconnecting e _
  | .closed e _ => some e
  | _ => none

/-- The task is queued for the lock of an entry on its way to a session. -/
def queuesInAcquire : Pc → Bool
  | .waitingEntry _ (.acquire _) => true
  | _ => false

/-- The task is inside `wrapper.connect`, `wrapper.call_tool` or
`wrapper.list_tools`. -/
def inWrapper : Pc → Option EntryId
  | .connecting e _ | .calling e _ => some e
  | _ => none

def yields : Pc → Option EntryId
  | .yielding e _ => some e
  | _ => none

/-- The task is inside `wrapper.disconnect`. -/
def inDisconnect : Pc → Option EntryId
  | .disconnecting e _ => some e
  | _ => none

variable {point : Pc} {e : EntryId}

theorem atEntry_of_heldLock (holds : point.heldLock = some (.entry e)) :
    point.atEntry = some e := by
  cases point with
  | hardClose _ after | disconnecting _ after | closed _ after =>
      cases after <;> simp_all [heldLock, atEntry, AfterClose.lock]
  | _ => simp_all [heldLock, atEntry]

theorem atEntry_of_awaitedLock (waits : point.awaitedLock = some (.entry e)) :
    point.atEntry = some e := by
  cases point <;> simp_all [awaitedLock, atEntry]

/-- A task on its way to a session has not asked for the lock yet, waits for it,
or has it. -/
theorem of_acquired (uses : point.acquired = some e) :
    point.isSuspended = false ∧ point.heldLock = none ∨
      (point.queuesInAcquire = true ∧ point.awaitedLock = some (.entry e)) ∨
      point.heldLock = some (.entry e) := by
  cases point with
  | lockEntry _ use | waitingEntry _ use | inEntry _ use =>
      cases use <;> simp_all [acquired, isSuspended, queuesInAcquire, awaitedLock, heldLock]
  | hardClose _ after | disconnecting _ after | closed _ after =>
      cases after <;> simp_all [acquired, heldLock, AfterClose.lock]
  | _ => simp_all [acquired, heldLock]

/-- Entries are evicted under the registry lock. -/
theorem heldLock_of_targets (evicts : e ∈ point.targets) :
    point.heldLock = some .registry := by
  cases point with
  | hardClose _ after | disconnecting _ after | closed _ after =>
      cases after <;> simp_all [targets, heldLock, AfterClose.lock]
  | _ => simp_all [targets, heldLock]

theorem acquired_of_inWrapper (inside : point.inWrapper = some e) :
    point.acquired = some e ∧ point.heldLock = some (.entry e) := by
  cases point <;> simp_all [inWrapper, acquired, heldLock]

theorem acquired_of_yields (yielded : point.yields = some e) :
    point.acquired = some e ∧ point.heldLock = some (.entry e) := by
  cases point <;> simp_all [yields, acquired, heldLock]

/-- A session is disconnected by an eviction or under the lock of the entry. -/
theorem of_inDisconnect (closes : point.inDisconnect = some e) :
    e ∈ point.targets ∨ point.heldLock = some (.entry e) := by
  cases point with
  | disconnecting _ after =>
      cases after <;> simp_all [inDisconnect, targets, heldLock, AfterClose.lock]
  | _ => simp [inDisconnect] at closes

end Pc

/-! ### Moves of a task -/

namespace State

variable {s : State} {task : TaskId} {point : Pc} {l : LockId}
  {value : AsyncLock TaskId} {e : EntryId} {change : Entry → Entry}

@[simp] theorem lock_goto : (s.goto task point).lock = s.lock := by
  funext l
  cases l <;> rfl

@[simp] theorem tasks_goto :
    (s.goto task point).tasks = Function.update s.tasks task point := rfl

@[simp] theorem current_goto :
    (s.goto task point).current = if point.isSuspended then none else some task := rfl

@[simp] theorem entries_goto : (s.goto task point).entries = s.entries := rfl

@[simp] theorem nextEntry_goto : (s.goto task point).nextEntry = s.nextEntry := rfl

@[simp] theorem lock_setLock : (s.setLock l value).lock = Function.update s.lock l value := by
  funext other
  cases l with
  | registry => cases other <;> rfl
  | entry e =>
      cases other with
      | registry => rfl
      | entry e' =>
          rcases eq_or_ne e' e with rfl | different
          · simp [lock, setLock, updateEntry]
          · have other : LockId.entry e' ≠ .entry e := by simpa using different
            simp [lock, setLock, updateEntry, different, other]

@[simp] theorem tasks_setLock : (s.setLock l value).tasks = s.tasks := by cases l <;> rfl

@[simp] theorem current_setLock : (s.setLock l value).current = s.current := by cases l <;> rfl

@[simp] theorem entries_setLock : (s.setLock l value).entries = s.entries := by cases l <;> rfl

@[simp] theorem nextEntry_setLock : (s.setLock l value).nextEntry = s.nextEntry := by
  cases l <;> rfl

theorem lock_updateEntry (keeps : (change (s.entry e)).lock = (s.entry e).lock) :
    (s.updateEntry e change).lock = s.lock := by
  funext l
  cases l with
  | registry => rfl
  | entry e' =>
      rcases eq_or_ne e' e with rfl | different
      · simp [lock, updateEntry, keeps]
      · simp [lock, updateEntry, different]

end State

/-! ### The invariant -/

/-- An entry that is going to be evicted is not on any task's way through
`acquire`, and every entry that a task or the pool refers to has been created. -/
structure Placed (s : State) : Prop where
  running : ∀ t, (s.tasks t).isSuspended = false → s.current = some t
  apart : ∀ t u e, e ∈ (s.tasks t).targets → (s.tasks u).acquired ≠ some e
  created : ∀ t e, (s.tasks t).atEntry = some e ∨ e ∈ (s.tasks t).targets → e < s.nextEntry
  registered : ∀ item ∈ s.entries.items, item.2 < s.nextEntry

structure Safe (s : State) : Prop where
  locks : LockDiscipline (fun point l => Pc.heldLock point = some l)
    (fun point l => Pc.awaitedLock point = some l) s.lock s.tasks
  placed : Placed s

section Rules

variable {s : State} {task : TaskId} {point inside waiting : Pc} {l : LockId}

theorem Placed.frame {s' : State} (placed : Placed s) (tasks : s'.tasks = s.tasks)
    (current : s'.current = s.current) (nextEntry : s'.nextEntry = s.nextEntry)
    (entries : ∀ item ∈ s'.entries.items, item ∈ s.entries.items) : Placed s' := by
  constructor
  · rw [tasks, current]
    exact placed.running
  · rw [tasks]
    exact placed.apart
  · rw [tasks, nextEntry]
    exact placed.created
  · intro item member
    rw [nextEntry]
    exact placed.registered item (entries item member)

theorem Placed.goto (placed : Placed s) (turn : s.current = none ∨ s.current = some task)
    (targets : ∀ e ∈ point.targets, ∀ u, u ≠ task → (s.tasks u).acquired ≠ some e)
    (acquired : ∀ e, point.acquired = some e → ∀ u, u ≠ task → e ∉ (s.tasks u).targets)
    (alone : ∀ e ∈ point.targets, point.acquired ≠ some e)
    (created : ∀ e, point.atEntry = some e ∨ e ∈ point.targets → e < s.nextEntry) :
    Placed (s.goto task point) := by
  constructor
  · intro t running
    rcases eq_or_ne t task with rfl | different
    · rw [State.tasks_goto, Function.update_self] at running
      simp [running]
    · rw [State.tasks_goto, Function.update_of_ne different] at running
      -- the task that moves was alone in running
      have current := placed.running t running
      rcases turn with none | own
      · simp [none] at current
      · rw [own, Option.some.injEq] at current
        exact absurd current.symm different
  · intro t u e target
    rw [State.tasks_goto] at target ⊢
    rcases eq_or_ne t task with rfl | different
    · rw [Function.update_self] at target
      rcases eq_or_ne u t with rfl | other
      · rw [Function.update_self]
        exact alone e target
      · rw [Function.update_of_ne other]
        exact targets e target u other
    · rw [Function.update_of_ne different] at target
      rcases eq_or_ne u task with rfl | other
      · rw [Function.update_self]
        intro uses
        exact acquired e uses t different target
      · rw [Function.update_of_ne other]
        exact placed.apart t u e target
  · intro t e mentioned
    rcases eq_or_ne t task with rfl | different
    · rw [State.tasks_goto, Function.update_self] at mentioned
      exact created e mentioned
    · rw [State.tasks_goto, Function.update_of_ne different] at mentioned
      exact placed.created t e mentioned
  · exact placed.registered

/-- The new control point refers to nothing that the old one did not. -/
theorem Placed.goto_of_subset (placed : Placed s)
    (turn : s.current = none ∨ s.current = some task)
    (targets : ∀ e ∈ point.targets, e ∈ (s.tasks task).targets)
    (acquired : ∀ e, point.acquired = some e → (s.tasks task).acquired = some e)
    (mentioned : ∀ e, point.atEntry = some e →
      (s.tasks task).atEntry = some e ∨ e ∈ (s.tasks task).targets) :
    Placed (s.goto task point) := by
  apply placed.goto turn
  · intro e target u _
    exact placed.apart task u e (targets e target)
  · intro e uses u _ target
    exact placed.apart u task e target (acquired e uses)
  · intro e target uses
    exact placed.apart task task e (targets e target) (acquired e uses)
  · rintro e (entry | target)
    · exact placed.created task e (mentioned e entry)
    · exact placed.created task e (Or.inr (targets e target))

theorem Safe.frame {s' : State} (safe : Safe s) (lock : s'.lock = s.lock)
    (tasks : s'.tasks = s.tasks) (current : s'.current = s.current)
    (nextEntry : s'.nextEntry = s.nextEntry)
    (entries : ∀ item ∈ s'.entries.items, item ∈ s.entries.items) : Safe s' := by
  constructor
  · rw [lock, tasks]
    exact safe.locks
  · exact safe.placed.frame tasks current nextEntry entries

theorem Safe.updateEntry (safe : Safe s) {e : EntryId} {change : Entry → Entry}
    (keeps : (change (s.entry e)).lock = (s.entry e).lock) : Safe (s.updateEntry e change) :=
  safe.frame (State.lock_updateEntry keeps) rfl rfl rfl fun _ member => member

theorem Safe.pop (safe : Safe s) (key : Key) :
    Safe { s with entries := s.entries.pop key } :=
  safe.frame rfl rfl rfl rfl fun _ => OrderedDict.mem_of_mem_pop

theorem Safe.goto (safe : Safe s) (placed : Placed (s.goto task point))
    (held : ∀ l, point.heldLock = some l → (s.tasks task).heldLock = some l)
    (awaited : point.awaitedLock = none) : Safe (s.goto task point) := by
  refine ⟨?_, placed⟩
  rw [State.lock_goto, State.tasks_goto]
  apply safe.locks.goto held
  intro l waits
  simp [awaited] at waits

theorem Safe.acquireLock (safe : Safe s)
    (placedInside : Placed (s.goto task inside)) (placedWaiting : Placed (s.goto task waiting))
    (insideHolds : inside.heldLock = some l) (insideWaits : inside.awaitedLock = none)
    (waitingHolds : waiting.heldLock = none) (waitingWaits : waiting.awaitedLock = some l) :
    Safe (s.acquireLock task l inside waiting) := by
  unfold State.acquireLock
  split
  case isTrue free =>
    constructor
    · rw [State.lock_goto, State.tasks_goto, State.lock_setLock, State.tasks_setLock]
      apply safe.locks.take free
      · intro l' holds
        rw [insideHolds, Option.some.injEq] at holds
        exact Or.inl holds.symm
      · intro l' waits
        simp [insideWaits] at waits
    · exact placedInside.frame (by simp) (by simp) (by simp) (by simp)
  case isFalse taken =>
    constructor
    · rw [State.lock_goto, State.tasks_goto, State.lock_setLock, State.tasks_setLock]
      apply safe.locks.enqueue
      · intro l' holds
        simp [waitingHolds] at holds
      · intro l' waits
        rw [waitingWaits, Option.some.injEq] at waits
        exact Or.inl waits.symm
    · exact placedWaiting.frame (by simp) (by simp) (by simp) (by simp)

theorem Safe.resumeLock (safe : Safe s) (placed : Placed (s.goto task inside))
    (holds : inside.heldLock = some l) (waits : inside.awaitedLock = none) :
    Safe (s.resumeLock task l inside) := by
  unfold State.resumeLock
  split
  case isTrue woken =>
    constructor
    · rw [State.lock_goto, State.tasks_goto, State.lock_setLock, State.tasks_setLock]
      apply safe.locks.resume woken
      · intro l' holds'
        rw [holds, Option.some.injEq] at holds'
        exact Or.inl holds'.symm
      · intro l' waits'
        simp [waits] at waits'
    · exact placed.frame (by simp) (by simp) (by simp) (by simp)
  case isFalse => exact safe

theorem Safe.releaseLock (safe : Safe s) (placed : Placed (s.goto task point))
    (held : (s.tasks task).heldLock = some l)
    (holds : point.heldLock = none) (waits : point.awaitedLock = none) :
    Safe (s.releaseLock task l point) := by
  unfold State.releaseLock
  constructor
  · rw [State.lock_goto, State.tasks_goto, State.lock_setLock, State.tasks_setLock]
    apply safe.locks.release held
    · intro l' holds'
      simp [holds] at holds'
    · intro l' waits'
      simp [waits] at waits'
  · exact placed.frame (by simp) (by simp) (by simp) (by simp)

/-- The task moves on without a lock. -/
theorem Safe.move (safe : Safe s) (turn : s.current = none ∨ s.current = some task)
    (held : ∀ l, point.heldLock = some l → (s.tasks task).heldLock = some l)
    (awaited : point.awaitedLock = none)
    (targets : ∀ e ∈ point.targets, e ∈ (s.tasks task).targets)
    (acquired : ∀ e, point.acquired = some e → (s.tasks task).acquired = some e)
    (mentioned : ∀ e, point.atEntry = some e →
      (s.tasks task).atEntry = some e ∨ e ∈ (s.tasks task).targets) :
    Safe (s.goto task point) :=
  safe.goto (safe.placed.goto_of_subset turn targets acquired mentioned) held awaited

end Rules

/-! ### Evictions -/

/-- The entries that a task selects for eviction under the registry lock. -/
def State.selected (runtime : Runtime) (s : State) : RegistryUse → List EntryId
  | .getEntry call =>
      let s := s.pruneClosedLoops runtime
      match s.entries.get call.key with
      | some _ => []
      | none => ((s.evictToCapacity runtime).map Prod.snd).toList
  | .evictIdle now maxIdleSeconds => (s.stale now maxIdleSeconds).map Prod.snd

/-- The entries that a move selects for eviction. -/
def evicting (runtime : Runtime) (s : State) : Move → List EntryId
  | .run task =>
      if s.current = some task then
        match s.tasks task with
        | .inRegistry use => s.selected runtime use
        | _ => []
      else []
  | _ => []

/-- No task is queued for an entry that is selected for eviction, to use its
session. -/
def EvictsUnawaited (runtime : Runtime) (s : State) (move : Move) : Prop :=
  ∀ e ∈ evicting runtime s move, ∀ t ∈ (s.entry e).lock.waiters,
    (s.tasks t).queuesInAcquire = false

section Steps

variable {runtime : Runtime} {s : State} {task : TaskId} {call : Call} {e : EntryId}

theorem State.mem_of_evictToCapacity {item : Key × EntryId}
    (evicts : s.evictToCapacity runtime = some item) :
    item ∈ s.entries.items ∧ (s.entry item.2).lock.locked = false := by
  unfold State.evictToCapacity at evicts
  split at evicts
  · simp at evicts
  · have member := List.minOn?_mem evicts
    simpa using member

theorem State.mem_of_stale {now maxIdleSeconds : Int} {item : Key × EntryId}
    (selected : item ∈ s.stale now maxIdleSeconds) :
    item ∈ s.entries.items ∧ (s.entry item.2).lock.locked = false := by
  have member := List.mem_filter.mp selected
  simp only [Bool.and_eq_true, Bool.not_eq_true'] at member
  exact ⟨member.1, member.2.2⟩

theorem State.mem_of_pruneClosedLoops {item : Key × EntryId}
    (member : item ∈ (s.pruneClosedLoops runtime).entries.items) :
    item ∈ s.entries.items :=
  OrderedDict.mem_of_mem_filter member

/-- While a task has the event loop, an unlocked entry that nobody awaits to use
it is on no task's way through `acquire`. -/
theorem Safe.unacquired (safe : Safe s) (current : s.current = some task)
    (own : (s.tasks task).acquired ≠ some e) (unlocked : (s.entry e).lock.locked = false)
    (unawaited : ∀ t ∈ (s.entry e).lock.waiters, (s.tasks t).queuesInAcquire = false)
    (u : TaskId) : (s.tasks u).acquired ≠ some e := by
  intro uses
  rcases Pc.of_acquired uses with ⟨running, -⟩ | ⟨queues, waits⟩ | holds
  · have same := safe.placed.running u running
    rw [current, Option.some.injEq] at same
    rw [same] at own
    exact own uses
  · have queued := safe.locks.queued u (.entry e) waits
    rw [unawaited u queued] at queues
    exact absurd queues (by decide)
  · have locked : (s.entry e).lock.locked = true := safe.locks.held u (.entry e) holds
    rw [unlocked] at locked
    exact absurd locked (by decide)

/-- Only the holder of the registry lock is going to evict entries. -/
theorem Safe.not_target (safe : Safe s) (holder : (s.tasks task).heldLock = some .registry)
    {u : TaskId} (different : u ≠ task) (e : EntryId) : e ∉ (s.tasks u).targets := by
  intro target
  have holds := Pc.heldLock_of_targets target
  exact different (safe.locks.exclusive u task .registry holds holder)

/-- The holder of the registry lock takes a known entry to `acquire`. -/
theorem Safe.leaveRegistry (safe : Safe s) (current : s.current = some task)
    (holder : (s.tasks task).heldLock = some .registry) (known : e < s.nextEntry) :
    Safe (s.releaseLock task .registry (.lockEntry e (.acquire call))) := by
  apply safe.releaseLock _ holder rfl rfl
  apply safe.placed.goto (Or.inr current)
  · simp [Pc.targets]
  · intro e' _ u different
    exact safe.not_target holder different e'
  · simp [Pc.targets]
  · rintro e' (entry | target)
    · have same : e = e' := by simpa [Pc.atEntry] using entry
      rw [← same]
      exact known
    · simp [Pc.targets] at target

theorem Safe.getEntry (safe : Safe s) (current : s.current = some task)
    (here : s.tasks task = .inRegistry (.getEntry call))
    (unawaited : ∀ e ∈ s.selected runtime (.getEntry call),
      ∀ t ∈ (s.entry e).lock.waiters, (s.tasks t).queuesInAcquire = false) :
    Safe (s.getEntry runtime task call) := by
  have pruned : Safe (s.pruneClosedLoops runtime) :=
    safe.frame rfl rfl rfl rfl fun _ => State.mem_of_pruneClosedLoops
  have holder : (s.tasks task).heldLock = some .registry := by
    rw [here]
    rfl
  unfold State.getEntry
  simp only [State.selected] at unawaited
  cases found : (s.pruneClosedLoops runtime).entries.get call.key with
  | some e =>
      simp only [found]
      exact pruned.leaveRegistry current holder
        (pruned.placed.registered _ (OrderedDict.mem_of_get found))
  | none =>
      simp only [found] at unawaited ⊢
      cases evicts : (s.pruneClosedLoops runtime).evictToCapacity runtime with
      | none =>
          simp only []
          apply pruned.move (Or.inr current) <;>
            simp [Pc.heldLock, Pc.awaitedLock, Pc.targets, Pc.acquired, Pc.atEntry]
          exact holder
      | some item =>
          simp only []
          have member := State.mem_of_evictToCapacity evicts
          have own : ((s.pruneClosedLoops runtime).tasks task).acquired ≠ some item.2 := by
            simp [State.pruneClosedLoops, here, Pc.acquired]
          have unacquired := pruned.unacquired current own member.2
            (unawaited item.2 (by simp [evicts]))
          apply pruned.goto
          · apply pruned.placed.goto (Or.inr current)
            · intro e target u _
              have same : e = item.2 := by simpa [Pc.targets] using target
              rw [same]
              exact unacquired u
            · simp [Pc.acquired]
            · simp [Pc.acquired]
            · intro e mentioned
              have same : e = item.2 := by
                simpa [Pc.targets, Pc.atEntry, eq_comm] using mentioned
              rw [same]
              exact pruned.placed.registered item member.1
          · simp only [Pc.heldLock, AfterClose.lock]
            exact fun l equal => equal ▸ holder
          · rfl

theorem Safe.create (safe : Safe s) (current : s.current = some task)
    (here : s.tasks task = .create call) : Safe (s.create task call) := by
  have holder : (s.tasks task).heldLock = some .registry := by
    rw [here]
    rfl
  have unknown : ∀ t, (s.tasks t).atEntry ≠ some s.nextEntry := by
    intro t mentioned
    have known := safe.placed.created t s.nextEntry (Or.inl mentioned)
    exact absurd known (Nat.lt_irrefl _)
  let entry : Entry :=
    { wrapper := ⟨call.endpointUrl, call.transport⟩, lastUsed := s.clock }
  let created : State := { s.updateEntry s.nextEntry (fun _ => entry) with
    nextEntry := s.nextEntry + 1
    entries := s.entries.set call.key s.nextEntry }
  have locks : created.lock = Function.update s.lock (.entry s.nextEntry) {} := by
    funext l
    cases l with
    | registry => rfl
    | entry e =>
        rcases eq_or_ne e s.nextEntry with rfl | different
        · simp [State.lock, created, State.updateEntry, entry]
        · have other : LockId.entry e ≠ .entry s.nextEntry := by simpa using different
          simp [State.lock, created, State.updateEntry, different, other]
  have safe' : Safe created := by
    constructor
    · rw [locks]
      apply safe.locks.renew
      intro t
      constructor
      · exact fun holds => unknown t (Pc.atEntry_of_heldLock holds)
      · exact fun waits => unknown t (Pc.atEntry_of_awaitedLock waits)
    · constructor
      · exact safe.placed.running
      · exact safe.placed.apart
      · intro t e mentioned
        exact Nat.lt_succ_of_lt (safe.placed.created t e mentioned)
      · intro item member
        rcases OrderedDict.mem_of_mem_set member with new | old
        · rw [new]
          exact Nat.lt_succ_self _
        · exact Nat.lt_succ_of_lt (safe.placed.registered item old)
  exact safe'.leaveRegistry current holder (Nat.lt_succ_self _)

theorem Safe.evictIdle (safe : Safe s) (current : s.current = some task)
    {now maxIdleSeconds : Int} (here : s.tasks task = .inRegistry (.evictIdle now maxIdleSeconds))
    (unawaited : ∀ e ∈ s.selected runtime (.evictIdle now maxIdleSeconds),
      ∀ t ∈ (s.entry e).lock.waiters, (s.tasks t).queuesInAcquire = false) :
    Safe (s.goto task (.evictStale (s.stale now maxIdleSeconds))) := by
  apply safe.goto
  · apply safe.placed.goto (Or.inr current)
    · intro e target u _
      obtain ⟨item, selected, rfl⟩ := List.mem_map.mp target
      have own : (s.tasks task).acquired ≠ some item.2 := by simp [here, Pc.acquired]
      exact safe.unacquired current own (State.mem_of_stale selected).2
        (unawaited item.2 target) u
    · simp [Pc.acquired]
    · simp [Pc.acquired]
    · rintro e (entry | target)
      · simp [Pc.atEntry] at entry
      · obtain ⟨item, selected, rfl⟩ := List.mem_map.mp target
        exact safe.placed.registered item (State.mem_of_stale selected).1
  · simp [here, Pc.heldLock]
  · rfl

theorem Safe.evictStale (safe : Safe s) (current : s.current = some task)
    {stale : List (Key × EntryId)} (here : s.tasks task = .evictStale stale) :
    Safe (s.evictStale task stale) := by
  have holder : (s.tasks task).heldLock = some .registry := by
    rw [here]
    rfl
  cases stale with
  | nil =>
      apply safe.releaseLock _ holder rfl rfl
      apply safe.placed.goto_of_subset (Or.inr current) <;>
        simp [Pc.targets, Pc.acquired, Pc.atEntry]
  | cons item stale =>
      apply safe.move (Or.inr current) <;>
        simp [here, Pc.heldLock, Pc.awaitedLock, Pc.targets, Pc.acquired, Pc.atEntry,
          AfterClose.lock]

theorem Safe.hardClose (safe : Safe s) (current : s.current = some task)
    {after : AfterClose} (here : s.tasks task = .hardClose e after) :
    Safe (s.hardClose task e after) := by
  unfold State.hardClose
  split <;> apply safe.move (Or.inr current) <;> cases after <;>
    simp [here, Pc.heldLock, Pc.awaitedLock, Pc.targets, Pc.acquired, Pc.atEntry]

theorem Safe.closed (safe : Safe s) (current : s.current = some task)
    {after : AfterClose} (here : s.tasks task = .closed e after) :
    Safe (s.closed task e after) := by
  have marked : Safe (s.updateEntry e fun entry => { entry with connected := false }) :=
    safe.updateEntry rfl
  unfold State.closed
  cases after with
  | rebound call =>
      apply marked.move (Or.inr current) <;>
        simp [State.updateEntry, here, Pc.heldLock, Pc.awaitedLock, Pc.targets, Pc.acquired,
          Pc.atEntry, AfterClose.lock]
  | broken call =>
      apply marked.releaseLock _ _ rfl rfl
      · apply marked.placed.goto_of_subset (Or.inr current) <;>
          simp [State.retry, Pc.targets, Pc.acquired, Pc.atEntry]
      · simp [State.updateEntry, here, Pc.heldLock, AfterClose.lock]
  | evictedToCapacity key call =>
      apply (marked.pop key).move (Or.inr current) <;>
        simp [State.updateEntry, here, Pc.heldLock, Pc.awaitedLock, Pc.targets, Pc.acquired,
          Pc.atEntry, AfterClose.lock]
  | evictedIdle key stale =>
      apply (marked.pop key).move (Or.inr current)
      · simp [State.updateEntry, here, Pc.heldLock, AfterClose.lock]
      · rfl
      · intro e' target
        simp only [State.updateEntry, here, Pc.targets]
        exact List.mem_cons_of_mem _ target
      · simp [Pc.acquired]
      · simp [Pc.atEntry]

/-- The running task makes its move. -/
theorem Safe.run (safe : Safe s) (current : s.current = some task)
    (unawaited : ∀ use, s.tasks task = .inRegistry use → ∀ e ∈ s.selected runtime use,
      ∀ t ∈ (s.entry e).lock.waiters, (s.tasks t).queuesInAcquire = false) :
    Safe (s.run runtime task) := by
  unfold State.run
  cases here : s.tasks task with
  | lockRegistry use =>
      apply safe.acquireLock _ _ rfl rfl rfl rfl <;>
        apply safe.placed.goto_of_subset (Or.inr current) <;>
          simp [Pc.targets, Pc.acquired, Pc.atEntry]
  | inRegistry use =>
      cases use with
      | getEntry call => exact safe.getEntry current here (unawaited _ here)
      | evictIdle now maxIdleSeconds => exact safe.evictIdle current here (unawaited _ here)
  | create call => exact safe.create current here
  | evictStale stale => exact safe.evictStale current here
  | lockEntry e use =>
      apply safe.acquireLock _ _ rfl rfl rfl rfl <;>
        apply safe.placed.goto_of_subset (Or.inr current) <;> cases use <;>
          simp [here, Pc.targets, Pc.acquired, Pc.atEntry]
  | inEntry e use =>
      cases use with
      | acquire call =>
          simp only [State.acquire]
          split <;> apply safe.move (Or.inr current) <;>
            simp [here, Pc.heldLock, Pc.awaitedLock, Pc.targets, Pc.acquired, Pc.atEntry,
              AfterClose.lock]
      | markBroken call =>
          apply safe.move (Or.inr current) <;>
            simp [here, Pc.heldLock, Pc.awaitedLock, Pc.targets, Pc.acquired, Pc.atEntry,
              AfterClose.lock]
  | connect e call =>
      simp only [State.connect]
      split <;> apply safe.move (Or.inr current) <;>
        simp [here, Pc.heldLock, Pc.awaitedLock, Pc.targets, Pc.acquired, Pc.atEntry]
  | yielding e call =>
      have used : Safe (s.updateEntry e fun entry => { entry with lastUsed := s.clock }) :=
        safe.updateEntry rfl
      apply used.move (Or.inr current) <;>
        simp [State.updateEntry, here, Pc.heldLock, Pc.awaitedLock, Pc.targets, Pc.acquired,
          Pc.atEntry]
  | leaving e call outcome =>
      simp only [State.leaving]
      split <;> apply safe.releaseLock _ (by rw [here]; rfl) rfl rfl <;>
        apply safe.placed.goto_of_subset (Or.inr current) <;>
          simp [Pc.targets, Pc.acquired, Pc.atEntry]
  | markBroken call =>
      simp only [State.markBroken]
      split
      case h_1 e found =>
        apply safe.goto
        · apply safe.placed.goto (Or.inr current)
          · simp [Pc.targets]
          · simp [Pc.acquired]
          · simp [Pc.targets]
          · intro e' mentioned
            have same : e = e' := by simpa [Pc.atEntry, Pc.targets] using mentioned
            rw [← same]
            exact safe.placed.registered _ (OrderedDict.mem_of_get found)
        · simp [Pc.heldLock]
        · rfl
      case h_2 =>
        apply safe.move (Or.inr current) <;>
          simp [State.retry, Pc.heldLock, Pc.awaitedLock, Pc.targets, Pc.acquired, Pc.atEntry]
  | hardClose e after => exact safe.hardClose current here
  | closed e after => exact safe.closed current here
  | idle | waitingRegistry _ | waitingEntry _ _ | connecting _ _ | calling _ _
  | disconnecting _ _ => exact safe

/-- A suspended task is resumed. -/
theorem Safe.resume (safe : Safe s) (current : s.current = none) (outcome : Outcome) :
    Safe (s.resume runtime task outcome) := by
  unfold State.resume
  cases here : s.tasks task with
  | waitingRegistry use =>
      apply safe.resumeLock _ rfl rfl
      apply safe.placed.goto_of_subset (Or.inl current) <;>
        simp [Pc.targets, Pc.acquired, Pc.atEntry]
  | waitingEntry e use =>
      apply safe.resumeLock _ rfl rfl
      apply safe.placed.goto_of_subset (Or.inl current) <;> cases use <;>
        simp [here, Pc.targets, Pc.acquired, Pc.atEntry]
  | connecting e call =>
      cases outcome with
      | returned =>
          have opened : Safe (s.updateEntry e fun entry =>
              { entry with connected := true, loop := some runtime.running }) :=
            safe.updateEntry rfl
          apply opened.move (Or.inl current) <;>
            simp [State.updateEntry, here, Pc.heldLock, Pc.awaitedLock, Pc.targets, Pc.acquired,
              Pc.atEntry]
      | reconnectable | otherError =>
          apply safe.move (Or.inl current) <;>
            simp [here, Pc.heldLock, Pc.awaitedLock, Pc.targets, Pc.acquired, Pc.atEntry]
  | calling e call =>
      apply safe.move (Or.inl current) <;>
        simp [here, Pc.heldLock, Pc.awaitedLock, Pc.targets, Pc.acquired, Pc.atEntry]
  | disconnecting e after =>
      apply safe.move (Or.inl current) <;> cases after <;>
        simp [here, Pc.heldLock, Pc.awaitedLock, Pc.targets, Pc.acquired, Pc.atEntry]
  | _ => exact safe

theorem Safe.start (safe : Safe s) (current : s.current = none) (operation : Operation) :
    Safe (s.start task operation) := by
  unfold State.start
  cases operation <;> apply safe.move (Or.inl current) <;>
    simp [Pc.heldLock, Pc.awaitedLock, Pc.targets, Pc.acquired, Pc.atEntry]

theorem safe_initial : Safe {} := by
  constructor
  · constructor <;> simp [Pc.heldLock, Pc.awaitedLock]
  · constructor <;> simp [Pc.isSuspended, Pc.targets, Pc.atEntry, OrderedDict.empty]

theorem Safe.step (move : Move) (safe : Safe s) (unawaited : EvictsUnawaited runtime s move) :
    Safe (step runtime s move) := by
  cases move with
  | tick seconds => exact safe.frame rfl rfl rfl rfl fun _ member => member
  | start task operation =>
      simp only [Pool.step]
      split
      case isTrue ready => exact safe.start ready.1 operation
      case isFalse => exact safe
  | run task =>
      simp only [Pool.step]
      split
      case isTrue current =>
        apply safe.run current
        intro use here
        simpa [EvictsUnawaited, evicting, current, here] using unawaited
      case isFalse => exact safe
  | resume task outcome =>
      simp only [Pool.step]
      split
      case isTrue current => exact safe.resume current outcome
      case isFalse => exact safe

end Steps

/-! ### Sessions in use -/

/-- No session is being closed while a task is inside its wrapper, and none that
is being closed is yielded by `acquire`. -/
structure SessionsKept (s : State) : Prop where
  notInUse : ∀ t u e, (s.tasks t).inDisconnect = some e → (s.tasks u).inWrapper ≠ some e
  notYielded : ∀ t u e, (s.tasks t).inDisconnect = some e → (s.tasks u).yields ≠ some e

theorem Safe.sessionsKept {s : State} (safe : Safe s) : SessionsKept s := by
  -- a task that uses an entry is no target's and holds its lock alone
  have apart : ∀ t u e, (s.tasks t).inDisconnect = some e → (s.tasks u).acquired = some e →
      (s.tasks u).heldLock = some (.entry e) → t = u := by
    intro t u e closes acquired holds
    rcases Pc.of_inDisconnect closes with target | closer
    · exact absurd acquired (safe.placed.apart t u e target)
    · exact safe.locks.exclusive t u (.entry e) closer holds
  constructor
  · intro t u e closes inside
    have uses := Pc.acquired_of_inWrapper inside
    have same := apart t u e closes uses.1 uses.2
    rw [same] at closes
    cases point : s.tasks u <;> simp_all [Pc.inDisconnect, Pc.inWrapper]
  · intro t u e closes yielded
    have uses := Pc.acquired_of_yields yielded
    have same := apart t u e closes uses.1 uses.2
    rw [same] at closes
    cases point : s.tasks u <;> simp_all [Pc.inDisconnect, Pc.yields]

/-- In every run whose evictions select no entry that a task awaits to use it, no
session is closed under a caller. -/
theorem sessions_kept (runtime : Runtime) (moves : List Move)
    (unawaited : EachStep (step runtime) (EvictsUnawaited runtime) {} moves) :
    EachState (step runtime) SessionsKept {} moves := by
  have safe : EachState (step runtime) Safe {} moves :=
    unawaited.invariant safe_initial fun _ move safe unawaited => safe.step move unawaited
  exact safe.mono fun _ safe => safe.sessionsKept

instance (runtime : Runtime) (s : State) (move : Move) :
    Decidable (EvictsUnawaited runtime s move) :=
  inferInstanceAs (Decidable (∀ e ∈ evicting runtime s move,
    ∀ t ∈ (s.entry e).lock.waiters, (s.tasks t).queuesInAcquire = false))

/-- Both calls end before the idle session is evicted. -/
def evictedAfterCalls : List Move :=
  exampleCalls ++ [.resume 0 .returned] ++ runs 0 1 ++ [.resume 1 .returned] ++ runs 1 3 ++
    [.resume 1 .returned] ++ runs 1 1 ++ [.tick 301, .start 2 (.evictIdle 300)] ++ runs 2 4

theorem sessions_kept_idle :
    ((evictedAfterCalls.foldl (step exampleRuntime) {}).tasks 2).inDisconnect = some 0 ∧
      EachState (step exampleRuntime) SessionsKept {} evictedAfterCalls :=
  ⟨by decide, sessions_kept exampleRuntime evictedAfterCalls (by decide)⟩

/-- The first call has kept the session for longer than the idle limit; when it
ends, the eviction runs before the queued task has taken the free lock. -/
def evictedUnderCaller : List Move :=
  exampleCalls ++ [.tick 301, .resume 0 .returned] ++ runs 0 1 ++ [.start 2 (.evictIdle 300)] ++
    runs 2 4 ++ [.resume 1 .returned] ++ runs 1 3

theorem session_closed_under_caller :
    ¬ ∀ runtime moves, EachState (step runtime) SessionsKept {} moves := by
  intro kept
  have last : SessionsKept (evictedUnderCaller.foldl (step exampleRuntime) {}) :=
    kept exampleRuntime evictedUnderCaller evictedUnderCaller [] (by simp)
  exact last.notInUse 2 1 0 (by decide) (by decide)

end GrafuxMcp.Pool
