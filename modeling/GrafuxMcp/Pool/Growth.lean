import GrafuxMcp.Pool.Cancellation

/-! # The growth of the pool

The dictionary of the pool changes under the registry lock only. An insertion into a full
pool first evicts an entry that nobody uses, so the pool only outgrows its capacity while
all of its entries are in use. -/

namespace GrafuxMcp.Pool

/-! ### The pool with its shutdown -/

/-- The control point of a task in `aclose_all`. -/
inductive ClosePc where
  | idle
  | lockRegistry
  | waitingRegistry
  | inRegistry
  | closeNext (left : List EntryId)
  | disconnecting (entry : EntryId) (left : List EntryId)
  deriving DecidableEq, Repr

namespace ClosePc

def isSuspended : ClosePc → Bool
  | .idle | .waitingRegistry | .disconnecting _ _ => true
  | _ => false

def holdsRegistry : ClosePc → Bool
  | .inRegistry | .closeNext _ | .disconnecting _ _ => true
  | _ => false

def awaitsRegistry : ClosePc → Bool
  | .waitingRegistry => true
  | _ => false

end ClosePc

structure ClosablePool where
  state : State := {}
  closers : TaskId → ClosePc := fun _ => .idle

inductive PoolTurn where
  | turn (turn : Turn)
  | acloseAll (task : TaskId)
  /-- The running task goes on in `aclose_all`. -/
  | close (task : TaskId)
  | resumeClose (task : TaskId)
  | cancelClose (task : TaskId)
  deriving DecidableEq, Repr

/-- The task that a turn is about. -/
def Turn.task? : Turn → Option TaskId
  | .move (.tick _) => none
  | .move (.start task _) | .move (.run task) | .move (.resume task _) | .cancel task => some task

namespace ClosablePool

variable (runtime : Runtime) (pool : ClosablePool) (task : TaskId)

/-- The task goes on in `aclose_all` from a state of the pool. -/
def goto (state : State) (point : ClosePc) : ClosablePool where
  state := { state with current := if point.isSuspended then none else some task }
  closers := Function.update pool.closers task point

def lockRegistry : ClosablePool :=
  let lock := pool.state.registryLock
  if lock.isFree then pool.goto task { pool.state with registryLock := lock.take } .inRegistry
  else pool.goto task { pool.state with registryLock := lock.enqueue task } .waitingRegistry

/-- The loop over the entries, and what follows it. -/
def closeNext : List EntryId → ClosablePool
  | [] =>
      pool.goto task
        { pool.state with
          entries := .empty
          registryLock := pool.state.registryLock.release } .idle
  | e :: left =>
      if (pool.state.entry e).connected then pool.goto task pool.state (.disconnecting e left)
      else pool.goto task pool.state (.closeNext left)

def close : ClosablePool :=
  match pool.closers task with
  | .lockRegistry => pool.lockRegistry task
  | .inRegistry =>
      pool.goto task pool.state (.closeNext (pool.state.entries.items.map Prod.snd))
  | .closeNext left => pool.closeNext task left
  | _ => pool

/-- An error of `disconnect` is swallowed. -/
def resumeClose : ClosablePool :=
  match pool.closers task with
  | .waitingRegistry =>
      let lock := pool.state.registryLock
      if lock.canResume task then
        pool.goto task { pool.state with registryLock := lock.resume } .inRegistry
      else pool
  | .disconnecting e left =>
      pool.goto task (pool.state.updateEntry e fun entry => { entry with connected := false })
        (.closeNext left)
  | _ => pool

def cancelClose : ClosablePool :=
  match pool.closers task with
  | .waitingRegistry =>
      pool.goto task
        { pool.state with registryLock := pool.state.registryLock.leave task } .idle
  | .disconnecting _ _ =>
      pool.goto task { pool.state with registryLock := pool.state.registryLock.release } .idle
  | _ => pool

def stateTurn : Turn → State
  | .move move => Pool.step runtime pool.state move
  | .cancel task => if pool.state.current = none then pool.state.cancel task else pool.state

/-- A turn that the scheduler cannot take changes nothing. -/
def step : PoolTurn → ClosablePool
  | .turn turn =>
      if ∀ task ∈ turn.task?, pool.closers task = .idle then
        { pool with state := pool.stateTurn runtime turn }
      else pool
  | .acloseAll task =>
      if pool.state.current = none ∧ pool.state.tasks task = .idle ∧ pool.closers task = .idle then
        pool.goto task pool.state .lockRegistry
      else pool
  | .close task => if pool.state.current = some task then pool.close task else pool
  | .resumeClose task => if pool.state.current = none then pool.resumeClose task else pool
  | .cancelClose task => if pool.state.current = none then pool.cancelClose task else pool

end ClosablePool

/-! ### The property -/

/-- The number of registered entries whose lock is held. -/
def State.inUse (s : State) : Nat :=
  (s.entries.items.filter fun item => (s.entry item.2).lock.locked).length

def State.size (s : State) : Nat := s.entries.items.length

/-- A pool with the largest number of entries that were in use at an earlier point. -/
structure Occupancy where
  pool : ClosablePool := {}
  peak : Nat := 0

def Occupancy.step (runtime : Runtime) (w : Occupancy) (turn : PoolTurn) : Occupancy where
  pool := w.pool.step runtime turn
  peak := max w.peak w.pool.state.inUse

structure GrowthBounded (runtime : Runtime) (w : Occupancy) : Prop where
  bounded : w.pool.state.size ≤ max runtime.remotePoolMaxSize (1 + w.peak)
  capped : w.peak < runtime.remotePoolMaxSize →
    w.pool.state.size ≤ runtime.remotePoolMaxSize

/-! ### What a turn does to the registry -/

/-- A task that is about to create an entry has room for it, or evicts one that is still
registered. -/
def Pc.Admits (s : State) (bound : Nat) : Pc → Prop
  | .create _ => s.size + 1 ≤ bound
  | .hardClose _ (.evictedToCapacity key _) | .disconnecting _ (.evictedToCapacity key _)
  | .closed _ (.evictedToCapacity key _) => (s.entries.get key).isSome = true
  | _ => True

/-- What the turn of a task that goes on to `point` does to the registry lock and to the
entries. -/
structure Effect (runtime : Runtime) (s : State) (task : TaskId) (point : Pc) (s' : State) :
    Prop where
  tasks : s'.tasks = Function.update s.tasks task point
  passage : s.registryLock.Passage task ((s.tasks task).heldLock = some .registry)
    ((s.tasks task).awaitedLock = some .registry) (point.heldLock = some .registry)
    (point.awaitedLock = some .registry) s'.registryLock
  outside : (s.tasks task).heldLock ≠ some .registry → s'.entries = s.entries
  bounded : ∀ bound, runtime.remotePoolMaxSize ≤ bound → 1 + s.inUse ≤ bound → s.size ≤ bound →
    (s.tasks task).Admits s bound → s'.size ≤ bound ∧ point.Admits s' bound

section Effects

variable {runtime : Runtime} {s s' : State} {task : TaskId} {point inside waiting : Pc}
  {bound : Nat}

theorem Pc.admits_of_entries (same : s'.entries = s.entries) (admits : point.Admits s bound) :
    point.Admits s' bound := by
  cases point with
  | create call => simpa only [Admits, State.size, same] using admits
  | hardClose _ after | disconnecting _ after | closed _ after =>
      cases after with
      | evictedToCapacity key call => simpa only [Admits, same] using admits
      | _ => trivial
  | _ => trivial

theorem Pc.admits_of_not_held (elsewhere : point.heldLock ≠ some .registry) :
    point.Admits s bound := by
  cases point with
  | create call => exact absurd rfl elsewhere
  | hardClose _ after | disconnecting _ after | closed _ after =>
      cases after with
      | evictedToCapacity key call => exact absurd rfl elsewhere
      | _ => trivial
  | _ => trivial

theorem Pc.Admits.mono {larger : Nat} (admits : point.Admits s bound) (more : bound ≤ larger) :
    point.Admits s larger := by
  cases point with
  | create call => exact Nat.le_trans admits more
  | hardClose _ after | disconnecting _ after | closed _ after => cases after <;> exact admits
  | _ => trivial

/-- The registry lock and the entries stay as they are. -/
theorem Effect.still (tasks : s'.tasks = Function.update s.tasks task point)
    (lock : s'.registryLock = s.registryLock) (entries : s'.entries = s.entries)
    (holds : point.heldLock = some .registry → (s.tasks task).heldLock = some .registry)
    (waits : point.awaitedLock = some .registry → (s.tasks task).awaitedLock = some .registry)
    (admits : ∀ bound, (s.tasks task).Admits s bound → point.Admits s bound) :
    Effect runtime s task point s' where
  tasks := tasks
  passage := by
    rw [lock]
    exact .keep holds waits
  outside _ := entries
  bounded bound _ _ size admitted := by
    rw [State.size, entries]
    exact ⟨size, Pc.admits_of_entries entries (admits bound admitted)⟩

theorem Effect.refl (tasks : s'.tasks = s.tasks) (lock : s'.registryLock = s.registryLock)
    (entries : s'.entries = s.entries) : Effect runtime s task (s.tasks task) s' := by
  apply Effect.still _ lock entries id id fun _ admits => admits
  rw [tasks, Function.update_eq_self]

/-- The task moves on, and has nothing to do with the registry then. -/
theorem Effect.leaves (tasks : s'.tasks = Function.update s.tasks task point)
    (lock : s'.registryLock = s.registryLock) (entries : s'.entries = s.entries)
    (holds : point.heldLock ≠ some .registry) (waits : point.awaitedLock ≠ some .registry) :
    Effect runtime s task point s' :=
  .still tasks lock entries (fun held => absurd held holds) (fun awaited => absurd awaited waits)
    fun _ _ => Pc.admits_of_not_held holds

theorem State.registryLock_setLock_entry {e : EntryId} {value : AsyncLock TaskId} :
    (s.setLock (.entry e) value).registryLock = s.registryLock := rfl

theorem effect_acquireLock_registry (insideWaits : inside.awaitedLock ≠ some .registry)
    (waitingHolds : waiting.heldLock ≠ some .registry)
    (insideAdmits : ∀ s bound, inside.Admits s bound) :
    ∃ point, Effect runtime s task point (s.acquireLock task .registry inside waiting) := by
  rw [State.acquireLock]
  split
  case isTrue free =>
    refine ⟨inside, rfl, .take free insideWaits, fun _ => rfl, ?_⟩
    intro bound _ _ size _
    exact ⟨size, insideAdmits _ _⟩
  case isFalse =>
    refine ⟨waiting, rfl, .enqueue waitingHolds, fun _ => rfl, ?_⟩
    intro bound _ _ size _
    exact ⟨size, Pc.admits_of_not_held waitingHolds⟩

theorem effect_acquireLock_entry {e : EntryId} (insideHolds : inside.heldLock ≠ some .registry)
    (insideWaits : inside.awaitedLock ≠ some .registry)
    (waitingHolds : waiting.heldLock ≠ some .registry)
    (waitingWaits : waiting.awaitedLock ≠ some .registry) :
    ∃ point, Effect runtime s task point (s.acquireLock task (.entry e) inside waiting) := by
  rw [State.acquireLock]
  split
  case isTrue => exact ⟨inside, .leaves rfl rfl rfl insideHolds insideWaits⟩
  case isFalse => exact ⟨waiting, .leaves rfl rfl rfl waitingHolds waitingWaits⟩

/-- Without an eviction there is room, or every entry is in use. -/
theorem State.size_of_no_eviction (none : s.evictToCapacity runtime = none) :
    s.size < runtime.remotePoolMaxSize ∨ s.size ≤ s.inUse := by
  rw [evictToCapacity] at none
  split at none
  case isTrue room => exact Or.inl room
  case isFalse =>
      right
      have noCandidate : (s.entries.items.filter fun item => !(s.entry item.2).lock.locked) = [] := by
        by_contra candidates
        rw [List.minOn?_eq_some_minOn candidates] at none
        cases none
      have all : ∀ item ∈ s.entries.items, (s.entry item.2).lock.locked = true := by
        intro item member
        have kept := List.filter_eq_nil_iff.mp noCandidate item member
        simpa using kept
      exact Nat.le_of_eq (congrArg List.length (List.filter_eq_self.mpr all)).symm

theorem State.size_pruneClosedLoops_le : (s.pruneClosedLoops runtime).size ≤ s.size :=
  List.length_filter_le _ _

theorem State.inUse_pruneClosedLoops_le : (s.pruneClosedLoops runtime).inUse ≤ s.inUse :=
  (List.filter_sublist.filter _).length_le

theorem effect_getEntry {call : Call} (here : s.tasks task = .inRegistry (.getEntry call)) :
    ∃ point, Effect runtime s task point (s.getEntry runtime task call) := by
  have holder : (s.tasks task).heldLock = some .registry := by
    rw [here]
    rfl
  have smaller : (s.pruneClosedLoops runtime).size ≤ s.size := State.size_pruneClosedLoops_le
  rw [State.getEntry]
  split
  case h_1 e found =>
      refine ⟨.lockEntry e (.acquire call), rfl, .release holder (by simp [Pc.heldLock])
        (by simp [Pc.awaitedLock]), fun outside => absurd holder outside, ?_⟩
      intro bound _ _ size _
      exact ⟨Nat.le_trans smaller size, trivial⟩
  case h_2 missing =>
      split
      case h_1 key e evicts =>
          refine ⟨.hardClose e (.evictedToCapacity key call), rfl,
            .keep (fun _ => holder) (by simp [Pc.awaitedLock]),
            fun outside => absurd holder outside, ?_⟩
          intro bound _ _ size _
          have member := (State.mem_of_evictToCapacity evicts).1
          refine ⟨Nat.le_trans smaller size, ?_⟩
          exact Option.isSome_of_eq_some (OrderedDict.get_of_mem member)
      case h_2 evicts =>
          refine ⟨.create call, rfl, .keep (fun _ => holder) (by simp [Pc.awaitedLock]),
            fun outside => absurd holder outside, ?_⟩
          intro bound capacity inUse size _
          refine ⟨Nat.le_trans smaller size, ?_⟩
          change (s.pruneClosedLoops runtime).size + 1 ≤ bound
          have fewer : (s.pruneClosedLoops runtime).inUse ≤ s.inUse :=
            State.inUse_pruneClosedLoops_le
          rcases State.size_of_no_eviction evicts with room | full
          · omega
          · omega

theorem effect_create {call : Call} (here : s.tasks task = .create call) :
    Effect runtime s task (.lockEntry s.nextEntry (.acquire call)) (s.create task call) where
  tasks := rfl
  passage := .release (by rw [here]; rfl) (by simp [Pc.heldLock]) (by simp [Pc.awaitedLock])
  outside := by
    intro outside
    rw [here] at outside
    exact absurd rfl outside
  bounded := by
    intro bound _ _ _ room
    rw [here] at room
    exact ⟨Nat.le_trans OrderedDict.length_set_le room, trivial⟩

theorem effect_evictStale {stale : List (Key × EntryId)} (here : s.tasks task = .evictStale stale) :
    ∃ point, Effect runtime s task point (s.evictStale task stale) := by
  have holder : (s.tasks task).heldLock = some .registry := by
    rw [here]
    rfl
  cases stale with
  | nil =>
      refine ⟨.idle, rfl, .release holder (by simp [Pc.heldLock]) (by simp [Pc.awaitedLock]),
        fun _ => rfl, ?_⟩
      intro bound _ _ size _
      exact ⟨size, trivial⟩
  | cons item stale =>
      exact ⟨.hardClose item.2 (.evictedIdle item.1 stale), .still rfl rfl rfl (fun _ => holder)
        (by simp [Pc.awaitedLock]) fun _ _ => trivial⟩

theorem effect_hardClose {e : EntryId} {after : AfterClose}
    (here : s.tasks task = .hardClose e after) :
    ∃ point, Effect runtime s task point (s.hardClose task e after) := by
  rw [State.hardClose]
  split
  · refine ⟨.disconnecting e after, .still rfl rfl rfl ?_ (by simp [Pc.awaitedLock]) ?_⟩
    · rw [here]
      exact id
    · intro bound
      rw [here]
      cases after <;> exact id
  · refine ⟨.closed e after, .still rfl rfl rfl ?_ (by simp [Pc.awaitedLock]) ?_⟩
    · rw [here]
      exact id
    · intro bound
      rw [here]
      cases after <;> exact id

theorem effect_closed {e : EntryId} {after : AfterClose} (here : s.tasks task = .closed e after) :
    ∃ point, Effect runtime s task point (s.closed task e after) := by
  cases after with
  | rebound call =>
      exact ⟨.connect e call, .leaves rfl rfl rfl (by simp [Pc.heldLock])
        (by simp [Pc.awaitedLock])⟩
  | broken call =>
      exact ⟨State.retry call, .leaves rfl rfl rfl (by simp [State.retry, Pc.heldLock])
        (by simp [State.retry, Pc.awaitedLock])⟩
  | evictedToCapacity key call =>
      have holder : (s.tasks task).heldLock = some .registry := by
        rw [here]
        rfl
      refine ⟨.create call, rfl, .keep (fun _ => holder) (by simp [Pc.awaitedLock]),
        fun outside => absurd holder outside, ?_⟩
      intro bound _ _ size registered
      rw [here] at registered
      have fewer : (s.entries.pop key).items.length + 1 ≤ s.size :=
        OrderedDict.length_pop_of_isSome registered
      exact ⟨by
        change (s.entries.pop key).items.length ≤ bound
        omega, Nat.le_trans fewer size⟩
  | evictedIdle key stale =>
      have holder : (s.tasks task).heldLock = some .registry := by
        rw [here]
        rfl
      refine ⟨.evictStale stale, rfl, .keep (fun _ => holder) (by simp [Pc.awaitedLock]),
        fun outside => absurd holder outside, ?_⟩
      intro bound _ _ size _
      exact ⟨Nat.le_trans (List.length_filter_le _ _) size, trivial⟩

/-- The running task makes its move. -/
theorem effect_run : ∃ point, Effect runtime s task point (s.run runtime task) := by
  unfold State.run
  cases here : s.tasks task with
  | lockRegistry use =>
      exact effect_acquireLock_registry (by simp [Pc.awaitedLock]) (by simp [Pc.heldLock])
        fun _ _ => trivial
  | inRegistry use =>
      cases use with
      | getEntry call => exact effect_getEntry here
      | evictIdle now maxIdleSeconds =>
          exact ⟨.evictStale (s.stale now maxIdleSeconds), .still rfl rfl rfl
            (fun _ => by rw [here]; rfl) (by simp [Pc.awaitedLock]) fun _ _ => trivial⟩
  | create call => exact ⟨_, effect_create here⟩
  | evictStale stale => exact effect_evictStale here
  | lockEntry e use =>
      exact effect_acquireLock_entry (by simp [Pc.heldLock]) (by simp [Pc.awaitedLock])
        (by simp [Pc.heldLock]) (by simp [Pc.awaitedLock])
  | inEntry e use =>
      cases use with
      | acquire call =>
          simp only [State.acquire]
          split
          · exact ⟨.hardClose e (.rebound call), .leaves rfl rfl rfl
              (by simp [Pc.heldLock, AfterClose.lock]) (by simp [Pc.awaitedLock])⟩
          · exact ⟨.connect e call, .leaves rfl rfl rfl (by simp [Pc.heldLock])
              (by simp [Pc.awaitedLock])⟩
      | markBroken call =>
          exact ⟨.hardClose e (.broken call), .leaves rfl rfl rfl
            (by simp [Pc.heldLock, AfterClose.lock]) (by simp [Pc.awaitedLock])⟩
  | connect e call =>
      simp only [State.connect]
      split
      · exact ⟨.yielding e call, .leaves rfl rfl rfl (by simp [Pc.heldLock])
          (by simp [Pc.awaitedLock])⟩
      · exact ⟨.connecting e call, .leaves rfl rfl rfl (by simp [Pc.heldLock])
          (by simp [Pc.awaitedLock])⟩
  | yielding e call =>
      exact ⟨.calling e call, .leaves rfl rfl rfl (by simp [Pc.heldLock])
        (by simp [Pc.awaitedLock])⟩
  | leaving e call outcome =>
      simp only [State.leaving]
      split
      · exact ⟨.markBroken call, .leaves rfl rfl rfl (by simp [Pc.heldLock])
          (by simp [Pc.awaitedLock])⟩
      · exact ⟨.idle, .leaves rfl rfl rfl (by simp [Pc.heldLock]) (by simp [Pc.awaitedLock])⟩
  | markBroken call =>
      simp only [State.markBroken]
      split
      case h_1 e found =>
        exact ⟨.lockEntry e (.markBroken call), .leaves rfl rfl rfl (by simp [Pc.heldLock])
          (by simp [Pc.awaitedLock])⟩
      case h_2 =>
        exact ⟨State.retry call, .leaves rfl rfl rfl (by simp [State.retry, Pc.heldLock])
          (by simp [State.retry, Pc.awaitedLock])⟩
  | hardClose e after => exact effect_hardClose here
  | closed e after => exact effect_closed here
  | idle | waitingRegistry _ | waitingEntry _ _ | connecting _ _ | calling _ _
  | disconnecting _ _ => exact ⟨_, .refl rfl rfl rfl⟩

theorem effect_resumeLock_registry (woken : s.registryLock.canResume task = true)
    (waits : inside.awaitedLock ≠ some .registry) (admits : ∀ s bound, inside.Admits s bound) :
    Effect runtime s task inside
      ((s.setLock .registry s.registryLock.resume).goto task inside) where
  tasks := rfl
  passage := .resume woken waits
  outside _ := rfl
  bounded _ _ _ size _ := ⟨size, admits _ _⟩

/-- A suspended task is resumed. -/
theorem effect_resume (outcome : Outcome) :
    ∃ point, Effect runtime s task point (s.resume runtime task outcome) := by
  unfold State.resume
  cases here : s.tasks task with
  | waitingRegistry use =>
      simp only [State.resumeLock]
      split
      case isTrue woken =>
        exact ⟨_, effect_resumeLock_registry woken (by simp [Pc.awaitedLock]) fun _ _ => trivial⟩
      case isFalse => exact ⟨_, .refl rfl rfl rfl⟩
  | waitingEntry e use =>
      simp only [State.resumeLock]
      split
      · exact ⟨.inEntry e use, .leaves rfl rfl rfl (by simp [Pc.heldLock])
          (by simp [Pc.awaitedLock])⟩
      · exact ⟨_, .refl rfl rfl rfl⟩
  | connecting e call =>
      cases outcome with
      | returned =>
          exact ⟨.yielding e call, .leaves rfl rfl rfl (by simp [Pc.heldLock])
            (by simp [Pc.awaitedLock])⟩
      | reconnectable =>
          exact ⟨.leaving e call .reconnectable, .leaves rfl rfl rfl (by simp [Pc.heldLock])
            (by simp [Pc.awaitedLock])⟩
      | otherError =>
          exact ⟨.leaving e call .otherError, .leaves rfl rfl rfl (by simp [Pc.heldLock])
            (by simp [Pc.awaitedLock])⟩
  | calling e call =>
      exact ⟨.leaving e call outcome, .leaves rfl rfl rfl (by simp [Pc.heldLock])
        (by simp [Pc.awaitedLock])⟩
  | disconnecting e after =>
      refine ⟨.closed e after, .still rfl rfl rfl ?_ (by simp [Pc.awaitedLock]) ?_⟩
      · rw [here]
        exact id
      · intro bound
        rw [here]
        cases after <;> exact id
  | _ => exact ⟨_, .refl rfl rfl rfl⟩

/-- A cancelled task gives back what it holds. -/
theorem effect_cancel : ∃ point, Effect runtime s task point (s.cancel task) := by
  have idleHolds : Pc.idle.heldLock ≠ some .registry := by simp [Pc.heldLock]
  have idleWaits : Pc.idle.awaitedLock ≠ some .registry := by simp [Pc.awaitedLock]
  unfold State.cancel
  cases here : s.tasks task with
  | waitingRegistry use =>
      refine ⟨.idle, rfl, .leave (fun held => absurd held idleHolds) idleWaits, fun _ => rfl, ?_⟩
      exact fun _ _ _ size _ => ⟨size, trivial⟩
  | waitingEntry e use => exact ⟨.idle, .leaves rfl rfl rfl idleHolds idleWaits⟩
  | connecting e call => exact ⟨.idle, .leaves rfl rfl rfl idleHolds idleWaits⟩
  | calling e call => exact ⟨.idle, .leaves rfl rfl rfl idleHolds idleWaits⟩
  | disconnecting e after =>
      cases after with
      | rebound call | broken call => exact ⟨.idle, .leaves rfl rfl rfl idleHolds idleWaits⟩
      | evictedToCapacity key call | evictedIdle key stale =>
          refine ⟨.idle, rfl, .release (by rw [here]; rfl) idleHolds idleWaits, fun _ => rfl, ?_⟩
          exact fun _ _ _ size _ => ⟨size, trivial⟩
  | _ => exact ⟨_, .refl rfl rfl rfl⟩

theorem effect_start (operation : Operation) :
    ∃ point, Effect runtime s task point (s.start task operation) := by
  have starts (use : RegistryUse) :
      Effect runtime s task (.lockRegistry use) (s.goto task (.lockRegistry use)) :=
    .leaves rfl rfl rfl (by simp [Pc.heldLock]) (by simp [Pc.awaitedLock])
  cases operation with
  | callTool endpointUrl transport => exact ⟨_, starts _⟩
  | listTools endpointUrl transport => exact ⟨_, starts _⟩
  | evictIdle maxIdleSeconds => exact ⟨_, starts _⟩

theorem effect_step {move : Move} (own : (Turn.move move).task? = some task) :
    ∃ point, Effect runtime s task point (step runtime s move) := by
  cases move with
  | tick seconds => cases own
  | start t operation =>
      cases own
      simp only [Pool.step]
      split
      · exact effect_start operation
      · exact ⟨_, .refl rfl rfl rfl⟩
  | run t =>
      cases own
      simp only [Pool.step]
      split
      · exact effect_run
      · exact ⟨_, .refl rfl rfl rfl⟩
  | resume t outcome =>
      cases own
      simp only [Pool.step]
      split
      · exact effect_resume outcome
      · exact ⟨_, .refl rfl rfl rfl⟩

end Effects

/-! ### The holder of the registry lock -/

/-- The control points of a task that is not in `aclose_all`, or is. -/
abbrev Point := Pc × ClosePc

def Point.holdsRegistry (point : Point) : Prop :=
  point.1.heldLock = some .registry ∨ point.2.holdsRegistry = true

def Point.awaitsRegistry (point : Point) : Prop :=
  point.1.awaitedLock = some .registry ∨ point.2.awaitsRegistry = true

def ClosablePool.point (pool : ClosablePool) (task : TaskId) : Point :=
  (pool.state.tasks task, pool.closers task)

/-- One task at most holds the registry lock. A task is in one operation at a time, and a
task that is about to create an entry can do so. -/
structure Kept (bound : Nat) (pool : ClosablePool) : Prop where
  locks : LockDiscipline (fun point (_ : Unit) => Point.holdsRegistry point)
    (fun point _ => Point.awaitsRegistry point) (fun _ => pool.state.registryLock) pool.point
  apart : ∀ t, pool.state.tasks t = .idle ∨ pool.closers t = .idle
  size : pool.state.size ≤ bound
  admits : ∀ t, (pool.state.tasks t).Admits pool.state bound

section Keeping

variable {runtime : Runtime} {pool pool' : ClosablePool} {task : TaskId} {bound larger : Nat}
  {pc : Pc} {closer : ClosePc}

theorem Point.holdsRegistry_idle : Point.holdsRegistry (pc, .idle) = (pc.heldLock = some .registry) := by
  simp [Point.holdsRegistry, ClosePc.holdsRegistry]

theorem Point.awaitsRegistry_idle :
    Point.awaitsRegistry (pc, .idle) = (pc.awaitedLock = some .registry) := by
  simp [Point.awaitsRegistry, ClosePc.awaitsRegistry]

theorem Kept.pass {point : Point} (kept : Kept bound pool)
    (points : pool'.point = Function.update pool.point task point)
    (passage : pool.state.registryLock.Passage task (pool.point task).holdsRegistry
      (pool.point task).awaitsRegistry point.holdsRegistry point.awaitsRegistry
      pool'.state.registryLock) :
    LockDiscipline (fun point (_ : Unit) => Point.holdsRegistry point)
      (fun point _ => Point.awaitsRegistry point) (fun _ => pool'.state.registryLock)
      pool'.point := by
  have only : ∀ l : Unit, l ≠ () → False := fun _ different => different rfl
  have passed := kept.locks.pass passage (fun l different => (only l different).elim)
    fun l different => (only l different).elim
  have locks : Function.update (fun _ : Unit => pool.state.registryLock) ()
      pool'.state.registryLock = fun _ => pool'.state.registryLock := by
    funext _
    rfl
  rw [points]
  rw [locks] at passed
  exact passed

/-- While a task holds the registry lock, no other is about to create an entry. -/
theorem Kept.admits_of_holder {s : State} {other : TaskId} {any : Nat} (kept : Kept bound pool)
    (holder : (pool.point task).holdsRegistry) (different : other ≠ task) :
    (pool.state.tasks other).Admits s any := by
  apply Pc.admits_of_not_held
  intro held
  exact different (kept.locks.exclusive other task () (Or.inl held) holder)

/-- The turn of a task that is not in `aclose_all`. -/
theorem Kept.effect {s' : State} {point : Pc} (kept : Kept bound pool)
    (elsewhere : pool.closers task = .idle) (effect : Effect runtime pool.state task point s')
    (more : bound ≤ larger) (capacity : runtime.remotePoolMaxSize ≤ larger)
    (inUse : 1 + pool.state.inUse ≤ larger) : Kept larger { pool with state := s' } := by
  have points : ({ pool with state := s' } : ClosablePool).point =
      Function.update pool.point task (point, .idle) := by
    funext t
    rcases eq_or_ne t task with rfl | different
    · simp [ClosablePool.point, effect.tasks, elsewhere]
    · simp [ClosablePool.point, effect.tasks, different]
  have here : pool.point task = (pool.state.tasks task, .idle) := by
    rw [ClosablePool.point, elsewhere]
  have grown := effect.bounded larger capacity inUse (Nat.le_trans kept.size more)
    ((kept.admits task).mono more)
  constructor
  · apply kept.pass points
    rw [here, Point.holdsRegistry_idle, Point.holdsRegistry_idle, Point.awaitsRegistry_idle,
      Point.awaitsRegistry_idle]
    exact effect.passage
  · intro t
    rw [effect.tasks]
    rcases eq_or_ne t task with rfl | different
    · exact Or.inr elsewhere
    · rw [Function.update_of_ne different]
      exact kept.apart t
  · exact grown.1
  · intro t
    rw [effect.tasks]
    rcases eq_or_ne t task with rfl | different
    · rw [Function.update_self]
      exact grown.2
    · rw [Function.update_of_ne different]
      by_cases holder : (pool.state.tasks task).heldLock = some .registry
      · exact kept.admits_of_holder (Or.inl holder) different
      · exact Pc.admits_of_entries (effect.outside holder) ((kept.admits t).mono more)

theorem Kept.mono (kept : Kept bound pool) (more : bound ≤ larger) : Kept larger pool where
  locks := kept.locks
  apart := kept.apart
  size := Nat.le_trans kept.size more
  admits t := (kept.admits t).mono more

theorem Point.holdsRegistry_closer :
    Point.holdsRegistry (.idle, closer) = (closer.holdsRegistry = true) := by
  simp [Point.holdsRegistry, Pc.heldLock]

theorem Point.awaitsRegistry_closer :
    Point.awaitsRegistry (.idle, closer) = (closer.awaitsRegistry = true) := by
  simp [Point.awaitsRegistry, Pc.awaitedLock]

/-- The turn of a task in `aclose_all`, which leaves the entries or clears them under the
registry lock. -/
theorem Kept.goto {s' : State} (kept : Kept bound pool)
    (elsewhere : pool.state.tasks task = .idle) (tasks : s'.tasks = pool.state.tasks)
    (entries : s'.entries = pool.state.entries ∨
      (pool.closers task).holdsRegistry = true ∧ s'.entries = .empty)
    (passage : pool.state.registryLock.Passage task ((pool.closers task).holdsRegistry = true)
      ((pool.closers task).awaitsRegistry = true) (closer.holdsRegistry = true)
      (closer.awaitsRegistry = true) s'.registryLock) :
    Kept bound (pool.goto task s' closer) := by
  have points : (pool.goto task s' closer).point =
      Function.update pool.point task (.idle, closer) := by
    funext t
    rcases eq_or_ne t task with rfl | different
    · simp [ClosablePool.point, ClosablePool.goto, tasks, elsewhere]
    · simp [ClosablePool.point, ClosablePool.goto, tasks, different]
  have here : pool.point task = (.idle, pool.closers task) := by
    rw [ClosablePool.point, elsewhere]
  constructor
  · apply kept.pass points
    rw [here, Point.holdsRegistry_closer, Point.holdsRegistry_closer, Point.awaitsRegistry_closer,
      Point.awaitsRegistry_closer]
    exact passage
  · intro t
    simp only [ClosablePool.goto, tasks]
    rcases eq_or_ne t task with rfl | different
    · exact Or.inl elsewhere
    · rw [Function.update_of_ne different]
      exact kept.apart t
  · change s'.entries.items.length ≤ bound
    rcases entries with same | ⟨-, empty⟩
    · rw [same]
      exact kept.size
    · rw [empty]
      exact Nat.zero_le _
  · intro t
    simp only [ClosablePool.goto, tasks]
    rcases entries with same | ⟨holder, -⟩
    · exact Pc.admits_of_entries same (kept.admits t)
    · rcases eq_or_ne t task with rfl | different
      · rw [elsewhere]
        trivial
      · exact kept.admits_of_holder (Or.inr holder) different

/-- The running task goes on in `aclose_all`. -/
theorem Kept.close (kept : Kept bound pool) : Kept bound (pool.close task) := by
  have elsewhere (closing : pool.closers task ≠ .idle) : pool.state.tasks task = .idle :=
    (kept.apart task).resolve_right closing
  rw [ClosablePool.close]
  split
  case h_1 here =>
    have elsewhere := elsewhere (by simp [here])
    rw [ClosablePool.lockRegistry]
    split
    case isTrue free =>
      exact kept.goto elsewhere rfl (Or.inl rfl) (.take free (by simp [ClosePc.awaitsRegistry]))
    case isFalse =>
      exact kept.goto elsewhere rfl (Or.inl rfl) (.enqueue (by simp [ClosePc.holdsRegistry]))
  case h_2 here =>
    have elsewhere := elsewhere (by simp [here])
    exact kept.goto elsewhere rfl (Or.inl rfl)
      (.keep (fun _ => by rw [here]; rfl) (by simp [ClosePc.awaitsRegistry]))
  case h_3 left here =>
    have elsewhere := elsewhere (by simp [here])
    have holder : (pool.closers task).holdsRegistry = true := by
      rw [here]
      rfl
    cases left with
    | nil =>
        exact kept.goto elsewhere rfl (Or.inr ⟨holder, rfl⟩)
          (.release holder (by simp [ClosePc.holdsRegistry]) (by simp [ClosePc.awaitsRegistry]))
    | cons e left =>
        rw [ClosablePool.closeNext]
        split
        · exact kept.goto elsewhere rfl (Or.inl rfl)
            (.keep (fun _ => holder) (by simp [ClosePc.awaitsRegistry]))
        · exact kept.goto elsewhere rfl (Or.inl rfl)
            (.keep (fun _ => holder) (by simp [ClosePc.awaitsRegistry]))
  case h_4 => exact kept

theorem Kept.resumeClose (kept : Kept bound pool) : Kept bound (pool.resumeClose task) := by
  have elsewhere (closing : pool.closers task ≠ .idle) : pool.state.tasks task = .idle :=
    (kept.apart task).resolve_right closing
  rw [ClosablePool.resumeClose]
  split
  case h_1 here =>
    have elsewhere := elsewhere (by simp [here])
    dsimp only
    split
    case isTrue woken =>
      exact kept.goto elsewhere rfl (Or.inl rfl) (.resume woken (by simp [ClosePc.awaitsRegistry]))
    case isFalse => exact kept
  case h_2 e left here =>
    have elsewhere := elsewhere (by simp [here])
    exact kept.goto elsewhere rfl (Or.inl rfl)
      (.keep (fun _ => by rw [here]; rfl) (by simp [ClosePc.awaitsRegistry]))
  case h_3 => exact kept

theorem Kept.cancelClose (kept : Kept bound pool) : Kept bound (pool.cancelClose task) := by
  have elsewhere (closing : pool.closers task ≠ .idle) : pool.state.tasks task = .idle :=
    (kept.apart task).resolve_right closing
  rw [ClosablePool.cancelClose]
  split
  case h_1 here =>
    have elsewhere := elsewhere (by simp [here])
    exact kept.goto elsewhere rfl (Or.inl rfl)
      (.leave (by simp [ClosePc.holdsRegistry]) (by simp [ClosePc.awaitsRegistry]))
  case h_2 e left here =>
    have elsewhere := elsewhere (by simp [here])
    exact kept.goto elsewhere rfl (Or.inl rfl) (.release (by rw [here]; rfl)
      (by simp [ClosePc.holdsRegistry]) (by simp [ClosePc.awaitsRegistry]))
  case h_3 => exact kept

/-- The turn of the pool's operations other than `aclose_all`. -/
theorem Kept.turn {turn : Turn} (kept : Kept bound pool)
    (elsewhere : ∀ task ∈ turn.task?, pool.closers task = .idle) (more : bound ≤ larger)
    (capacity : runtime.remotePoolMaxSize ≤ larger) (inUse : 1 + pool.state.inUse ≤ larger) :
    Kept larger { pool with state := pool.stateTurn runtime turn } := by
  cases turn with
  | move move =>
      cases own : (Turn.move move).task? with
      | some task =>
          have moved : ∃ point, Effect runtime pool.state task point
              (Pool.step runtime pool.state move) := effect_step own
          rcases moved with ⟨point, effect⟩
          exact kept.effect (elsewhere task own) effect more capacity inUse
      | none =>
          cases move with
          | tick seconds =>
              have still := kept.mono more
              exact ⟨still.locks, still.apart, still.size,
                fun t => Pc.admits_of_entries rfl (still.admits t)⟩
          | _ => cases own
  | cancel task =>
      have idle := elsewhere task rfl
      rw [ClosablePool.stateTurn]
      split
      · have cancelled : ∃ point, Effect runtime pool.state task point (pool.state.cancel task) :=
          effect_cancel
        rcases cancelled with ⟨point, effect⟩
        exact kept.effect idle effect more capacity inUse
      · exact kept.mono more

end Keeping

/-! ### Every run -/

section Runs

variable {runtime : Runtime} {w : Occupancy}

/-- What the pool may hold after a turn that begins here. -/
def Occupancy.bound (runtime : Runtime) (w : Occupancy) : Nat :=
  max runtime.remotePoolMaxSize (1 + w.peak)

theorem kept_step {turn : PoolTurn} (kept : Kept (w.bound runtime) w.pool) :
    Kept ((w.step runtime turn).bound runtime) (w.step runtime turn).pool := by
  have more : w.bound runtime ≤ (w.step runtime turn).bound runtime := by
    simp only [Occupancy.bound, Occupancy.step]
    omega
  have capacity : runtime.remotePoolMaxSize ≤ (w.step runtime turn).bound runtime :=
    Nat.le_max_left _ _
  have inUse : 1 + w.pool.state.inUse ≤ (w.step runtime turn).bound runtime := by
    simp only [Occupancy.bound, Occupancy.step]
    omega
  have still := kept.mono more
  rw [Occupancy.step] at still inUse capacity more ⊢
  cases turn with
  | turn turn =>
      simp only [ClosablePool.step]
      split
      case isTrue elsewhere => exact kept.turn elsewhere more capacity inUse
      case isFalse => exact still
  | acloseAll task =>
      simp only [ClosablePool.step]
      split
      case isTrue ready =>
        exact still.goto ready.2.1 rfl (Or.inl rfl)
          (.keep (by simp [ClosePc.holdsRegistry]) (by simp [ClosePc.awaitsRegistry]))
      case isFalse => exact still
  | close task =>
      simp only [ClosablePool.step]
      split
      · exact still.close
      · exact still
  | resumeClose task =>
      simp only [ClosablePool.step]
      split
      · exact still.resumeClose
      · exact still
  | cancelClose task =>
      simp only [ClosablePool.step]
      split
      · exact still.cancelClose
      · exact still

theorem kept_initial : Kept (Occupancy.bound runtime {}) {} where
  locks := by
    constructor <;> simp [Point.holdsRegistry, Point.awaitsRegistry, ClosablePool.point,
      Pc.heldLock, Pc.awaitedLock, ClosePc.holdsRegistry, ClosePc.awaitsRegistry]
  apart _ := Or.inl rfl
  size := Nat.zero_le _
  admits _ := trivial

end Runs

/-- In every run, cancellations included, the pool never holds more entries than its
capacity, or than one more than were in use at once. -/
theorem growth_bounded (runtime : Runtime) (turns : List PoolTurn) :
    EachState (Occupancy.step runtime) (GrowthBounded runtime) {} turns := by
  have free : EachStep (Occupancy.step runtime) (fun _ _ => True) {} turns :=
    fun _ _ _ _ => trivial
  have kept : EachState (Occupancy.step runtime) (fun w => Kept (w.bound runtime) w.pool) {}
      turns := free.invariant kept_initial fun _ _ kept _ => kept_step kept
  refine kept.mono ?_
  intro w kept
  have size : w.pool.state.size ≤ max runtime.remotePoolMaxSize (1 + w.peak) := kept.size
  exact ⟨size, fun fewer => by omega⟩

end GrafuxMcp.Pool
