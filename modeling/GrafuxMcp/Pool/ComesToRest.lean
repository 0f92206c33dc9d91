import GrafuxMcp.Foundation.Draining
import GrafuxMcp.Pool.Growth
import Mathlib.Algebra.Order.Monoid.Prod
import Mathlib.Data.Prod.Lex

/-! # The pool comes to rest

No task of the pool waits for ever, and none moves for ever: once no operation begins any more,
all of them end if the methods of the wrappers do. This includes cancelled tasks and
`aclose_all`. -/

namespace GrafuxMcp.Pool

/-! ### How far a task is from its end -/

/-- What the second attempt of a call and the closing before it add. -/
def Call.later (call : Call) : Nat :=
  if call.isFirst then 25 else 0

/-- The victims of `evict_idle` are not counted here. -/
def AfterClose.ahead (left : Nat) : AfterClose → Nat
  | .rebound call => call.later + 6 + left
  | .broken _ => 19 + left
  | .evictedToCapacity _ call => call.later + 13 + left
  | .evictedIdle _ _ => 0

def RegistryUse.ahead : RegistryUse → Nat
  | .getEntry call => call.later + 16
  | .evictIdle _ _ => 1

def EntryUse.ahead : EntryUse → Nat
  | .acquire call => call.later + 9
  | .markBroken _ => 22

namespace Pc

def ahead : Pc → Nat
  | .idle | .evictStale _ => 0
  | .lockRegistry use => use.ahead + 2
  | .waitingRegistry use => use.ahead + 1
  | .inRegistry use => use.ahead
  | .create call => call.later + 12
  | .lockEntry _ use => use.ahead + 2
  | .waitingEntry _ use => use.ahead + 1
  | .inEntry _ use => use.ahead
  | .connect _ call => call.later + 5
  | .connecting _ call => call.later + 4
  | .yielding _ call => call.later + 3
  | .calling _ call => call.later + 2
  | .leaving _ call _ => call.later + 1
  | .markBroken _ => 25
  | .hardClose _ after => after.ahead 2
  | .disconnecting _ after => after.ahead 1
  | .closed _ after => after.ahead 0

/-- What is left of the loop of `evict_idle`. -/
def victims : Pc → Nat
  | .evictStale stale => 4 * stale.length + 1
  | .hardClose _ (.evictedIdle _ stale) => 4 * stale.length + 4
  | .disconnecting _ (.evictedIdle _ stale) => 4 * stale.length + 3
  | .closed _ (.evictedIdle _ stale) => 4 * stale.length + 2
  | _ => 0

/-- The entries that a control point refers to. -/
def Mentions (point : Pc) (e : EntryId) : Prop :=
  point.atEntry = some e ∨ e ∈ point.targets

theorem known_of_no_mention {point : Pc} {bound : EntryId} (entry : point.atEntry = none)
    (targets : point.targets = []) : ∀ e, point.Mentions e → e < bound := by
  intro e mention
  simp [Mentions, entry, targets] at mention

end Pc

namespace ClosePc

def ahead : ClosePc → Nat
  | .lockRegistry => 3
  | .waitingRegistry => 2
  | .inRegistry => 1
  | _ => 0

/-- What is left of the loop of `aclose_all`. -/
def victims : ClosePc → Nat
  | .closeNext left => 2 * left.length + 1
  | .disconnecting _ left => 2 * left.length + 2
  | _ => 0

end ClosePc

namespace Point

def isSuspended (point : Point) : Bool :=
  point.1.isSuspended && point.2.isSuspended

def holds (point : Point) (l : LockId) : Prop :=
  point.1.heldLock = some l ∨ l = .registry ∧ point.2.holdsRegistry = true

def waits (point : Point) (l : LockId) : Prop :=
  point.1.awaitedLock = some l ∨ l = .registry ∧ point.2.awaitsRegistry = true

/-- A loop over victims is as long as there are entries when it begins, so the steps before it
weigh more. -/
def rank (point : Point) : ℕ ×ₗ ℕ :=
  toLex (point.1.ahead + point.2.ahead, point.1.victims + point.2.victims)

variable {pc pc' : Pc} {closer closer' : ClosePc}

theorem rank_lt_of_ahead (less : pc'.ahead < pc.ahead) :
    rank (pc', closer) < rank (pc, closer) :=
  Prod.Lex.toLex_lt_toLex.mpr (Or.inl (Nat.add_lt_add_right less _))

theorem rank_lt_of_victims (same : pc'.ahead = pc.ahead) (less : pc'.victims < pc.victims) :
    rank (pc', closer) < rank (pc, closer) :=
  Prod.Lex.toLex_lt_toLex.mpr
    (Or.inr ⟨congrArg (· + closer.ahead) same, Nat.add_lt_add_right less _⟩)

theorem rank_lt_of_closer (less : closer'.ahead < closer.ahead) :
    rank (pc, closer') < rank (pc, closer) :=
  Prod.Lex.toLex_lt_toLex.mpr (Or.inl (Nat.add_lt_add_left less _))

theorem rank_lt_of_left (same : closer'.ahead = closer.ahead)
    (less : closer'.victims < closer.victims) : rank (pc, closer') < rank (pc, closer) :=
  Prod.Lex.toLex_lt_toLex.mpr (Or.inr ⟨congrArg (pc.ahead + ·) same, Nat.add_lt_add_left less _⟩)

theorem holds_idle {l : LockId} : holds (pc, .idle) l = (pc.heldLock = some l) := by
  simp [holds, ClosePc.holdsRegistry]

theorem waits_idle {l : LockId} : waits (pc, .idle) l = (pc.awaitedLock = some l) := by
  simp [waits, ClosePc.awaitsRegistry]

theorem holds_closer {l : LockId} :
    holds (.idle, closer) l = (l = .registry ∧ closer.holdsRegistry = true) := by
  simp [holds, Pc.heldLock]

theorem waits_closer {l : LockId} :
    waits (.idle, closer) l = (l = .registry ∧ closer.awaitsRegistry = true) := by
  simp [waits, Pc.awaitedLock]

/-- Nothing is below a task that has ended. -/
theorem not_rank_lt (point : Point) : ¬ rank point < rank (.idle, .idle) := by
  intro less
  rcases Prod.Lex.toLex_lt_toLex.mp less with first | ⟨_, second⟩
  · exact Nat.not_lt_zero _ first
  · exact Nat.not_lt_zero _ second

end Point

/-! ### What a turn does -/

/-- The locks and the tasks stay as they are, and the registered entries are known. -/
structure Framed (s s' : State) : Prop where
  tasks : s'.tasks = s.tasks
  lock : s'.lock = s.lock
  grows : s.nextEntry ≤ s'.nextEntry
  registered : ∀ item ∈ s'.entries.items, item.2 < s'.nextEntry

/-- A task goes on to a point, and treats every lock so that it serves its queue. -/
structure Passes (s : State) (task : TaskId) (point : Pc) (s' : State) : Prop where
  tasks : s'.tasks = Function.update s.tasks task point
  current : s'.current = if point.isSuspended then none else some task
  treats : ∀ l, (s.lock l).Treats task ((s.tasks task).heldLock = some l)
    ((s.tasks task).awaitedLock = some l) (point.heldLock = some l) (point.awaitedLock = some l)
    (s'.lock l)
  grows : s.nextEntry ≤ s'.nextEntry
  registered : ∀ item ∈ s'.entries.items, item.2 < s'.nextEntry
  mentions : ∀ e, point.Mentions e → e < s'.nextEntry

section Passing

variable {runtime : Runtime} {s s' : State} {task : TaskId} {pc point inside waiting : Pc}
  {l : LockId} {new : AsyncLock TaskId} {e : EntryId}

theorem Framed.refl (registered : ∀ item ∈ s.entries.items, item.2 < s.nextEntry) : Framed s s :=
  ⟨rfl, rfl, Nat.le_refl _, registered⟩

theorem Framed.updateEntry (registered : ∀ item ∈ s.entries.items, item.2 < s.nextEntry)
    {change : Entry → Entry} (keeps : (change (s.entry e)).lock = (s.entry e).lock) :
    Framed s (s.updateEntry e change) :=
  ⟨rfl, State.lock_updateEntry keeps, Nat.le_refl _, registered⟩

/-- The task goes on with the locks that it has. -/
theorem Framed.goto (framed : Framed s s') (here : s.tasks task = pc)
    (held : pc.heldLock = point.heldLock) (awaited : pc.awaitedLock = none)
    (waits : point.awaitedLock = none)
    (mentions : ∀ e, point.Mentions e → e < s'.nextEntry) :
    Passes s task point (s'.goto task point) where
  tasks := by rw [State.tasks_goto, framed.tasks]
  current := rfl
  treats l := by
    rw [State.lock_goto, framed.lock, here]
    exact .keep (fun holds => held ▸ holds) (by rw [waits, awaited])
  grows := framed.grows
  registered := framed.registered
  mentions := mentions

/-- The task goes on, and does something to one lock. -/
theorem Framed.setLock (framed : Framed s s')
    (treats : (s.lock l).Treats task ((s.tasks task).heldLock = some l)
      ((s.tasks task).awaitedLock = some l) (point.heldLock = some l) (point.awaitedLock = some l)
      new)
    (held : ∀ other, other ≠ l → (s.tasks task).heldLock ≠ some other)
    (awaited : ∀ other, other ≠ l → (s.tasks task).awaitedLock ≠ some other)
    (waits : ∀ other, other ≠ l → point.awaitedLock ≠ some other)
    (mentions : ∀ e, point.Mentions e → e < s'.nextEntry) :
    Passes s task point ((s'.setLock l new).goto task point) where
  tasks := by rw [State.tasks_goto, State.tasks_setLock, framed.tasks]
  current := rfl
  treats other := by
    rw [State.lock_goto, State.lock_setLock, framed.lock]
    rcases eq_or_ne other l with rfl | different
    · rw [Function.update_self]
      exact treats
    · rw [Function.update_of_ne different]
      exact .keep (fun holds => absurd holds (held other different))
        (iff_of_false (waits other different) (awaited other different))
  grows := by
    rw [State.nextEntry_goto, State.nextEntry_setLock]
    exact framed.grows
  registered := by
    rw [State.nextEntry_goto, State.nextEntry_setLock, State.entries_goto, State.entries_setLock]
    exact framed.registered
  mentions := by
    rw [State.nextEntry_goto, State.nextEntry_setLock]
    exact mentions

/-- The task takes the lock, or queues for it. -/
theorem Framed.acquireLock (framed : Framed s s) (here : s.tasks task = pc)
    (held : pc.heldLock = none) (awaited : pc.awaitedLock = none) (holds : inside.heldLock = some l)
    (noMore : inside.awaitedLock = none) (waits : waiting.awaitedLock = some l)
    (insideKnown : ∀ e, inside.Mentions e → e < s.nextEntry)
    (waitingKnown : ∀ e, waiting.Mentions e → e < s.nextEntry) :
    ∃ point, Passes s task point (s.acquireLock task l inside waiting) ∧
      (point = inside ∨ point = waiting) := by
  subst here
  unfold State.acquireLock
  split
  case isTrue free =>
    refine ⟨inside, framed.setLock (.take free holds (by rw [noMore, awaited])) ?_ ?_ ?_ ?_,
      Or.inl rfl⟩
    · simp [held]
    · simp [awaited]
    · simp [noMore]
    · exact insideKnown
  case isFalse taken =>
    refine ⟨waiting, framed.setLock (.enqueue ?_ ?_ waits) ?_ ?_ ?_ ?_, Or.inr rfl⟩
    · simp [held]
    · simp [awaited]
    · simp [held]
    · simp [awaited]
    · simp [waits, eq_comm]
    · exact waitingKnown

/-- The task that has been woken takes the lock. -/
theorem Framed.resumeLock (framed : Framed s s) (here : s.tasks task = pc)
    (held : pc.heldLock = none) (awaited : pc.awaitedLock = some l)
    (holds : inside.heldLock = some l) (noMore : inside.awaitedLock = none)
    (mentions : ∀ e, inside.Mentions e → e < s.nextEntry) :
    s.resumeLock task l inside = s ∨ Passes s task inside (s.resumeLock task l inside) := by
  subst here
  unfold State.resumeLock
  split
  case isTrue woken =>
    refine Or.inr (framed.setLock (.resume woken holds (by simp [noMore])) ?_ ?_ ?_ mentions)
    · simp [held]
    · simp [awaited, eq_comm]
    · simp [noMore]
  case isFalse => exact Or.inl rfl

theorem Framed.releaseLock (framed : Framed s s') (here : s.tasks task = pc)
    (held : pc.heldLock = some l) (awaited : pc.awaitedLock = none)
    (waits : point.awaitedLock = none)
    (mentions : ∀ e, point.Mentions e → e < s'.nextEntry) :
    Passes s task point (s'.releaseLock task l point) := by
  subst here
  unfold State.releaseLock
  rw [framed.lock]
  refine framed.setLock (.release (by rw [waits, awaited])) ?_ ?_ ?_ mentions
  · simp [held, eq_comm]
  · simp [awaited]
  · simp [waits]

theorem Framed.leaveQueue (framed : Framed s s) (here : s.tasks task = pc)
    (held : pc.heldLock = none) (awaited : pc.awaitedLock = some l) :
    Passes s task .idle (s.leaveQueue task l) := by
  subst here
  refine framed.setLock (.leave (by simp [held]) (by simp [Pc.awaitedLock])) ?_ ?_ ?_ ?_
  · simp [held]
  · simp [awaited, eq_comm]
  · simp [Pc.awaitedLock]
  · simp [Pc.Mentions, Pc.atEntry, Pc.targets]

/-! ### The moves of the running task -/

/-- The task is nearer to its end at the first point than at the second. -/
def Pc.Below (point pc : Pc) : Prop :=
  Point.rank (point, .idle) < Point.rank (pc, .idle)

theorem Pc.below_of_ahead {pc : Pc} (less : point.ahead < pc.ahead) : point.Below pc :=
  Point.rank_lt_of_ahead less

theorem Pc.disconnecting_below (e : EntryId) (after : AfterClose) :
    (Pc.disconnecting e after).Below (.hardClose e after) := by
  cases after with
  | evictedIdle key stale => exact Point.rank_lt_of_victims rfl (Nat.lt_succ_self _)
  | _ => exact Pc.below_of_ahead (Nat.lt_succ_self _)

theorem Pc.closed_below (e : EntryId) (after : AfterClose) :
    (Pc.closed e after).Below (.disconnecting e after) := by
  cases after with
  | evictedIdle key stale => exact Point.rank_lt_of_victims rfl (Nat.lt_succ_self _)
  | _ => exact Pc.below_of_ahead (Nat.lt_succ_self _)

theorem Pc.mentions_disconnecting (e : EntryId) (after : AfterClose) {other : EntryId} :
    (Pc.disconnecting e after).Mentions other ↔ (Pc.hardClose e after).Mentions other := by
  cases after <;> exact Iff.rfl

theorem Pc.mentions_closed (e : EntryId) (after : AfterClose) {other : EntryId} :
    (Pc.closed e after).Mentions other ↔ (Pc.disconnecting e after).Mentions other := by
  cases after <;> exact Iff.rfl

theorem Call.later_of_first {call : Call} (first : call.isFirst = true) : call.later = 25 :=
  if_pos first

theorem below_retry {call : Call} {pc : Pc} (enough : 18 < pc.ahead) :
    (State.retry call).Below pc :=
  Pc.below_of_ahead enough

section Running

variable (registered : ∀ item ∈ s.entries.items, item.2 < s.nextEntry)
  (known : ∀ e, (s.tasks task).Mentions e → e < s.nextEntry)

include registered

theorem getEntry_passes {call : Call} (here : s.tasks task = .inRegistry (.getEntry call)) :
    ∃ point, Passes s task point (s.getEntry runtime task call) ∧
      point.Below (.inRegistry (.getEntry call)) := by
  have kept : ∀ item ∈ (s.pruneClosedLoops runtime).entries.items, item.2 < s.nextEntry :=
    fun item member => registered item (OrderedDict.mem_of_mem_filter member)
  have framed : Framed s (s.pruneClosedLoops runtime) := ⟨rfl, rfl, Nat.le_refl _, kept⟩
  simp only [State.getEntry]
  split
  case h_1 e found =>
    refine ⟨.lockEntry e (.acquire call), framed.releaseLock here rfl rfl rfl ?_, ?_⟩
    · rintro other (same | none)
      · cases same
        exact kept _ (OrderedDict.mem_of_get found)
      · cases none
    · exact Pc.below_of_ahead (by simp [Pc.ahead, EntryUse.ahead, RegistryUse.ahead])
  case h_2 =>
    split
    case h_1 key e evicts =>
      have member := kept _ (State.mem_of_evictToCapacity evicts).1
      refine ⟨.hardClose e (.evictedToCapacity key call), framed.goto here rfl rfl rfl ?_, ?_⟩
      · rintro other (same | victim)
        · cases same
          exact member
        · rw [List.mem_singleton.mp victim]
          exact member
      · exact Pc.below_of_ahead (by simp [Pc.ahead, AfterClose.ahead, RegistryUse.ahead])
    case h_2 =>
      exact ⟨.create call, framed.goto here rfl rfl rfl (Pc.known_of_no_mention rfl rfl),
        Pc.below_of_ahead (by simp [Pc.ahead, RegistryUse.ahead])⟩

theorem create_passes {call : Call} (here : s.tasks task = .create call)
    (blank : s.lock (.entry s.nextEntry) = {}) :
    ∃ point, Passes s task point (s.create task call) ∧ point.Below (.create call) := by
  let fresh : Entry := { wrapper := ⟨call.endpointUrl, call.transport⟩, lastUsed := s.clock }
  have unlocked : fresh.lock = (s.entry s.nextEntry).lock := blank.symm
  have same : (s.updateEntry s.nextEntry fun _ => fresh).lock = s.lock :=
    State.lock_updateEntry unlocked
  have framed : Framed s { s.updateEntry s.nextEntry fun _ => fresh with
      nextEntry := s.nextEntry + 1
      entries := s.entries.set call.key s.nextEntry } := by
    refine ⟨rfl, same, Nat.le_succ _, ?_⟩
    intro item member
    rcases OrderedDict.mem_of_mem_set member with rfl | old
    · exact Nat.lt_succ_self _
    · exact Nat.lt_succ_of_lt (registered item old)
  refine ⟨.lockEntry s.nextEntry (.acquire call),
    framed.releaseLock here rfl rfl rfl ?_, ?_⟩
  · rintro other (same | none)
    · cases same
      exact Nat.lt_succ_self _
    · cases none
  · exact Pc.below_of_ahead (by simp [Pc.ahead, EntryUse.ahead])

include known

theorem closed_passes {after : AfterClose} (here : s.tasks task = .closed e after) :
    ∃ point, Passes s task point (s.closed task e after) ∧ point.Below (.closed e after) := by
  have framed : Framed s (s.updateEntry e fun entry => { entry with connected := false }) :=
    .updateEntry registered rfl
  have popped : ∀ key, Framed s
      { s.updateEntry e fun entry => { entry with connected := false } with
        entries := s.entries.pop key } :=
    fun key => ⟨rfl, framed.lock, Nat.le_refl _,
      fun item member => registered item (OrderedDict.mem_of_mem_pop member)⟩
  rw [here] at known
  cases after with
  | rebound call =>
      exact ⟨.connect e call, framed.goto here rfl rfl rfl known,
        Pc.below_of_ahead (by simp [Pc.ahead, AfterClose.ahead])⟩
  | broken call =>
      exact ⟨State.retry call,
        framed.releaseLock here rfl rfl rfl (Pc.known_of_no_mention rfl rfl),
        below_retry (by simp [Pc.ahead, AfterClose.ahead])⟩
  | evictedToCapacity key call =>
      exact ⟨.create call, (popped key).goto here rfl rfl rfl (Pc.known_of_no_mention rfl rfl),
        Pc.below_of_ahead (by simp [Pc.ahead, AfterClose.ahead])⟩
  | evictedIdle key stale =>
      refine ⟨.evictStale stale, (popped key).goto here rfl rfl rfl ?_,
        Point.rank_lt_of_victims rfl (Nat.lt_succ_self _)⟩
      rintro other (none | victim)
      · cases none
      · exact known other (Or.inr (List.mem_cons_of_mem _ victim))

theorem run_passes (blank : s.lock (.entry s.nextEntry) = {})
    (runs : (s.tasks task).isSuspended = false) :
    ∃ point, Passes s task point (s.run runtime task) ∧ point.Below (s.tasks task) := by
  have framed : Framed s s := .refl registered
  unfold State.run
  cases here : s.tasks task with
  | lockRegistry use =>
      have steps : ∃ point, Passes s task point
          (s.acquireLock task .registry (.inRegistry use) (.waitingRegistry use)) ∧
            (point = .inRegistry use ∨ point = .waitingRegistry use) :=
        framed.acquireLock here rfl rfl rfl rfl rfl (Pc.known_of_no_mention rfl rfl)
          (Pc.known_of_no_mention rfl rfl)
      rcases steps with ⟨point, passes, goes⟩
      refine ⟨point, passes, ?_⟩
      rcases goes with rfl | rfl
      · exact Pc.below_of_ahead (by simp [Pc.ahead])
      · exact Pc.below_of_ahead (by simp [Pc.ahead])
  | lockEntry e use =>
      rw [here] at known
      have steps : ∃ point, Passes s task point
          (s.acquireLock task (.entry e) (.inEntry e use) (.waitingEntry e use)) ∧
            (point = .inEntry e use ∨ point = .waitingEntry e use) :=
        framed.acquireLock here rfl rfl rfl rfl rfl known known
      rcases steps with ⟨point, passes, goes⟩
      refine ⟨point, passes, ?_⟩
      rcases goes with rfl | rfl
      · exact Pc.below_of_ahead (by simp [Pc.ahead])
      · exact Pc.below_of_ahead (by simp [Pc.ahead])
  | inRegistry use =>
      cases use with
      | getEntry call => exact getEntry_passes registered here
      | evictIdle now maxIdleSeconds =>
          refine ⟨.evictStale (s.stale now maxIdleSeconds), framed.goto here rfl rfl rfl ?_,
            Pc.below_of_ahead (by simp [Pc.ahead, RegistryUse.ahead])⟩
          rintro e (none | victim)
          · cases none
          · rcases List.mem_map.mp victim with ⟨item, member, rfl⟩
            exact registered item (State.mem_of_stale member).1
  | create call => exact create_passes registered here blank
  | evictStale stale =>
      rw [here] at known
      cases stale with
      | nil =>
          exact ⟨.idle, framed.releaseLock here rfl rfl rfl (Pc.known_of_no_mention rfl rfl),
            Point.rank_lt_of_victims rfl (Nat.lt_succ_self _)⟩
      | cons item stale =>
          refine ⟨.hardClose item.2 (.evictedIdle item.1 stale), framed.goto here rfl rfl rfl ?_,
            Point.rank_lt_of_victims rfl (Nat.lt_succ_self _)⟩
          rintro e (same | victim)
          · cases same
            exact known _ (Or.inr List.mem_cons_self)
          · exact known e (Or.inr victim)
  | inEntry e use =>
      rw [here] at known
      cases use with
      | acquire call =>
          simp only [State.acquire]
          split
          · exact ⟨.hardClose e (.rebound call), framed.goto here rfl rfl rfl known,
              Pc.below_of_ahead (by simp [Pc.ahead, AfterClose.ahead, EntryUse.ahead])⟩
          · exact ⟨.connect e call, framed.goto here rfl rfl rfl known,
              Pc.below_of_ahead (by simp [Pc.ahead, EntryUse.ahead])⟩
      | markBroken call =>
          exact ⟨.hardClose e (.broken call), framed.goto here rfl rfl rfl known,
            Pc.below_of_ahead (by simp [Pc.ahead, AfterClose.ahead, EntryUse.ahead])⟩
  | connect e call =>
      rw [here] at known
      simp only [State.connect]
      split
      · exact ⟨.yielding e call, framed.goto here rfl rfl rfl known,
          Pc.below_of_ahead (by simp [Pc.ahead])⟩
      · exact ⟨.connecting e call, framed.goto here rfl rfl rfl known,
          Pc.below_of_ahead (by simp [Pc.ahead])⟩
  | yielding e call =>
      rw [here] at known
      have used : Framed s (s.updateEntry e fun entry => { entry with lastUsed := s.clock }) :=
        .updateEntry registered rfl
      exact ⟨.calling e call, used.goto here rfl rfl rfl known,
        Pc.below_of_ahead (by simp [Pc.ahead])⟩
  | leaving e call outcome =>
      simp only [State.leaving]
      split
      case isTrue again =>
        have first := (Bool.and_eq_true_iff.mp again).1
        exact ⟨.markBroken call,
          framed.releaseLock here rfl rfl rfl (Pc.known_of_no_mention rfl rfl),
          Pc.below_of_ahead (by simp [Pc.ahead, Call.later_of_first first])⟩
      case isFalse =>
        exact ⟨.idle, framed.releaseLock here rfl rfl rfl (Pc.known_of_no_mention rfl rfl),
          Pc.below_of_ahead (by simp [Pc.ahead])⟩
  | markBroken call =>
      simp only [State.markBroken]
      split
      case h_1 e found =>
        refine ⟨.lockEntry e (.markBroken call), framed.goto here rfl rfl rfl ?_,
          Pc.below_of_ahead (by simp [Pc.ahead, EntryUse.ahead])⟩
        rintro other (same | none)
        · cases same
          exact registered _ (OrderedDict.mem_of_get found)
        · cases none
      case h_2 =>
        exact ⟨State.retry call, framed.goto here rfl rfl rfl (Pc.known_of_no_mention rfl rfl),
          below_retry (by simp [Pc.ahead])⟩
  | hardClose e after =>
      rw [here] at known
      simp only [State.hardClose]
      split
      · refine ⟨.disconnecting e after, framed.goto here rfl rfl rfl ?_,
          Pc.disconnecting_below e after⟩
        exact fun other mention => known other ((Pc.mentions_disconnecting e after).mp mention)
      · refine ⟨.closed e after, framed.goto here rfl rfl rfl ?_,
          lt_trans (Pc.closed_below e after) (Pc.disconnecting_below e after)⟩
        exact fun other mention => known other ((Pc.mentions_disconnecting e after).mp
          ((Pc.mentions_closed e after).mp mention))
  | closed e after => exact closed_passes registered known here
  | idle | waitingRegistry | waitingEntry | connecting | calling | disconnecting =>
      rw [here] at runs
      cases runs

/-! ### The moves of a suspended task -/

theorem resume_passes (outcome : Outcome) :
    s.resume runtime task outcome = s ∨ ∃ point,
      Passes s task point (s.resume runtime task outcome) ∧ point.Below (s.tasks task) := by
  have framed : Framed s s := .refl registered
  unfold State.resume
  cases here : s.tasks task with
  | waitingRegistry use =>
      have steps : s.resumeLock task .registry (.inRegistry use) = s ∨
          Passes s task (.inRegistry use) (s.resumeLock task .registry (.inRegistry use)) :=
        framed.resumeLock here rfl rfl rfl rfl (Pc.known_of_no_mention rfl rfl)
      exact steps.imp_right fun passes =>
        ⟨_, passes, Pc.below_of_ahead (by simp [Pc.ahead])⟩
  | waitingEntry e use =>
      rw [here] at known
      have steps : s.resumeLock task (.entry e) (.inEntry e use) = s ∨
          Passes s task (.inEntry e use) (s.resumeLock task (.entry e) (.inEntry e use)) :=
        framed.resumeLock here rfl rfl rfl rfl known
      exact steps.imp_right fun passes =>
        ⟨_, passes, Pc.below_of_ahead (by simp [Pc.ahead])⟩
  | connecting e call =>
      rw [here] at known
      have opened : Framed s (s.updateEntry e fun entry =>
          { entry with connected := true, loop := some runtime.running }) :=
        .updateEntry registered rfl
      right
      cases outcome with
      | returned =>
          exact ⟨.yielding e call, opened.goto here rfl rfl rfl known,
            Pc.below_of_ahead (by simp [Pc.ahead])⟩
      | reconnectable | otherError =>
          exact ⟨.leaving e call _, framed.goto here rfl rfl rfl known,
            Pc.below_of_ahead (by simp [Pc.ahead])⟩
  | calling e call =>
      rw [here] at known
      exact Or.inr ⟨.leaving e call outcome,
        framed.goto here rfl rfl rfl known,
        Pc.below_of_ahead (by simp [Pc.ahead])⟩
  | disconnecting e after =>
      rw [here] at known
      refine Or.inr ⟨.closed e after, framed.goto here rfl rfl rfl ?_,
        Pc.closed_below e after⟩
      exact fun other mention => known other ((Pc.mentions_closed e after).mp mention)
  | _ => exact Or.inl rfl

omit known in
theorem cancel_passes : s.cancel task = s ∨
    Passes s task .idle (s.cancel task) ∧ Pc.idle.Below (s.tasks task) := by
  have framed : Framed s s := .refl registered
  have nothing : ∀ e, Pc.idle.Mentions e → e < s.nextEntry := Pc.known_of_no_mention rfl rfl
  unfold State.cancel
  cases here : s.tasks task with
  | waitingRegistry use =>
      exact Or.inr ⟨framed.leaveQueue here rfl rfl,
        Pc.below_of_ahead (by simp [Pc.ahead])⟩
  | waitingEntry e use =>
      exact Or.inr ⟨framed.leaveQueue here rfl rfl,
        Pc.below_of_ahead (by simp [Pc.ahead])⟩
  | connecting e call | calling e call =>
      exact Or.inr ⟨framed.releaseLock here rfl rfl rfl nothing,
        Pc.below_of_ahead (by simp [Pc.ahead])⟩
  | disconnecting e after =>
      refine Or.inr ⟨framed.releaseLock here rfl rfl rfl nothing, ?_⟩
      cases after with
      | evictedIdle key stale => exact Point.rank_lt_of_victims rfl (Nat.succ_pos _)
      | _ => exact Pc.below_of_ahead (Nat.succ_pos _)
  | _ => exact Or.inl rfl

omit known in
theorem start_passes (idle : s.tasks task = .idle) (operation : Operation) :
    ∃ point, Passes s task point (s.start task operation) := by
  have framed : Framed s s := .refl registered
  cases operation with
  | callTool endpointUrl transport | listTools endpointUrl transport | evictIdle maxIdleSeconds =>
      exact ⟨_, framed.goto idle rfl rfl rfl (Pc.known_of_no_mention rfl rfl)⟩

end Running

end Passing

/-! ### The invariant -/

/-- The running task is the one that is not suspended, a task is in one operation at a time, every
lock serves its queue, and the entries that a task or the pool refers to have been created. -/
structure Live (pool : ClosablePool) : Prop where
  busy : ∀ t, pool.state.current = some t ↔ (pool.point t).isSuspended = false
  apart : ∀ t, (pool.point t).1 = .idle ∨ (pool.point t).2 = .idle
  serves : ∀ l, (pool.state.lock l).Serves (fun t => (pool.point t).holds l)
    fun t => (pool.point t).waits l
  created : ∀ t e, (pool.point t).1.Mentions e → e < pool.state.nextEntry
  registered : ∀ item ∈ pool.state.entries.items, item.2 < pool.state.nextEntry
  finite : {t | pool.point t ≠ (.idle, .idle)}.Finite

/-- A task goes on to a point, in an operation of the pool or in `aclose_all`. -/
structure Reaches (pool : ClosablePool) (task : TaskId) (point : Point) (pool' : ClosablePool) :
    Prop where
  points : pool'.point = Function.update pool.point task point
  current : pool'.state.current = if point.isSuspended then none else some task
  apart : point.1 = .idle ∨ point.2 = .idle
  treats : ∀ l, (pool.state.lock l).Treats task ((pool.point task).holds l)
    ((pool.point task).waits l) (point.holds l) (point.waits l) (pool'.state.lock l)
  grows : pool.state.nextEntry ≤ pool'.state.nextEntry
  registered : ∀ item ∈ pool'.state.entries.items, item.2 < pool'.state.nextEntry
  mentions : ∀ e, point.1.Mentions e → e < pool'.state.nextEntry

section Living

variable {runtime : Runtime} {pool pool' : ClosablePool} {task : TaskId} {point : Point} {pc : Pc}
  {closer : ClosePc} {s' : State} {new : AsyncLock TaskId}

theorem Live.reaches (live : Live pool)
    (turn : pool.state.current = none ∨ pool.state.current = some task)
    (reaches : Reaches pool task point pool') : Live pool' := by
  have here : pool'.point task = point := by rw [reaches.points, Function.update_self]
  have there : ∀ t, t ≠ task → pool'.point t = pool.point t := by
    intro t different
    rw [reaches.points, Function.update_of_ne different]
  constructor
  · intro t
    rcases eq_or_ne t task with rfl | different
    · rw [here, reaches.current]
      cases point.isSuspended with
      | true => simp
      | false => simp
    · have waits : (pool.point t).isSuspended = true := by
        rw [← Bool.not_eq_false]
        intro runs
        have now := (live.busy t).mpr runs
        rcases turn with none | same
        · rw [none] at now
          cases now
        · rw [same, Option.some.injEq] at now
          exact different now.symm
      rw [there t different, waits, reaches.current]
      split
      · simp
      · simp [different.symm]
  · intro t
    rcases eq_or_ne t task with rfl | different
    · rw [here]
      exact reaches.apart
    · rw [there t different]
      exact live.apart t
  · intro l
    have others : ∀ t, t ≠ task → ((pool'.point t).holds l ↔ (pool.point t).holds l) ∧
        ((pool'.point t).waits l ↔ (pool.point t).waits l) := by
      intro t different
      rw [there t different]
      exact ⟨Iff.rfl, Iff.rfl⟩
    apply (live.serves l).treated others
    rw [here]
    exact reaches.treats l
  · intro t e mention
    rcases eq_or_ne t task with rfl | different
    · rw [here] at mention
      exact reaches.mentions e mention
    · rw [there t different] at mention
      exact Nat.lt_of_lt_of_le (live.created t e mention) reaches.grows
  · exact reaches.registered
  · refine (live.finite.insert task).subset ?_
    intro t away
    rcases eq_or_ne t task with rfl | different
    · exact Set.mem_insert t _
    · rw [Set.mem_ofPred_eq, there t different] at away
      exact Set.mem_insert_of_mem _ away

/-- The turn of a task that is not in `aclose_all`. -/
theorem Passes.reaches (passes : Passes pool.state task pc s')
    (elsewhere : pool.closers task = .idle) :
    Reaches pool task (pc, .idle) { pool with state := s' } where
  points := by
    funext t
    rcases eq_or_ne t task with rfl | different
    · simp [ClosablePool.point, passes.tasks, elsewhere]
    · simp [ClosablePool.point, passes.tasks, different]
  current := by
    have suspended : Point.isSuspended (pc, .idle) = pc.isSuspended := Bool.and_true _
    rw [suspended]
    exact passes.current
  apart := Or.inr rfl
  treats l := by
    have here : pool.point task = (pool.state.tasks task, .idle) := by
      rw [ClosablePool.point, elsewhere]
    rw [here, Point.holds_idle, Point.waits_idle, Point.holds_idle, Point.waits_idle]
    exact passes.treats l
  grows := passes.grows
  registered := passes.registered
  mentions := passes.mentions

/-- The turn of a task in `aclose_all`, which may do something to the registry lock. -/
theorem reaches_goto (elsewhere : pool.state.tasks task = .idle)
    (tasks : s'.tasks = pool.state.tasks)
    (locks : s'.lock = Function.update pool.state.lock .registry new)
    (grows : s'.nextEntry = pool.state.nextEntry)
    (registered : ∀ item ∈ s'.entries.items, item.2 < pool.state.nextEntry)
    (treats : pool.state.registryLock.Treats task ((pool.closers task).holdsRegistry = true)
      ((pool.closers task).awaitsRegistry = true) (closer.holdsRegistry = true)
      (closer.awaitsRegistry = true) new) :
    Reaches pool task (.idle, closer) (pool.goto task s' closer) where
  points := by
    funext t
    rcases eq_or_ne t task with rfl | different
    · simp [ClosablePool.point, ClosablePool.goto, tasks, elsewhere]
    · simp [ClosablePool.point, ClosablePool.goto, tasks, different]
  current := by
    rw [Point.isSuspended]
    rfl
  apart := Or.inl rfl
  treats l := by
    have here : pool.point task = (.idle, pool.closers task) := by
      rw [ClosablePool.point, elsewhere]
    have lock : (pool.goto task s' closer).state.lock = s'.lock := by
      funext l
      cases l <;> rfl
    rw [here, Point.holds_closer, Point.waits_closer, Point.holds_closer, Point.waits_closer, lock,
      locks]
    cases l with
    | registry =>
        rw [Function.update_self]
        simp only [true_and]
        exact treats
    | entry e =>
        rw [Function.update_of_ne (by simp)]
        exact .keep (by simp) (by simp)
  grows := grows.ge
  registered item member := by
    rw [ClosablePool.goto]
    exact grows ▸ registered item member
  mentions := Pc.known_of_no_mention rfl rfl

theorem Live.blank (live : Live pool) : pool.state.lock (.entry pool.state.nextEntry) = {} := by
  have serves := live.serves (.entry pool.state.nextEntry)
  have unknown : ∀ t, ¬ (pool.point t).1.Mentions pool.state.nextEntry :=
    fun t mention => Nat.lt_irrefl _ (live.created t _ mention)
  have unlocked : (pool.state.lock (.entry pool.state.nextEntry)).locked = false := by
    rw [← Bool.not_eq_true]
    intro locked
    rcases serves.holder locked with ⟨t, held | ⟨same, _⟩⟩
    · exact unknown t (Or.inl (Pc.atEntry_of_heldLock held))
    · cases same
  have nobody : (pool.state.lock (.entry pool.state.nextEntry)).waiters = [] := by
    rw [List.eq_nil_iff_forall_not_mem]
    intro t queued
    rcases (serves.queue t).mp queued with awaited | ⟨same, _⟩
    · exact unknown t (Or.inl (Pc.atEntry_of_awaitedLock awaited))
    · cases same
  cases lock : pool.state.lock (.entry pool.state.nextEntry) with
  | mk locked waiters =>
      rw [lock] at unlocked nobody
      rw [show locked = false from unlocked, show waiters = [] from nobody]

/-! ### Turns in `aclose_all` -/

/-- A task in `aclose_all` goes on, if it can. -/
def Advances (pool : ClosablePool) (task : TaskId) (pool' : ClosablePool) : Prop :=
  ∃ point, Reaches pool task point pool' ∧ point.rank < (pool.point task).rank

theorem Live.elsewhere (live : Live pool) (closing : pool.closers task ≠ .idle) :
    pool.state.tasks task = .idle :=
  (live.apart task).resolve_right closing

theorem advances_goto {old : ClosePc} (here : pool.closers task = old)
    (elsewhere : pool.state.tasks task = .idle) (tasks : s'.tasks = pool.state.tasks)
    (locks : s'.lock = Function.update pool.state.lock .registry new)
    (grows : s'.nextEntry = pool.state.nextEntry)
    (registered : ∀ item ∈ s'.entries.items, item.2 < pool.state.nextEntry)
    (treats : pool.state.registryLock.Treats task (old.holdsRegistry = true)
      (old.awaitsRegistry = true) (closer.holdsRegistry = true) (closer.awaitsRegistry = true) new)
    (lower : closer.ahead < old.ahead ∨
      closer.ahead = old.ahead ∧ closer.victims < old.victims) :
    Advances pool task (pool.goto task s' closer) := by
  subst here
  refine ⟨(.idle, closer), reaches_goto elsewhere tasks locks grows registered treats, ?_⟩
  have point : pool.point task = (.idle, pool.closers task) := by
    rw [ClosablePool.point, elsewhere]
  rw [point]
  rcases lower with less | ⟨same, less⟩
  · exact Point.rank_lt_of_closer less
  · exact Point.rank_lt_of_left same less

theorem lock_registry {s : State} :
    ({ s with registryLock := new } : State).lock = Function.update s.lock .registry new := by
  funext l
  cases l <;> rfl

theorem lock_same {s : State} : s.lock = Function.update s.lock .registry s.registryLock := by
  funext l
  cases l <;> rfl

/-- The running task goes on in `aclose_all`. -/
theorem Live.close (live : Live pool) (runs : (pool.closers task).isSuspended = false) :
    Advances pool task (pool.close task) := by
  have elsewhere : pool.state.tasks task = .idle := by
    apply live.elsewhere
    intro idle
    rw [idle] at runs
    cases runs
  unfold ClosablePool.close
  cases here : pool.closers task with
  | lockRegistry =>
      simp only [ClosablePool.lockRegistry]
      split
      case isTrue free =>
        exact advances_goto here elsewhere rfl lock_registry rfl live.registered
          (.take free rfl Iff.rfl) (Or.inl (by decide))
      case isFalse =>
        exact advances_goto here elsewhere rfl lock_registry rfl live.registered
          (.enqueue Bool.false_ne_true Bool.false_ne_true rfl) (Or.inl (by decide))
  | inRegistry =>
      exact advances_goto here elsewhere rfl lock_same rfl live.registered (.keep id Iff.rfl)
        (Or.inl Nat.one_pos)
  | closeNext left =>
      cases left with
      | nil =>
          exact advances_goto here elsewhere rfl lock_registry rfl (by rintro item ⟨⟩)
            (.release Iff.rfl) (Or.inr ⟨rfl, Nat.one_pos⟩)
      | cons e left =>
          simp only [ClosablePool.closeNext]
          have longer : 2 * left.length + 2 < 2 * (e :: left).length + 1 := by
            rw [List.length_cons]
            omega
          split
          · exact advances_goto here elsewhere rfl lock_same rfl live.registered (.keep id Iff.rfl)
              (Or.inr ⟨rfl, longer⟩)
          · exact advances_goto here elsewhere rfl lock_same rfl live.registered (.keep id Iff.rfl)
              (Or.inr ⟨rfl, Nat.lt_of_succ_lt longer⟩)
  | idle | waitingRegistry | disconnecting _ _ =>
      rw [here] at runs
      cases runs

theorem Live.resumeClose (live : Live pool) :
    pool.resumeClose task = pool ∨ Advances pool task (pool.resumeClose task) := by
  unfold ClosablePool.resumeClose
  cases here : pool.closers task with
  | waitingRegistry =>
      have elsewhere : pool.state.tasks task = .idle := live.elsewhere (by simp [here])
      dsimp only
      split
      case isTrue woken =>
        exact Or.inr (advances_goto here elsewhere rfl lock_registry rfl live.registered
          (.resume woken rfl Bool.false_ne_true) (Or.inl (by decide)))
      case isFalse => exact Or.inl rfl
  | disconnecting e left =>
      have elsewhere : pool.state.tasks task = .idle := live.elsewhere (by simp [here])
      have lock : (pool.state.updateEntry e fun entry => { entry with connected := false }).lock =
          Function.update pool.state.lock .registry pool.state.registryLock :=
        (State.lock_updateEntry rfl).trans lock_same
      exact Or.inr (advances_goto here elsewhere rfl lock rfl live.registered (.keep id Iff.rfl)
        (Or.inr ⟨rfl, Nat.lt_succ_self _⟩))
  | _ => exact Or.inl rfl

theorem Live.cancelClose (live : Live pool) :
    pool.cancelClose task = pool ∨ Advances pool task (pool.cancelClose task) := by
  unfold ClosablePool.cancelClose
  cases here : pool.closers task with
  | waitingRegistry =>
      have elsewhere : pool.state.tasks task = .idle := live.elsewhere (by simp [here])
      exact Or.inr (advances_goto here elsewhere rfl lock_registry rfl live.registered
        (.leave Bool.false_ne_true Bool.false_ne_true) (Or.inl (by decide)))
  | disconnecting e left =>
      have elsewhere : pool.state.tasks task = .idle := live.elsewhere (by simp [here])
      exact Or.inr (advances_goto here elsewhere rfl lock_registry rfl live.registered
        (.release Iff.rfl) (Or.inr ⟨rfl, Nat.succ_pos _⟩))
  | _ => exact Or.inl rfl

end Living

/-! ### Turns of the pool -/

/-- An operation begins. -/
def PoolTurn.begins : PoolTurn → Bool
  | .turn (.move (.start _ _)) | .acloseAll _ => true
  | _ => false

/-- What a turn comes to: no task moves, or one goes on. -/
inductive Turned (pool : ClosablePool) (turn : PoolTurn) (pool' : ClosablePool) : Prop where
  | still (points : pool'.point = pool.point) (live : Live pool')
  | begins (task : TaskId) (point : Point) (free : pool.state.current = none)
      (begins : turn.begins = true) (reaches : Reaches pool task point pool')
  | advances (task : TaskId)
      (free : pool.state.current = none ∨ pool.state.current = some task)
      (advances : Advances pool task pool')

section Turning

variable {runtime : Runtime} {pool : ClosablePool} {task : TaskId} {turn : PoolTurn}

theorem Live.unmoved (live : Live pool) : Turned pool turn pool :=
  .still rfl live

theorem run_of_suspended {s : State} (waits : (s.tasks task).isSuspended = true) :
    s.run runtime task = s := by
  unfold State.run
  cases here : s.tasks task <;> simp_all [Pc.isSuspended]

/-- A task that is not in `aclose_all` goes on. -/
theorem Passes.turned (elsewhere : pool.closers task = .idle)
    (free : pool.state.current = none ∨ pool.state.current = some task) {point : Pc} {s' : State}
    (passes : Passes pool.state task point s') (below : point.Below (pool.state.tasks task)) :
    Turned pool turn { pool with state := s' } := by
  have here : pool.point task = (pool.state.tasks task, .idle) := by
    rw [ClosablePool.point, elsewhere]
  refine .advances task free ⟨(point, .idle), passes.reaches elsewhere, ?_⟩
  rw [here]
  exact below

theorem Live.move (live : Live pool) (move : Move)
    (elsewhere : ∀ task ∈ (Turn.move move).task?, pool.closers task = .idle) :
    Turned pool (.turn (.move move)) { pool with state := Pool.step runtime pool.state move } := by
  cases move with
  | tick seconds =>
      exact .still rfl ⟨live.busy, live.apart, live.serves, live.created, live.registered,
        live.finite⟩
  | start task operation =>
      simp only [Pool.step]
      split
      case isTrue ready =>
        rcases start_passes live.registered ready.2 operation with ⟨point, passes⟩
        exact .begins task (point, .idle) ready.1 rfl (passes.reaches (elsewhere task rfl))
      case isFalse => exact live.unmoved
  | run task =>
      simp only [Pool.step]
      split
      case isTrue current =>
        cases runs : (pool.state.tasks task).isSuspended with
        | true =>
            rw [run_of_suspended runs]
            exact live.unmoved
        | false =>
            rcases run_passes live.registered (live.created task) live.blank runs with
              ⟨point, passes, below⟩
            exact passes.turned (elsewhere task rfl) (Or.inr current) below
      case isFalse => exact live.unmoved
  | resume task outcome =>
      simp only [Pool.step]
      split
      case isTrue current =>
        rcases resume_passes live.registered (live.created task) outcome with
          same | ⟨point, passes, below⟩
        · rw [same]
          exact live.unmoved
        · exact passes.turned (elsewhere task rfl) (Or.inl current) below
      case isFalse => exact live.unmoved

theorem Live.taken (live : Live pool) (taken : Turn)
    (elsewhere : ∀ task ∈ taken.task?, pool.closers task = .idle) :
    Turned pool (.turn taken) { pool with state := pool.stateTurn runtime taken } := by
  cases taken with
  | move move => exact live.move move elsewhere
  | cancel task =>
      simp only [ClosablePool.stateTurn]
      split
      case isTrue current =>
        rcases cancel_passes live.registered with same | ⟨passes, below⟩
        · rw [same]
          exact live.unmoved
        · exact passes.turned (elsewhere task rfl) (Or.inl current) below
      case isFalse => exact live.unmoved

theorem close_of_suspended (waits : (pool.closers task).isSuspended = true) :
    pool.close task = pool := by
  unfold ClosablePool.close
  cases here : pool.closers task <;> simp_all [ClosePc.isSuspended]

theorem Live.turned (live : Live pool) (turn : PoolTurn) :
    Turned pool turn (pool.step runtime turn) := by
  cases turn with
  | turn turn =>
      simp only [ClosablePool.step]
      split
      case isTrue elsewhere => exact live.taken turn elsewhere
      case isFalse => exact live.unmoved
  | acloseAll task =>
      simp only [ClosablePool.step]
      split
      case isTrue ready =>
        refine .begins task (.idle, .lockRegistry) ready.1 rfl
          (reaches_goto ready.2.1 rfl lock_same rfl live.registered (.keep ?_ ?_))
        · simp [ready.2.2, ClosePc.holdsRegistry]
        · simp [ready.2.2, ClosePc.awaitsRegistry]
      case isFalse => exact live.unmoved
  | close task =>
      simp only [ClosablePool.step]
      split
      case isTrue current =>
        cases runs : (pool.closers task).isSuspended with
        | true =>
            rw [close_of_suspended runs]
            exact live.unmoved
        | false => exact .advances task (Or.inr current) (live.close runs)
      case isFalse => exact live.unmoved
  | resumeClose task =>
      simp only [ClosablePool.step]
      split
      case isTrue current =>
        rcases live.resumeClose with same | advances
        · rw [same]
          exact live.unmoved
        · exact .advances task (Or.inl current) advances
      case isFalse => exact live.unmoved
  | cancelClose task =>
      simp only [ClosablePool.step]
      split
      case isTrue current =>
        rcases live.cancelClose with same | advances
        · rw [same]
          exact live.unmoved
        · exact .advances task (Or.inl current) advances
      case isFalse => exact live.unmoved

theorem Live.step (live : Live pool) (turn : PoolTurn) : Live (pool.step runtime turn) := by
  cases live.turned turn with
  | still points live => exact live
  | begins task point free begins reaches => exact live.reaches (Or.inl free) reaches
  | advances task free advances =>
      rcases advances with ⟨point, reaches, _⟩
      exact live.reaches free reaches

theorem live_initial : Live {} where
  busy t := by simp [ClosablePool.point, Point.isSuspended, Pc.isSuspended, ClosePc.isSuspended]
  apart _ := Or.inl rfl
  serves l := by
    constructor
    · intro locked
      cases l <;> cases locked
    · intro t
      cases l <;> simp [State.lock, ClosablePool.point, Point.waits, Pc.awaitedLock,
        ClosePc.awaitsRegistry]
    · cases l <;> exact List.nodup_nil
  created _ := Pc.known_of_no_mention rfl rfl
  registered item member := by cases member
  finite := by simp [ClosablePool.point]

end Turning

/-! ### No task waits for ever -/

section Progress

variable {runtime : Runtime} {pool : ClosablePool} {task : TaskId} {s : State}

/-- A task goes on in its operation. -/
def PoolTurn.goesOn : PoolTurn → Bool
  | .turn (.move (.run _)) | .turn (.move (.resume _ _)) | .close _ | .resumeClose _ => true
  | _ => false

/-- A task that waits for no lock, or has been woken, goes on when what it awaits has returned. -/
theorem resume_moves (suspended : (s.tasks task).isSuspended = true) (away : s.tasks task ≠ .idle)
    (woken : ∀ l, (s.tasks task).awaitedLock = some l → (s.lock l).canResume task = true) :
    (s.resume runtime task .returned).tasks task ≠ s.tasks task := by
  unfold State.resume
  cases here : s.tasks task with
  | waitingRegistry use =>
      rw [here] at woken
      simp [State.resumeLock, woken .registry rfl]
  | waitingEntry e use =>
      rw [here] at woken
      simp [State.resumeLock, woken (.entry e) rfl]
  | connecting e call => simp [State.connected]
  | calling e call => simp
  | disconnecting e after => simp
  | idle => exact absurd here away
  | _ =>
      rw [here] at suspended
      cases suspended

theorem resumeClose_moves (suspended : (pool.closers task).isSuspended = true)
    (away : pool.closers task ≠ .idle)
    (woken : (pool.closers task).awaitsRegistry = true →
      pool.state.registryLock.canResume task = true) :
    (pool.resumeClose task).closers task ≠ pool.closers task := by
  unfold ClosablePool.resumeClose
  cases here : pool.closers task with
  | waitingRegistry =>
      rw [here] at woken
      simp [woken rfl, ClosablePool.goto]
  | disconnecting e left => simp [ClosablePool.goto]
  | idle => exact absurd here away
  | _ =>
      rw [here] at suspended
      cases suspended

/-- Some task can go on. -/
def GoesOn (runtime : Runtime) (pool : ClosablePool) : Prop :=
  ∃ turn : PoolTurn, turn.goesOn = true ∧ (pool.step runtime turn).point ≠ pool.point

theorem Live.resumes (live : Live pool) (free : pool.state.current = none)
    (away : pool.point task ≠ (.idle, .idle))
    (woken : ∀ l, (pool.point task).waits l → (pool.state.lock l).canResume task = true) :
    GoesOn runtime pool := by
  have suspended : (pool.point task).isSuspended = true := by
    rw [← Bool.not_eq_false, ← live.busy task, free]
    simp
  rw [Point.isSuspended, Bool.and_eq_true] at suspended
  rcases live.apart task with elsewhere | elsewhere
  · have closing : pool.closers task ≠ .idle := fun idle => away (Prod.ext elsewhere idle)
    refine ⟨.resumeClose task, rfl, ?_⟩
    intro same
    apply resumeClose_moves suspended.2 closing fun awaits => woken .registry (Or.inr ⟨rfl, awaits⟩)
    have closer := congrArg Prod.snd (congrFun same task)
    rwa [ClosablePool.step, if_pos free] at closer
  · have busy : pool.state.tasks task ≠ .idle := fun idle => away (Prod.ext idle elsewhere)
    have outside : ∀ t ∈ (Turn.move (.resume task .returned)).task?, pool.closers t = .idle := by
      rintro t ⟨⟩
      exact elsewhere
    refine ⟨.turn (.move (.resume task .returned)), rfl, ?_⟩
    intro same
    apply resume_moves suspended.1 busy fun l awaits => woken l (Or.inl awaits)
    have pc := congrArg Prod.fst (congrFun same task)
    rw [ClosablePool.step, if_pos outside] at pc
    simpa only [ClosablePool.point, ClosablePool.stateTurn, Pool.step, if_pos free] using pc

theorem Point.waits_of_apart {point : Point} {l : LockId}
    (apart : point.1 = .idle ∨ point.2 = .idle) (waits : point.waits l) :
    ∀ other, ¬ point.holds other ∧ (point.waits other → l = other) := by
  rcases point with ⟨pc, closer⟩
  intro other
  rcases apart with idle | idle
  · rw [show pc = .idle from idle] at waits ⊢
    rw [waits_closer] at waits
    rw [holds_closer, waits_closer, waits.1]
    refine ⟨?_, fun same => same.1.symm⟩
    rintro ⟨_, held⟩
    cases closer <;> simp_all [ClosePc.holdsRegistry, ClosePc.awaitsRegistry]
  · rw [show closer = .idle from idle] at waits ⊢
    rw [waits_idle] at waits
    rw [holds_idle, waits_idle, waits, Option.some.injEq]
    refine ⟨?_, id⟩
    intro held
    cases pc <;> simp_all [Pc.heldLock, Pc.awaitedLock]

/-- The running task goes on. -/
theorem Live.runs (live : Live pool) (current : pool.state.current = some task) :
    GoesOn runtime pool := by
  have runs := (live.busy task).mp current
  rw [Point.isSuspended, Bool.and_eq_false_iff] at runs
  rcases runs with runs | runs
  · have elsewhere : pool.closers task = .idle := by
      apply (live.apart task).resolve_left
      intro idle
      rw [idle] at runs
      cases runs
    have outside : ∀ t ∈ (Turn.move (.run task)).task?, pool.closers t = .idle := by
      rintro t ⟨⟩
      exact elsewhere
    refine ⟨.turn (.move (.run task)), rfl, ?_⟩
    have moves : ∃ point, Passes pool.state task point (pool.state.run runtime task) ∧
        point.Below (pool.state.tasks task) :=
      run_passes live.registered (live.created task) live.blank runs
    rcases moves with ⟨point, passes, below⟩
    intro same
    have pc := congrArg Prod.fst (congrFun same task)
    rw [ClosablePool.step, if_pos outside] at pc
    simp only [ClosablePool.point, ClosablePool.stateTurn, Pool.step, if_pos current, passes.tasks,
      Function.update_self] at pc
    rw [pc] at below
    exact lt_irrefl _ below
  · rcases live.close runs with ⟨point, reaches, below⟩
    refine ⟨.close task, rfl, ?_⟩
    rw [ClosablePool.step, if_pos current, reaches.points]
    intro same
    have there := congrFun same task
    rw [Function.update_self] at there
    rw [there] at below
    exact lt_irrefl _ below

/-- A task that waits for a lock waits for one that goes on. -/
theorem Live.goesOn (live : Live pool) (away : pool.point task ≠ (.idle, .idle)) :
    GoesOn runtime pool := by
  cases current : pool.state.current with
  | some running => exact live.runs current
  | none =>
      by_cases waiting : ∃ l, (pool.point task).waits l
      · rcases waiting with ⟨l, waits⟩
        rcases (live.serves l).progress waits with ⟨holder, holds⟩ | ⟨oldest, first, woken⟩
        · have away : pool.point holder ≠ (.idle, .idle) := by
            intro rest
            simp [rest, Point.holds, Pc.heldLock, ClosePc.holdsRegistry] at holds
          apply live.resumes current away
          intro other waits
          exact absurd holds (Point.waits_of_apart (live.apart holder) waits l).1
        · have away : pool.point oldest ≠ (.idle, .idle) := by
            intro rest
            simp [rest, Point.waits, Pc.awaitedLock, ClosePc.awaitsRegistry] at first
          apply live.resumes current away
          intro other waits
          rw [← (Point.waits_of_apart (live.apart oldest) first other).2 waits]
          exact woken
      · exact live.resumes current away fun l waits => absurd ⟨l, waits⟩ waiting

end Progress

/-! ### Every run -/

/-- A turn after which a task is at another control point, and that begins no operation. -/
def Moves (runtime : Runtime) (pool pool' : ClosablePool) : Prop :=
  ∃ turn : PoolTurn, turn.begins = false ∧ pool' = pool.step runtime turn ∧
    pool'.point ≠ pool.point

/-- While a task is in an operation, some task can go on; and the turns of the tasks come to an
end when no operation begins any more. -/
structure ComesToRest (runtime : Runtime) (pool : ClosablePool) : Prop where
  goesOn : (∃ task, pool.point task ≠ (.idle, .idle)) → GoesOn runtime pool
  ends : ¬ ∃ run : ℕ → ClosablePool, run 0 = pool ∧ ∀ n, Moves runtime (run n) (run (n + 1))

theorem draining (runtime : Runtime) :
    Draining ClosablePool.point (.idle, .idle) Point.rank Live (Moves runtime) where
  lowest := Point.not_rank_lt
  safe_next := by
    rintro pool _ live ⟨turn, _, rfl, _⟩
    exact live.step turn
  lowers := by
    rintro pool _ live ⟨turn, goes, rfl, moved⟩
    cases live.turned turn with
    | still points => exact absurd points moved
    | begins task point free begins =>
        rw [goes] at begins
        cases begins
    | advances task free advances =>
        rcases advances with ⟨point, reaches, below⟩
        refine ⟨task, ?_, ?_⟩
        · rw [reaches.points, Function.update_self]
          exact below
        · intro other different
          rw [reaches.points, Function.update_of_ne different]

theorem Live.comesToRest {pool : ClosablePool} (runtime : Runtime) (live : Live pool) :
    ComesToRest runtime pool where
  goesOn := by
    rintro ⟨task, away⟩
    exact live.goesOn away
  ends := (draining runtime).no_endless_run live live.finite

/-- In every run of the pool, with cancellations and `aclose_all`, no task waits for ever, and no
run goes on for ever in which no operation begins. -/
theorem pool_comes_to_rest (runtime : Runtime) (turns : List PoolTurn) :
    EachState (ClosablePool.step runtime) (ComesToRest runtime) {} turns := by
  have free : EachStep (ClosablePool.step runtime) (fun _ _ => True) {} turns :=
    fun _ _ _ _ => trivial
  have kept : EachState (ClosablePool.step runtime) Live {} turns :=
    free.invariant live_initial fun _ turn live _ => live.step turn
  exact kept.mono fun _ live => live.comesToRest runtime

end GrafuxMcp.Pool
