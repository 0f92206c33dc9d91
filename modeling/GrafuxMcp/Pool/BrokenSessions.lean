import GrafuxMcp.Pool.McpClient

/-! # Broken sessions

A task whose round trip ends with a reconnectable error gives the lock of the entry
back, and keeps the event loop until it has found the entry and queued for its lock
again. The session that has raised stays with the wrapper until then. -/

namespace GrafuxMcp.Pool

/-! ### Control points -/

namespace Pc

/-- The round trip that the task is in. -/
def trip : Pc → Option (EntryId × Call)
  | .calling e call => some (e, call)
  | _ => none

/-- The task is queued for the lock of an entry, to close it as broken. -/
def marks : Pc → Option EntryId
  | .waitingEntry e (.markBroken _) => some e
  | _ => none

end Pc

/-- The first task that is queued for the entry, if any, is going to close it as
broken. -/
def MarkedFirst (s : State) (e : EntryId) : Prop :=
  ∀ t ∈ (s.entry e).lock.waiters.head?, (s.tasks t).marks = some e

/-! ### The property and its condition -/

/-- Whenever `acquire` yields an endpoint, every session of it that has raised a
reconnectable error has been disconnected, its wrapper has been connected since, and
the session in hand is not one of them. -/
structure Replaced (w : Clients) : Prop where
  disconnected : ∀ t e, (w.state.tasks t).yields = some e →
    ∀ e', (w.state.entry e').wrapper = (w.state.entry e).wrapper →
      ∀ session ∈ (w.client e').raised, session ∈ (w.client e').disconnected
  reconnected : ∀ t e, (w.state.tasks t).yields = some e → isReady e w.sessions.history = true
  unused : ∀ t e, (w.state.tasks t).yields = some e → (w.client e).isBroken = false

/-- When a session has raised a reconnectable error, the fallback of the round trip
does too, in the first attempt of the call, and the entry is closed before the next
task uses it. Neither the round trip nor a task queued to close the entry is
cancelled, nor any task inside `wrapper.disconnect`, and no task is queued for an
entry that is selected for eviction, to use its session. -/
def Surfaces (runtime : Runtime) (w : Clients) : ClientTurn → Prop
  | .run task => EvictsUnawaited runtime w.state (.run task)
  | .resume task peer =>
      ∀ use ∈ (w.state.tasks task).trip, w.awaits task = .http →
        (w.client use.1).isBroken = true →
          peer.http = .reconnectable ∧ use.2.isFirst = true ∧ MarkedFirst w.state use.1
  | .cancel task =>
      (w.state.tasks task).inDisconnect = none ∧
        (∀ use ∈ (w.state.tasks task).trip, (w.client use.1).isBroken = false) ∧
        ∀ e ∈ (w.state.tasks task).marks, (w.client e).isBroken = false
  | .tick _ | .start _ _ => True

instance (s : State) (e : EntryId) : Decidable (MarkedFirst s e) :=
  inferInstanceAs (Decidable (∀ t ∈ (s.entry e).lock.waiters.head?, (s.tasks t).marks = some e))

instance (runtime : Runtime) (w : Clients) : (turn : ClientTurn) →
    Decidable (Surfaces runtime w turn)
  | .run task => inferInstanceAs (Decidable (EvictsUnawaited runtime w.state (.run task)))
  | .resume task peer => inferInstanceAs (Decidable
      (∀ use ∈ (w.state.tasks task).trip, w.awaits task = .http →
        (w.client use.1).isBroken = true →
          peer.http = .reconnectable ∧ use.2.isFirst = true ∧ MarkedFirst w.state use.1))
  | .cancel task => inferInstanceAs (Decidable
      ((w.state.tasks task).inDisconnect = none ∧
        (∀ use ∈ (w.state.tasks task).trip, (w.client use.1).isBroken = false) ∧
        ∀ e ∈ (w.state.tasks task).marks, (w.client e).isBroken = false))
  | .tick _ | .start _ _ => isTrue trivial

/-! ### What a move changes -/

section Moves

variable {runtime : Runtime} {s : State} {task t : TaskId} {point inside waiting : Pc}
  {l other : LockId} {e : EntryId}

theorem State.lock_setLock_goto {value : AsyncLock TaskId}
    (change : (s.lock l).Change task value) :
    (s.lock other).Change task (((s.setLock l value).goto task point).lock other) := by
  rw [State.lock_goto, State.lock_setLock]
  rcases eq_or_ne other l with rfl | different
  · rw [Function.update_self]
    exact change
  · rw [Function.update_of_ne different]
    exact .none

theorem State.change_goto : (s.lock other).Change task ((s.goto task point).lock other) := by
  rw [State.lock_goto]
  exact .none

theorem State.change_acquireLock :
    (s.lock other).Change task ((s.acquireLock task l inside waiting).lock other) := by
  unfold State.acquireLock
  split
  case isTrue free => exact State.lock_setLock_goto (.take free)
  case isFalse => exact State.lock_setLock_goto .enqueue

theorem State.change_resumeLock :
    (s.lock other).Change task ((s.resumeLock task l point).lock other) := by
  unfold State.resumeLock
  split
  case isTrue woken => exact State.lock_setLock_goto (.resume woken)
  case isFalse => exact .none

theorem Safe.change_releaseLock (safe : Safe s) (held : (s.tasks task).heldLock = some l) :
    (s.lock other).Change task ((s.releaseLock task l point).lock other) :=
  State.lock_setLock_goto (.release (safe.locks.held task l held))

theorem Safe.change_closed (safe : Safe s) {after : AfterClose}
    (here : s.tasks task = .closed e after) :
    (s.lock other).Change task ((s.closed task e after).lock other) := by
  have cleared : Safe (s.updateEntry e fun entry => { entry with connected := false }) :=
    safe.updateEntry rfl
  have locks : (s.updateEntry e fun entry => { entry with connected := false }).lock = s.lock :=
    State.lock_updateEntry rfl
  unfold State.closed
  rw [← locks]
  cases after with
  | rebound call => exact State.change_goto
  | broken call => exact cleared.change_releaseLock (congrArg Pc.heldLock here)
  | evictedToCapacity key call | evictedIdle key stale =>
      rw [State.lock_goto]
      cases other <;> exact .none

theorem Safe.change_getEntry (safe : Safe s) {call : Call}
    (here : s.tasks task = .inRegistry (.getEntry call)) :
    (s.lock other).Change task ((s.getEntry runtime task call).lock other) := by
  have pruned : Safe (s.pruneClosedLoops runtime) :=
    safe.frame rfl rfl rfl rfl fun _ => OrderedDict.mem_of_mem_filter
  have locks : (s.pruneClosedLoops runtime).lock = s.lock := rfl
  rw [← locks]
  simp only [State.getEntry]
  split
  · exact pruned.change_releaseLock (congrArg Pc.heldLock here)
  · split <;> exact State.change_goto

/-- The lock of an entry that is being created is new. -/
theorem Safe.change_create (safe : Safe s) {call : Call} (here : s.tasks task = .create call)
    (known : other ≠ .entry s.nextEntry) :
    (s.lock other).Change task ((s.create task call).lock other) := by
  let fresh : Entry :=
    { wrapper := ⟨call.endpointUrl, call.transport⟩, lastUsed := s.clock }
  let created : State := { s.updateEntry s.nextEntry (fun _ => fresh) with
    nextEntry := s.nextEntry + 1
    entries := s.entries.set call.key s.nextEntry }
  have same : created.lock other = s.lock other := by
    cases other with
    | registry => rfl
    | entry e =>
        have different : e ≠ s.nextEntry := fun equal => known (by rw [equal])
        simp [State.lock, created, State.updateEntry, different]
  have locked : created.lock .registry = s.lock .registry := rfl
  have held := safe.locks.held task .registry (by rw [here]; rfl)
  rw [← same]
  exact State.lock_setLock_goto (.release (by rw [locked]; exact held))

/-- A move of the running task changes the locks as one task can. -/
theorem Safe.change_run (safe : Safe s) (known : other ≠ .entry s.nextEntry) :
    (s.lock other).Change task ((s.run runtime task).lock other) := by
  unfold State.run
  cases here : s.tasks task with
  | lockRegistry use | lockEntry e use => exact State.change_acquireLock
  | inRegistry use =>
      cases use with
      | getEntry call => exact safe.change_getEntry here
      | evictIdle now maxIdleSeconds => exact State.change_goto
  | create call => exact safe.change_create here known
  | evictStale stale =>
      cases stale with
      | nil => exact safe.change_releaseLock (congrArg Pc.heldLock here)
      | cons item stale => exact State.change_goto
  | inEntry e use =>
      cases use with
      | acquire call =>
          simp only [State.acquire]
          split <;> exact State.change_goto
      | markBroken call => exact State.change_goto
  | connect e call =>
      simp only [State.connect]
      split <;> exact State.change_goto
  | yielding e call =>
      simp only [State.yielding, State.lock_goto]
      rw [State.lock_updateEntry rfl]
      exact .none
  | leaving e call outcome =>
      simp only [State.leaving]
      split <;> exact safe.change_releaseLock (congrArg Pc.heldLock here)
  | markBroken call =>
      simp only [State.markBroken]
      split <;> exact State.change_goto
  | hardClose e after =>
      simp only [State.hardClose]
      split <;> exact State.change_goto
  | closed e after => exact safe.change_closed here
  | _ => exact .none

theorem State.change_resume {outcome : Outcome} :
    (s.lock other).Change task ((s.resume runtime task outcome).lock other) := by
  unfold State.resume
  cases s.tasks task with
  | waitingRegistry use | waitingEntry e use => exact State.change_resumeLock
  | connecting e call =>
      cases outcome with
      | returned =>
          simp only [State.connected, State.lock_goto]
          rw [State.lock_updateEntry rfl]
          exact .none
      | _ => exact State.change_goto
  | calling e call | disconnecting e after => exact State.change_goto
  | _ => exact .none

theorem Safe.change_cancel (safe : Safe s) :
    (s.lock other).Change task ((s.cancel task).lock other) := by
  unfold State.cancel
  cases here : s.tasks task with
  | waitingRegistry use | waitingEntry e use => exact State.lock_setLock_goto .leave
  | connecting e call | calling e call | disconnecting e after =>
      exact safe.change_releaseLock (congrArg Pc.heldLock here)
  | _ => exact .none

/-! ### Other tasks stay where they are -/

theorem State.tasks_setLock_goto (different : t ≠ task) {value : AsyncLock TaskId} :
    ((s.setLock l value).goto task point).tasks t = s.tasks t := by
  rw [State.tasks_goto, Function.update_of_ne different, State.tasks_setLock]

theorem State.tasks_acquireLock (different : t ≠ task) :
    (s.acquireLock task l inside waiting).tasks t = s.tasks t := by
  unfold State.acquireLock
  split <;> exact State.tasks_setLock_goto different

theorem State.tasks_resumeLock (different : t ≠ task) :
    (s.resumeLock task l point).tasks t = s.tasks t := by
  unfold State.resumeLock
  split
  · exact State.tasks_setLock_goto different
  · rfl

theorem State.tasks_run (different : t ≠ task) : (s.run runtime task).tasks t = s.tasks t := by
  have goes : ∀ point, Function.update s.tasks task point t = s.tasks t :=
    fun _ => Function.update_of_ne different ..
  unfold State.run
  cases s.tasks task with
  | lockRegistry use | lockEntry e use => exact State.tasks_acquireLock different
  | inRegistry use =>
      cases use with
      | getEntry call =>
          simp only [State.getEntry]
          split
          · exact State.tasks_setLock_goto different
          · split <;> exact goes _
      | evictIdle now maxIdleSeconds => exact goes _
  | create call => exact State.tasks_setLock_goto different
  | evictStale stale =>
      cases stale with
      | nil => exact State.tasks_setLock_goto different
      | cons item stale => exact goes _
  | inEntry e use =>
      cases use with
      | acquire call =>
          simp only [State.acquire]
          split <;> exact goes _
      | markBroken call => exact goes _
  | connect e call =>
      simp only [State.connect]
      split <;> exact goes _
  | yielding e call => exact goes _
  | leaving e call outcome =>
      simp only [State.leaving]
      split <;> exact State.tasks_setLock_goto different
  | markBroken call =>
      simp only [State.markBroken]
      split <;> exact goes _
  | hardClose e after =>
      simp only [State.hardClose]
      split <;> exact goes _
  | closed e after =>
      cases after with
      | broken call => exact State.tasks_setLock_goto different
      | _ => exact goes _
  | _ => rfl

/-- Only `acquire` leads into a round trip. -/
theorem State.of_calling_run {call : Call}
    (calls : (s.run runtime task).tasks task = .calling e call) :
    s.tasks task = .calling e call ∨ s.tasks task = .yielding e call := by
  cases here : s.tasks task with
  | yielding e' call' =>
      simp only [State.run, here, State.yielding, State.tasks_goto, Function.update_self] at calls
      cases calls
      exact Or.inr rfl
  | calling e' call' =>
      simp only [State.run, here] at calls
      exact Or.inl calls
  | inRegistry use =>
      cases use with
      | getEntry call' =>
          simp only [State.run, here, State.getEntry] at calls
          split at calls
          · simp [State.releaseLock] at calls
          · split at calls <;> simp at calls
      | evictIdle now maxIdleSeconds => simp [State.run, here] at calls
  | evictStale stale =>
      cases stale <;> simp [State.run, here, State.evictStale, State.releaseLock] at calls
  | inEntry e' use =>
      cases use with
      | acquire call' =>
          simp only [State.run, here, State.acquire] at calls
          split at calls <;> simp at calls
      | markBroken call' => simp [State.run, here] at calls
  | lockRegistry use | lockEntry e' use =>
      simp only [State.run, here, State.acquireLock] at calls
      split at calls <;> simp at calls
  | create call' => simp [State.run, here, State.create, State.releaseLock] at calls
  | connect e' call' =>
      simp only [State.run, here, State.connect] at calls
      split at calls <;> simp at calls
  | leaving e' call' outcome =>
      simp only [State.run, here, State.leaving, State.releaseLock] at calls
      split at calls <;> simp at calls
  | markBroken call' =>
      simp only [State.run, here, State.markBroken, State.retry] at calls
      split at calls <;> simp at calls
  | hardClose e' after =>
      simp only [State.run, here, State.hardClose] at calls
      split at calls <;> simp at calls
  | closed e' after =>
      cases after <;> simp [State.run, here, State.closed, State.releaseLock, State.retry] at calls
  | idle | waitingRegistry _ | waitingEntry _ _ | connecting _ _ | disconnecting _ _ =>
      simp only [State.run, here] at calls
      cases calls

theorem State.tasks_resume (different : t ≠ task) {outcome : Outcome} :
    (s.resume runtime task outcome).tasks t = s.tasks t := by
  have goes : ∀ point, Function.update s.tasks task point t = s.tasks t :=
    fun _ => Function.update_of_ne different ..
  unfold State.resume
  cases s.tasks task with
  | waitingRegistry use | waitingEntry e use => exact State.tasks_resumeLock different
  | connecting e call => cases outcome <;> exact goes _
  | calling e call | disconnecting e after => exact goes _
  | _ => rfl

theorem State.of_calling_resume {outcome : Outcome} {call : Call}
    (calls : (s.resume runtime task outcome).tasks task = .calling e call) :
    s.tasks task = .calling e call := by
  cases here : s.tasks task with
  | waitingRegistry use | waitingEntry e' use =>
      simp only [State.resume, here, State.resumeLock] at calls
      split at calls
      · simp at calls
      · rw [here] at calls
        cases calls
  | connecting e' call' =>
      cases outcome <;> simp [State.resume, here, State.connected] at calls
  | calling e' call' | disconnecting e' after => simp [State.resume, here] at calls
  | _ =>
      simp only [State.resume, here] at calls
      cases calls

theorem State.of_calling_cancel {call : Call}
    (calls : (s.cancel task).tasks task = .calling e call) : s.tasks task = .calling e call := by
  cases here : s.tasks task with
  | waitingRegistry use | waitingEntry e' use =>
      simp [State.cancel, here, State.leaveQueue] at calls
  | connecting e' call' | calling e' call' | disconnecting e' after =>
      simp [State.cancel, here, State.releaseLock] at calls
  | _ =>
      simp only [State.cancel, here] at calls
      cases calls

theorem State.tasks_cancel (different : t ≠ task) : (s.cancel task).tasks t = s.tasks t := by
  unfold State.cancel
  cases s.tasks task with
  | waitingRegistry use | waitingEntry e use | connecting e call | calling e call
  | disconnecting e after => exact State.tasks_setLock_goto different
  | _ => rfl

end Moves

/-! ### On the way to the disconnect -/

/-- The entry is going to be closed as broken before another task uses it. -/
inductive Repairing (s : State) (awaits : TaskId → RoundTrip) (e : EntryId) : Prop where
  | surfacing (t : TaskId) (call : Call) (here : s.tasks t = .calling e call)
      (awaited : awaits t = .http)
  | leaving (t : TaskId) (call : Call) (current : s.current = some t)
      (here : s.tasks t = .leaving e call .reconnectable) (first : call.isFirst = true)
      (registered : s.entries.get call.key = some e) (queue : MarkedFirst s e)
  | marking (t : TaskId) (call : Call) (current : s.current = some t)
      (here : s.tasks t = .markBroken call)
      (registered : s.entries.get call.key = some e) (queue : MarkedFirst s e)
      (unlocked : (s.lock (.entry e)).locked = false)
  | locking (t : TaskId) (call : Call) (current : s.current = some t)
      (here : s.tasks t = .lockEntry e (.markBroken call)) (queue : MarkedFirst s e)
      (unlocked : (s.lock (.entry e)).locked = false)
  | entering (t : TaskId) (call : Call) (current : s.current = some t)
      (here : s.tasks t = .inEntry e (.markBroken call))
  | closing (t : TaskId) (call : Call) (current : s.current = some t)
      (here : s.tasks t = .hardClose e (.broken call))
  | queued (t : TaskId) (woken : (s.lock (.entry e)).canResume t = true)
      (marks : (s.tasks t).marks = some e)

section Repairs

variable {runtime : Runtime} {s s' : State} {awaits awaits' : TaskId → RoundTrip}
  {task : TaskId} {e : EntryId}

/-- No task but the one that repairs the entry holds its lock, and it does not use the
session. -/
theorem Repairing.not_holding (repairing : Repairing s awaits e) (safe : Safe s)
    (holds : (s.tasks task).heldLock = some (.entry e))
    (calls : (s.tasks task).trip = none ∨ ∃ session, awaits task = .sdk session)
    (current : s.current = none) : False := by
  cases repairing with
  | surfacing t call here awaited =>
      have same := safe.locks.exclusive t task (.entry e) (congrArg Pc.heldLock here) holds
      rw [← same] at calls
      rcases calls with none_ | ⟨session, awaits⟩
      · rw [here] at none_
        cases none_
      · rw [awaited] at awaits
        cases awaits
  | queued t woken marks =>
      have locked := safe.locks.held task _ holds
      rw [AsyncLock.locked_eq_false_of_canResume woken] at locked
      cases locked
  | leaving t call running | marking t call running | locking t call running
  | entering t call running | closing t call running =>
      rw [current] at running
      cases running

theorem Repairing.not_yielded (repairing : Repairing s awaits e) (safe : Safe s)
    (yielded : (s.tasks task).yields = some e) : False := by
  have uses := Pc.acquired_of_yields yielded
  have running : s.current = some task := by
    apply safe.placed.running
    cases point : s.tasks task <;> simp_all [Pc.yields, Pc.isSuspended]
  cases repairing with
  | surfacing t call here awaited =>
      have same := safe.locks.exclusive t task (.entry e) (congrArg Pc.heldLock here) uses.2
      rw [← same, here] at yielded
      cases yielded
  | queued t woken marks =>
      have locked := safe.locks.held task _ uses.2
      rw [AsyncLock.locked_eq_false_of_canResume woken] at locked
      cases locked
  | leaving t call current here | marking t call current here | locking t call current here
  | entering t call current here | closing t call current here =>
      rw [running, Option.some.injEq] at current
      rw [current, here] at yielded
      cases yielded

theorem MarkedFirst.of_tasks (queue : MarkedFirst s e)
    (waiters : (s'.entry e).lock.waiters = (s.entry e).lock.waiters)
    (others : ∀ t, t ≠ task → s'.tasks t = s.tasks t)
    (unmarked : (s.tasks task).marks = none) : MarkedFirst s' e := by
  intro t first
  rw [waiters] at first
  have marks := queue t first
  have different : t ≠ task := by
    intro equal
    rw [equal, unmarked] at marks
    cases marks
  rw [others t different]
  exact marks

theorem MarkedFirst.goto {point : Pc} (queue : MarkedFirst s e)
    (unmarked : (s.tasks task).marks = none) : MarkedFirst (s.goto task point) e := by
  have others : ∀ t, t ≠ task → (s.goto task point).tasks t = s.tasks t :=
    fun t different => Function.update_of_ne different ..
  exact queue.of_tasks rfl others unmarked

/-- The task that repairs the entry has given its lock back. -/
theorem Repairing.leave {call : Call} (here : s.tasks task = .leaving e call .reconnectable)
    (first : call.isFirst = true) (registered : s.entries.get call.key = some e)
    (queue : MarkedFirst s e) :
    Repairing (s.leaving task e call .reconnectable) awaits e := by
  have released : s.leaving task e call .reconnectable =
      s.releaseLock task (.entry e) (.markBroken call) := by
    simp [State.leaving, first]
  have lock : (s.releaseLock task (.entry e) (.markBroken call)).lock (.entry e) =
      (s.lock (.entry e)).release := by
    rw [State.releaseLock, State.lock_goto, State.lock_setLock, Function.update_self]
  rw [released]
  apply Repairing.marking task call rfl (Function.update_self ..)
  · exact registered
  · have waiters : ((s.releaseLock task (.entry e) (.markBroken call)).lock (.entry e)).waiters =
        (s.lock (.entry e)).waiters := by
      rw [lock]
      rfl
    apply queue.of_tasks waiters
    · exact fun t different => State.tasks_setLock_goto different
    · rw [here]
      rfl
  · rw [lock]
    rfl

/-- The task that repairs the entry asks for its lock again. -/
theorem Repairing.lock {call : Call} (here : s.tasks task = .lockEntry e (.markBroken call))
    (queue : MarkedFirst s e) (unlocked : (s.lock (.entry e)).locked = false) :
    Repairing (s.acquireLock task (.entry e) (.inEntry e (.markBroken call))
      (.waitingEntry e (.markBroken call))) awaits e := by
  have others : ∀ t, t ≠ task → (s.acquireLock task (.entry e) (.inEntry e (.markBroken call))
      (.waitingEntry e (.markBroken call))).tasks t = s.tasks t :=
    fun t different => State.tasks_acquireLock different
  unfold State.acquireLock at others ⊢
  split
  case isTrue free => exact .entering task call rfl (Function.update_self ..)
  case isFalse taken =>
    rw [if_neg taken] at others
    cases waiters : (s.lock (.entry e)).waiters with
    | nil => simp [AsyncLock.isFree, unlocked, waiters] at taken
    | cons first rest =>
        have marks : (s.tasks first).marks = some e := by
          apply queue
          change (s.lock (.entry e)).waiters.head? = some first
          rw [waiters]
          rfl
        have different : first ≠ task := by
          intro equal
          rw [equal, here] at marks
          cases marks
        apply Repairing.queued first
        · rw [State.lock_goto, State.lock_setLock, Function.update_self]
          simp [AsyncLock.canResume, AsyncLock.enqueue, unlocked, waiters]
        · rw [others first different]
          exact marks

/-- The running task does not close the entry. -/
theorem Repairing.run (repairing : Repairing s awaits e) (safe : Safe s)
    (current : s.current = some task) (known : e < s.nextEntry)
    (elsewhere : ∀ after, s.tasks task ≠ .hardClose e after)
    (agree : ∀ t e call, s.tasks t = .calling e call → awaits' t = awaits t) :
    Repairing (s.run runtime task) awaits' e := by
  have old : LockId.entry e ≠ .entry s.nextEntry := by
    intro equal
    rw [LockId.entry.injEq] at equal
    exact Nat.ne_of_lt known equal
  cases repairing with
  | surfacing t call here awaited =>
      rw [← agree t e call here] at awaited
      rcases eq_or_ne t task with rfl | different
      · have stays : s.run runtime t = s := by simp [State.run, here]
        rw [stays]
        exact .surfacing t call here awaited
      · exact .surfacing t call ((State.tasks_run different).trans here) awaited
  | leaving t call running here first registered queue =>
      obtain rfl : task = t := Option.some.inj (current.symm.trans running)
      have moves : s.run runtime task = s.leaving task e call .reconnectable := by
        simp [State.run, here]
      rw [moves]
      exact .leave here first registered queue
  | marking t call running here registered queue unlocked =>
      obtain rfl : task = t := Option.some.inj (current.symm.trans running)
      have moves : s.run runtime task = s.goto task (.lockEntry e (.markBroken call)) := by
        simp [State.run, here, State.markBroken, registered]
      rw [moves]
      apply Repairing.locking task call rfl (Function.update_self ..)
      · exact queue.goto (by rw [here]; rfl)
      · rw [State.lock_goto]
        exact unlocked
  | locking t call running here queue unlocked =>
      obtain rfl : task = t := Option.some.inj (current.symm.trans running)
      have moves : s.run runtime task = s.acquireLock task (.entry e)
          (.inEntry e (.markBroken call)) (.waitingEntry e (.markBroken call)) := by
        simp [State.run, here]
      rw [moves]
      exact .lock here queue unlocked
  | entering t call running here =>
      obtain rfl : task = t := Option.some.inj (current.symm.trans running)
      have moves : s.run runtime task = s.goto task (.hardClose e (.broken call)) := by
        simp [State.run, here]
      rw [moves]
      exact .closing task call rfl (Function.update_self ..)
  | closing t call running here =>
      obtain rfl : task = t := Option.some.inj (current.symm.trans running)
      exact absurd here (elsewhere _)
  | queued t woken marks =>
      rcases eq_or_ne t task with rfl | different
      · have stays : s.run runtime t = s := by
          cases point : s.tasks t <;> simp_all [Pc.marks, State.run]
        rw [stays]
        exact .queued t woken marks
      · apply Repairing.queued t
        · exact (safe.change_run old).first different woken
        · rw [State.tasks_run different]
          exact marks

/-- A suspended task is resumed. -/
theorem Repairing.resume (repairing : Repairing s awaits e) (current : s.current = none)
    {outcome : Outcome}
    (surfaces : ∀ call, s.tasks task = .calling e call → awaits task = .http →
      outcome = .reconnectable ∧ call.isFirst = true ∧ s.entries.get call.key = some e ∧
        MarkedFirst s e) :
    Repairing (s.resume runtime task outcome) awaits e := by
  cases repairing with
  | surfacing t call here awaited =>
      rcases eq_or_ne t task with rfl | different
      · have ends := surfaces call here awaited
        have moves : s.resume runtime t outcome = s.goto t (.leaving e call outcome) := by
          simp [State.resume, here]
        have queue : MarkedFirst (s.goto t (.leaving e call .reconnectable)) e :=
          ends.2.2.2.goto (by rw [here]; rfl)
        have point : (s.goto t (.leaving e call .reconnectable)).tasks t =
            .leaving e call .reconnectable := Function.update_self ..
        rw [moves, ends.1]
        exact .leaving t call rfl point ends.2.1 ends.2.2.1 queue
      · exact .surfacing t call ((State.tasks_resume different).trans here) awaited
  | queued t woken marks =>
      rcases eq_or_ne t task with rfl | different
      · cases here : s.tasks t with
        | waitingEntry e' use =>
            cases use with
            | acquire call =>
                rw [here] at marks
                cases marks
            | markBroken call =>
                obtain rfl : e' = e := by simpa [here, Pc.marks] using marks
                have moves : s.resume runtime t outcome =
                    (s.setLock (.entry e') (s.lock (.entry e')).resume).goto t
                      (.inEntry e' (.markBroken call)) := by
                  simp [State.resume, here, State.resumeLock, woken]
                rw [moves]
                exact .entering t call rfl (Function.update_self ..)
        | _ =>
            rw [here] at marks
            cases marks
      · apply Repairing.queued t
        · exact State.change_resume.first different woken
        · rw [State.tasks_resume different]
          exact marks
  | leaving t call running | marking t call running | locking t call running
  | entering t call running | closing t call running =>
      rw [current] at running
      cases running

theorem Repairing.cancel (repairing : Repairing s awaits e) (safe : Safe s)
    (current : s.current = none) (calls : ∀ call, s.tasks task ≠ .calling e call)
    (unmarked : (s.tasks task).marks ≠ some e) : Repairing (s.cancel task) awaits e := by
  cases repairing with
  | surfacing t call here awaited =>
      have different : t ≠ task := by
        rintro rfl
        exact calls call here
      exact .surfacing t call ((State.tasks_cancel different).trans here) awaited
  | queued t woken marks =>
      have different : t ≠ task := by
        rintro rfl
        exact unmarked marks
      apply Repairing.queued t
      · exact safe.change_cancel.first different woken
      · rw [State.tasks_cancel different]
        exact marks
  | leaving t call running | marking t call running | locking t call running
  | entering t call running | closing t call running =>
      rw [current] at running
      cases running

/-- An idle task starts an operation. -/
theorem Repairing.start (repairing : Repairing s awaits e) (current : s.current = none)
    (idle : s.tasks task = .idle) (operation : Operation) :
    Repairing (s.start task operation) awaits e := by
  have started : ∃ use, s.start task operation = s.goto task (.lockRegistry use) := by
    cases operation <;> exact ⟨_, rfl⟩
  obtain ⟨use, started⟩ := started
  rw [started]
  cases repairing with
  | surfacing t call here awaited =>
      have different : t ≠ task := by
        rintro rfl
        rw [idle] at here
        cases here
      exact .surfacing t call ((Function.update_of_ne different ..).trans here) awaited
  | queued t woken marks =>
      have different : t ≠ task := by
        rintro rfl
        rw [idle] at marks
        cases marks
      apply Repairing.queued t
      · rw [State.lock_goto]
        exact woken
      · rw [State.tasks_goto, Function.update_of_ne different]
        exact marks
  | leaving t call running | marking t call running | locking t call running
  | entering t call running | closing t call running =>
      rw [current] at running
      cases running

theorem Repairing.tick (repairing : Repairing s awaits e) (seconds : Nat) :
    Repairing { s with clock := s.clock + seconds } awaits e := by
  cases repairing with
  | surfacing t call here awaited => exact .surfacing t call here awaited
  | leaving t call running here first registered queue =>
      exact .leaving t call running here first registered queue
  | marking t call running here registered queue unlocked =>
      exact .marking t call running here registered queue unlocked
  | locking t call running here queue unlocked =>
      exact .locking t call running here queue unlocked
  | entering t call running here => exact .entering t call running here
  | closing t call running here => exact .closing t call running here
  | queued t woken marks => exact .queued t woken marks

end Repairs

/-! ### The invariant -/

theorem Sessions.isLive_turn {runtime : Runtime} {w : Sessions} {turn : Turn} {e : EntryId}
    (live : isLive e w.history = true)
    (stays : ∀ task after, turn = .move (.run task) → w.state.tasks task ≠ .hardClose e after) :
    isLive e (w.turn runtime turn).history = true := by
  cases turn with
  | cancel task =>
      simp only [Sessions.turn]
      split <;> exact live
  | move move =>
      change isLive e ((sessionEvent? w.state move).toList ++ w.history) = true
      cases event : sessionEvent? w.state move with
      | none => exact live
      | some event' =>
          cases event' with
          | connecting e' => exact live
          | connected e' =>
              change (e' == e || isLive e w.history) = true
              rw [live, Bool.or_true]
          | disconnecting e' =>
              have different : e' ≠ e := by
                rintro rfl
                cases move with
                | run task =>
                    simp only [sessionEvent?] at event
                    split at event
                    · split at event
                      · split at event <;> simp at event
                      case h_2 closes =>
                        split at event
                        · rw [Option.some.injEq, SessionEvent.disconnecting.injEq] at event
                          rw [event] at closes
                          exact stays task _ rfl closes
                        · cases event
                      · cases event
                    · cases event
                | resume task outcome =>
                    cases outcome with
                    | returned =>
                        simp only [sessionEvent?] at event
                        split at event
                        · split at event <;> simp at event
                        · cases event
                    | _ => cases event
                | _ => cases event
              change (e' != e && isLive e w.history) = true
              simp [live, different]

/-- A session of the entry that has raised a reconnectable error has been
disconnected, or it is going to be before another task uses the entry. -/
structure Tracked (w : Clients) (e : EntryId) : Prop where
  raised : ∀ session ∈ (w.client e).raised, session ∈ (w.client e).disconnected ∨
    ((w.client e).session = some session ∧ isLive e w.sessions.history = true ∧
      Repairing w.state w.awaits e)
  ended : ∀ session ∈ (w.client e).disconnected, (w.client e).session = some session →
    ∃ t, (w.state.tasks t).inDisconnect = some e
  asks : ∀ t call session, w.state.tasks t = .calling e call → w.awaits t = .sdk session →
    (w.client e).session = some session ∧ session ∉ (w.client e).raised
  opened : ∀ session, session ∈ (w.client e).disconnected ∨
    (w.client e).session = some session → session < (w.client e).opened

section Turns

variable {runtime : Runtime} {w w' : Clients} {task : TaskId} {e : EntryId}

theorem Client.isBroken_of_raised {client : Client} {session : SessionId}
    (current : client.session = some session) (raised : session ∈ client.raised) :
    client.isBroken = true := by
  simp [Client.isBroken, current, raised]

theorem Tracked.unused (tracked : Tracked w e) (safe : Safe w.state)
    (yielded : (w.state.tasks task).yields = some e) : (w.client e).isBroken = false := by
  rw [← Bool.not_eq_true]
  intro broken
  cases current : (w.client e).session with
  | none => simp [Client.isBroken, current] at broken
  | some session =>
      have raised : session ∈ (w.client e).raised := by
        simpa [Client.isBroken, current] using broken
      rcases tracked.raised session raised with disconnected | ⟨-, -, repairing⟩
      · obtain ⟨t, closes⟩ := tracked.ended session disconnected current
        exact safe.sessionsKept.notYielded t task e closes yielded
      · exact repairing.not_yielded safe yielded

/-- The clients stay as they are. -/
theorem Tracked.frame (tracked : Tracked w e) (client : w'.client e = w.client e)
    (live : (w.client e).isBroken = true → isLive e w.sessions.history = true →
      Repairing w.state w.awaits e →
        isLive e w'.sessions.history = true ∧ Repairing w'.state w'.awaits e)
    (ended : ∀ t, (w.state.tasks t).inDisconnect = some e →
      ∃ t', (w'.state.tasks t').inDisconnect = some e)
    (asks : ∀ t call session, w'.state.tasks t = .calling e call →
      w'.awaits t = .sdk session →
        (w.state.tasks t = .calling e call ∧ w.awaits t = .sdk session) ∨
          ((w.client e).session = some session ∧ session ∉ (w.client e).raised)) :
    Tracked w' e := by
  constructor <;> rw [client]
  · intro session raised
    rcases tracked.raised session raised with disconnected | ⟨current, alive, repairing⟩
    · exact Or.inl disconnected
    · exact Or.inr ⟨current, live (Client.isBroken_of_raised current raised) alive repairing⟩
  · intro session disconnected current
    obtain ⟨t, closes⟩ := tracked.ended session disconnected current
    exact ended t closes
  · intro t call session here awaits
    rcases asks t call session here awaits with before | fresh
    · exact tracked.asks t call session before.1 before.2
    · exact fresh
  · exact tracked.opened

/-- Only the task that takes the turn moves, and it is not inside
`wrapper.disconnect`. -/
theorem inDisconnect_of_others {s s' : State} (others : ∀ t, t ≠ task → s'.tasks t = s.tasks t)
    (own : (s.tasks task).inDisconnect ≠ some e) (t : TaskId)
    (closes : (s.tasks t).inDisconnect = some e) : ∃ t', (s'.tasks t').inDisconnect = some e := by
  have different : t ≠ task := by
    rintro rfl
    exact own closes
  refine ⟨t, ?_⟩
  rw [others t different]
  exact closes

theorem Linked.known (linked : Linked runtime w.state w.sessions.history) (safe : Safe w.state)
    (live : isLive e w.sessions.history = true) : e < w.state.nextEntry := by
  obtain ⟨-, key, member⟩ := linked.live e live
  exact safe.placed.registered _ member

/-- The running task does not begin to disconnect the entry. -/
theorem Tracked.ran (tracked : Tracked w e) (safe : Safe w.state)
    (linked : Linked runtime w.state w.sessions.history) (current : w.state.current = some task)
    (sessions : w'.sessions = w.sessions.turn runtime (.move (.run task)))
    (client : w'.client e = w.client e)
    (elsewhere : isLive e w.sessions.history = true →
      ∀ after, w.state.tasks task ≠ .hardClose e after)
    (agree : ∀ t, t = task → (∃ e' call, w.state.tasks t = .yielding e' call) ∨
      w'.awaits t = w.awaits t)
    (others : ∀ t, t ≠ task → w'.awaits t = w.awaits t)
    (asks : ∀ call session, w.state.tasks task = .yielding e call →
      w'.awaits task = .sdk session → (w.client e).session = some session) : Tracked w' e := by
  have state : w'.state = w.state.run runtime task := by
    simp [Clients.state, sessions, Sessions.turn, Sessions.step, Pool.step, current]
  have same : ∀ t e' call, w.state.tasks t = .calling e' call → w'.awaits t = w.awaits t := by
    intro t e' call here
    rcases eq_or_ne t task with equal | different
    · rcases agree t equal with ⟨e'', call', yields⟩ | same
      · rw [here] at yields
        cases yields
      · exact same
    · exact others t different
  apply tracked.frame client
  · intro _ live repairing
    constructor
    · rw [sessions]
      apply Sessions.isLive_turn live
      intro t after equal
      cases equal
      exact elsewhere live after
    · rw [state]
      exact repairing.run safe current (linked.known safe live) (elsewhere live) same
  · intro t closes
    have stays : (w.state.tasks task).inDisconnect = some e →
        (w.state.run runtime task).tasks task = w.state.tasks task := by
      intro own
      cases here : w.state.tasks task <;> simp_all [Pc.inDisconnect, State.run]
    refine ⟨t, ?_⟩
    rw [state]
    rcases eq_or_ne t task with rfl | different
    · rw [stays closes]
      exact closes
    · rw [State.tasks_run different]
      exact closes
  · intro t call session calls awaits
    rw [state] at calls
    rcases eq_or_ne t task with rfl | different
    · rcases State.of_calling_run calls with before | yields
      · rw [same t e call before] at awaits
        exact Or.inl ⟨before, awaits⟩
      · have hand := asks call session yields awaits
        have unbroken := tracked.unused safe (congrArg Pc.yields yields)
        refine Or.inr ⟨hand, fun raised => ?_⟩
        rw [Client.isBroken_of_raised hand raised] at unbroken
        cases unbroken
    · rw [State.tasks_run different] at calls
      rw [others t different] at awaits
      exact Or.inl ⟨calls, awaits⟩

/-- The disconnect of the entry begins. -/
theorem Tracked.begun (tracked : Tracked w e) {after : AfterClose}
    (here : w.state.tasks task = .hardClose e after)
    (current : w.state.current = some task) (connected : (w.state.entry e).connected = true) :
    Tracked ((w.pool runtime (.move (.run task))).updateClient e Client.beginDisconnect) e := by
  have state : (w.sessions.turn runtime (.move (.run task))).state =
      w.state.goto task (.disconnecting e after) := by
    simp [Sessions.turn, Sessions.step, Pool.step, current, State.run, here, State.hardClose,
      connected]
  have client : ((w.pool runtime (.move (.run task))).updateClient e
      Client.beginDisconnect).client e = (w.client e).beginDisconnect := Function.update_self ..
  have moves : ((w.pool runtime (.move (.run task))).updateClient e
      Client.beginDisconnect).state = w.state.goto task (.disconnecting e after) := state
  constructor <;> rw [client]
  · intro session raised
    rcases tracked.raised session raised with disconnected | ⟨hand, -, -⟩
    · exact Or.inl (List.mem_append_right _ disconnected)
    · refine Or.inl (List.mem_append_left _ ?_)
      rw [hand]
      exact List.mem_singleton_self session
  · intro session _ _
    refine ⟨task, ?_⟩
    rw [moves, State.tasks_goto, Function.update_self]
    rfl
  · intro t call session calls awaits
    rw [moves, State.tasks_goto, Function.update_apply] at calls
    split at calls
    · cases calls
    · exact tracked.asks t call session calls awaits
  · rintro session (disconnected | hand)
    · rcases List.mem_append.mp disconnected with current | before
      · exact tracked.opened session (Or.inr (Option.mem_toList.mp current))
      · exact tracked.opened session (Or.inl before)
    · exact tracked.opened session (Or.inr hand)

theorem Tracked.run (tracked : Tracked w e) (safe : Safe w.state)
    (linked : Linked runtime w.state w.sessions.history) (current : w.state.current = some task) :
    Tracked (w.run runtime task) e := by
  let next := w.pool runtime (.move (.run task))
  have sessions : next.sessions = w.sessions.turn runtime (.move (.run task)) := rfl
  have plain : (∀ e' call, w.state.tasks task ≠ .yielding e' call) →
      (isLive e w.sessions.history = true → ∀ after, w.state.tasks task ≠ .hardClose e after) →
      ∀ w' : Clients, w'.sessions = next.sessions → w'.awaits = w.awaits →
        w'.client e = w.client e → Tracked w' e := by
    intro other elsewhere w' sessions' awaits client
    apply tracked.ran safe linked current (sessions'.trans sessions) client elsewhere
    · exact fun t _ => Or.inr (congrFun awaits t)
    · exact fun t _ => congrFun awaits t
    · exact fun call _ yields => absurd yields (other e call)
  cases here : w.state.tasks task with
  | yielding e' call =>
      let asking : Clients :=
        { next with awaits := Function.update w.awaits task (w.client e').roundTrip }
      have moves : w.run runtime task = asking := by simp [Clients.run, here, next, asking]
      have sessions' : asking.sessions = w.sessions.turn runtime (.move (.run task)) := rfl
      have awaits : ∀ t, t ≠ task → asking.awaits t = w.awaits t :=
        fun t different => Function.update_of_ne different ..
      rw [moves]
      apply tracked.ran safe linked current sessions' rfl _ _ awaits
      · intro call' session yields awaits
        rw [here, Pc.yielding.injEq] at yields
        have begins : asking.awaits task = (w.client e').roundTrip := Function.update_self ..
        rw [begins, yields.1] at awaits
        cases hand : (w.client e).session with
        | none => simp [Client.roundTrip, hand] at awaits
        | some current => simpa [Client.roundTrip, hand] using awaits
      · simp [here]
      · exact fun t equal => Or.inl ⟨e', call, equal ▸ here⟩
  | hardClose e' after =>
      have other : ∀ e'' call, w.state.tasks task ≠ .yielding e'' call := by simp [here]
      cases connected : (w.state.entry e').connected with
      | true =>
          have moves : w.run runtime task = next.updateClient e' Client.beginDisconnect := by
            simp [Clients.run, here, connected, next]
          rw [moves]
          rcases eq_or_ne e e' with rfl | different
          · exact tracked.begun here current connected
          · have client : (next.updateClient e' Client.beginDisconnect).client e = w.client e :=
              Clients.client_updateClient_of_ne next different
            apply plain other _ (next.updateClient e' Client.beginDisconnect) rfl rfl client
            intro _ after' same
            rw [here, Pc.hardClose.injEq] at same
            exact different same.1.symm
      | false =>
          have moves : w.run runtime task = next := by
            simp [Clients.run, here, connected, next]
          rw [moves]
          apply plain other _ next rfl rfl rfl
          intro live after' same
          rw [here, Pc.hardClose.injEq] at same
          rw [same.1, (linked.live e live).1] at connected
          cases connected
  | _ =>
      have moves : w.run runtime task = next := by simp [Clients.run, here, next]
      rw [moves]
      exact plain (by simp [here]) (by simp [here]) next rfl rfl rfl

/-- A task is resumed that is not inside `wrapper.disconnect` of the entry. -/
theorem Tracked.resumed (tracked : Tracked w e) (current : w.state.current = none)
    {outcome : Outcome}
    (sessions : w'.sessions = w.sessions.turn runtime (.move (.resume task outcome)))
    (client : w'.client e = w.client e) (awaits : w'.awaits = w.awaits)
    (surfaces : (w.client e).isBroken = true → ∀ call, w.state.tasks task = .calling e call →
      w.awaits task = .http →
        outcome = .reconnectable ∧ call.isFirst = true ∧
          w.state.entries.get call.key = some e ∧ MarkedFirst w.state e)
    (elsewhere : (w.state.tasks task).inDisconnect ≠ some e) : Tracked w' e := by
  have state : w'.state = w.state.resume runtime task outcome := by
    simp [Clients.state, sessions, Sessions.turn, Sessions.step, Pool.step, current]
  have others : ∀ t, t ≠ task → w'.state.tasks t = w.state.tasks t := by
    intro t different
    rw [state, State.tasks_resume different]
  apply tracked.frame client
  · intro broken live repairing
    constructor
    · rw [sessions]
      apply Sessions.isLive_turn live
      intro t after equal
      cases equal
    · rw [state, awaits]
      exact repairing.resume current (surfaces broken)
  · exact inDisconnect_of_others others elsewhere
  · intro t call session calls asked
    rw [awaits] at asked
    rcases eq_or_ne t task with rfl | different
    · rw [state] at calls
      exact Or.inl ⟨State.of_calling_resume calls, asked⟩
    · rw [others t different] at calls
      exact Or.inl ⟨calls, asked⟩

/-- The connect of the entry has opened a session. -/
theorem Tracked.opens (tracked : Tracked w e) (safe : Safe w.state)
    (current : w.state.current = none) {call : Call}
    (here : w.state.tasks task = .connecting e call) :
    Tracked ((w.pool runtime (.move (.resume task .returned))).updateClient e
      (·.connect .opened)) e := by
  let next := w.pool runtime (.move (.resume task .returned))
  have state : next.state = (w.state.updateEntry e fun entry =>
      { entry with connected := true, loop := some runtime.running }).goto task
        (.yielding e call) := by
    simp [next, Clients.state, Sessions.turn, Sessions.step, Pool.step, current, State.resume,
      here, State.connected]
  have client : (next.updateClient e (·.connect .opened)).client e =
      (w.client e).connect .opened := Function.update_self ..
  have holds : (w.state.tasks task).heldLock = some (.entry e) := congrArg Pc.heldLock here
  constructor <;> rw [client]
  · intro session raised
    rcases tracked.raised session raised with disconnected | ⟨-, -, repairing⟩
    · exact Or.inl disconnected
    · exact (repairing.not_holding safe holds (Or.inl (congrArg Pc.trip here)) current).elim
  · intro session disconnected hand
    have before := tracked.opened session (Or.inl disconnected)
    have now : (w.client e).opened = session := Option.some.inj hand
    exact absurd now (Nat.ne_of_gt before)
  · intro t call' session calls _
    change next.state.tasks t = .calling e call' at calls
    rw [state, State.tasks_goto, Function.update_apply] at calls
    split at calls
    · cases calls
    case isFalse different =>
      have before : w.state.tasks t = .calling e call' := calls
      exact absurd (safe.locks.exclusive t task _ (congrArg Pc.heldLock before) holds) different
  · rintro session (disconnected | hand)
    · exact Nat.lt_succ_of_lt (tracked.opened session (Or.inl disconnected))
    · have now : (w.client e).opened = session := Option.some.inj hand
      rw [← now]
      exact Nat.lt_succ_self _

/-- The disconnect of the entry has ended. -/
theorem Tracked.closed (tracked : Tracked w e) (safe : Safe w.state)
    (linked : Linked runtime w.state w.sessions.history) {after : AfterClose}
    (here : w.state.tasks task = .disconnecting e after)
    (sessions : w'.sessions = w.sessions.turn runtime (.move (.resume task .returned)))
    (current : w.state.current = none) (client : w'.client e = (w.client e).endDisconnect) :
    Tracked w' e := by
  have state : w'.state = w.state.goto task (.closed e after) := by
    simp [Clients.state, sessions, Sessions.turn, Sessions.step, Pool.step, current, State.resume,
      here]
  constructor <;> rw [client]
  · intro session raised
    rcases tracked.raised session raised with disconnected | ⟨-, live, -⟩
    · exact Or.inl disconnected
    · rw [linked.closing task e (congrArg Pc.closes here)] at live
      cases live
  · intro session _ hand
    cases hand
  · intro t call session calls _
    rw [state, State.tasks_goto, Function.update_apply] at calls
    split at calls
    · cases calls
    · have closes : (w.state.tasks task).inDisconnect = some e := congrArg Pc.inDisconnect here
      exact absurd (congrArg Pc.inWrapper calls) (safe.sessionsKept.notInUse task t e closes)
  · rintro session (disconnected | hand)
    · exact tracked.opened session (Or.inl disconnected)
    · cases hand

/-- The round trip falls back to HTTP. -/
theorem Repairing.fallBack {s : State} {awaits : TaskId → RoundTrip}
    (repairing : Repairing s awaits e) :
    Repairing s (Function.update awaits task .http) e := by
  cases repairing with
  | surfacing t call here awaited =>
      apply Repairing.surfacing t call here
      rw [Function.update_apply]
      split
      · rfl
      · exact awaited
  | leaving t call running here first registered queue =>
      exact .leaving t call running here first registered queue
  | marking t call running here registered queue unlocked =>
      exact .marking t call running here registered queue unlocked
  | locking t call running here queue unlocked =>
      exact .locking t call running here queue unlocked
  | entering t call running here => exact .entering t call running here
  | closing t call running here => exact .closing t call running here
  | queued t woken marks => exact .queued t woken marks

/-- The method of the session has raised. -/
theorem Tracked.fellBack (tracked : Tracked w e) (safe : Safe w.state)
    (linked : Linked runtime w.state w.sessions.history) {e' : EntryId} {call : Call}
    (here : w.state.tasks task = .calling e' call) {session : SessionId}
    (asked : w.awaits task = .sdk session) (outcome : Outcome) :
    Tracked { w.updateClient e' (·.answer session outcome) with
      awaits := Function.update w.awaits task .http } e := by
  let fallen : Clients := { w.updateClient e' (·.answer session outcome) with
    awaits := Function.update w.awaits task .http }
  have others : ∀ t session', fallen.awaits t = .sdk session' →
      t ≠ task ∧ w.awaits t = .sdk session' := by
    intro t session' awaits
    change Function.update w.awaits task .http t = .sdk session' at awaits
    rw [Function.update_apply] at awaits
    split at awaits
    · cases awaits
    case isFalse different => exact ⟨different, awaits⟩
  have untouched : fallen.client e = w.client e → Tracked fallen e := by
    intro client
    apply tracked.frame client
    · exact fun _ live repairing => ⟨live, repairing.fallBack⟩
    · exact fun t closes => ⟨t, closes⟩
    · exact fun t call' session' calls awaits =>
        Or.inl ⟨calls, (others t session' awaits).2⟩
  rcases eq_or_ne e e' with rfl | different
  · have client : fallen.client e = (w.client e).answer session outcome :=
      Function.update_self ..
    cases outcome with
    | reconnectable =>
        have asking := tracked.asks task call session here asked
        have ready := linked.ready_inHand safe (congrArg Pc.inHand here)
        have repairing : Repairing fallen.state fallen.awaits e :=
          .surfacing task call here (Function.update_self ..)
        change Tracked fallen e
        constructor <;> rw [client]
        · intro session' raised
          rcases List.mem_cons.mp raised with rfl | before
          · exact Or.inr ⟨asking.1, isLive_of_isReady ready, repairing⟩
          · exact (tracked.raised session' before).imp_right fun current =>
              ⟨current.1, current.2.1, repairing⟩
        · exact tracked.ended
        · intro t call' session' calls awaits
          have apart := (others t session' awaits).1
          exact absurd (safe.locks.exclusive t task (.entry e) (congrArg Pc.heldLock calls)
            (congrArg Pc.heldLock here)) apart
        · exact tracked.opened
    | returned | otherError => exact untouched client
  · exact untouched (Function.update_of_ne different ..)

theorem Tracked.resume (tracked : Tracked w e) (safe : Safe w.state)
    (linked : Linked runtime w.state w.sessions.history) (current : w.state.current = none)
    {peer : Peer} (surfaces : Surfaces runtime w (.resume task peer)) :
    Tracked (w.resume runtime task peer) e := by
  let next (outcome : Outcome) := w.pool runtime (.move (.resume task outcome))
  have sessions : ∀ outcome, (next outcome).sessions =
      w.sessions.turn runtime (.move (.resume task outcome)) := fun _ => rfl
  have unasked : ∀ outcome, (∀ e' call, w.state.tasks task ≠ .calling e' call) →
      (w.state.tasks task).inDisconnect ≠ some e → ∀ w' : Clients,
      w'.sessions = (next outcome).sessions ∧ w'.client e = w.client e ∧ w'.awaits = w.awaits →
        Tracked w' e := by
    intro outcome other elsewhere w' same
    apply tracked.resumed current (same.1.trans (sessions outcome)) same.2.1 same.2.2 _ elsewhere
    exact fun _ call calls => absurd calls (other e call)
  cases here : w.state.tasks task with
  | connecting e' call =>
      have moves : w.resume runtime task peer =
          (next peer.connect.outcome).updateClient e' (·.connect peer.connect) := by
        simp [Clients.resume, here, next]
      have other : ∀ e'' call', w.state.tasks task ≠ .calling e'' call' := by simp [here]
      have elsewhere : (w.state.tasks task).inDisconnect ≠ some e := by
        simp [here, Pc.inDisconnect]
      rw [moves]
      rcases eq_or_ne e e' with rfl | different
      · cases connect : peer.connect with
        | opened => exact tracked.opens safe current here
        | notInstalled | failed =>
            exact unasked _ other elsewhere _ ⟨rfl, Clients.client_updateClient _, rfl⟩
      · exact unasked _ other elsewhere _
          ⟨rfl, Clients.client_updateClient_of_ne _ different, rfl⟩
  | calling e' call =>
      have moves : w.resume runtime task peer = w.answer runtime task e' peer := by
        simp [Clients.resume, here]
      have elsewhere : (w.state.tasks task).inDisconnect ≠ some e := by
        simp [here, Pc.inDisconnect]
      rw [moves]
      cases asked : w.awaits task with
      | http =>
          have answers : w.answer runtime task e' peer = next peer.http := by
            simp [Clients.answer, asked, next]
          rw [answers]
          apply tracked.resumed current (sessions peer.http) rfl rfl _ elsewhere
          intro broken call' calls awaits
          have use : (w.state.tasks task).trip = some (e, call') := congrArg Pc.trip calls
          have ends := surfaces (e, call') use awaits broken
          have registered := linked.used task e call' (congrArg Pc.uses calls)
          exact ⟨ends.1, ends.2.1, OrderedDict.get_of_mem registered, ends.2.2⟩
      | sdk session =>
          have answered : ∀ outcome, Tracked (next outcome) e := by
            intro outcome
            apply tracked.resumed current (sessions outcome) rfl rfl _ elsewhere
            intro _ call' _ awaits
            rw [asked] at awaits
            cases awaits
          cases sdk : peer.sdk with
          | returned =>
              have answers : w.answer runtime task e' peer = next .returned := by
                simp [Clients.answer, asked, sdk, next]
              rw [answers]
              exact answered .returned
          | reconnectable | otherError =>
              have falls := tracked.fellBack safe linked here asked peer.sdk
              simp only [Clients.answer, asked, sdk] at falls ⊢
              exact falls
  | disconnecting e' after =>
      have moves : w.resume runtime task peer =
          (next .returned).updateClient e' Client.endDisconnect := by
        simp [Clients.resume, here, next]
      rw [moves]
      rcases eq_or_ne e e' with rfl | different
      · exact tracked.closed safe linked here rfl current (Clients.client_updateClient _)
      · have elsewhere : (w.state.tasks task).inDisconnect ≠ some e := by
          simpa [here, Pc.inDisconnect] using different.symm
        exact unasked .returned (by simp [here]) elsewhere _
          ⟨rfl, Clients.client_updateClient_of_ne _ different, rfl⟩
  | _ =>
      have moves : w.resume runtime task peer = next .returned := by
        simp [Clients.resume, here, next]
      rw [moves]
      exact unasked .returned (by simp [here]) (by simp [here, Pc.inDisconnect]) _ ⟨rfl, rfl, rfl⟩

theorem Tracked.cancel (tracked : Tracked w e) (safe : Safe w.state)
    (current : w.state.current = none) (surfaces : Surfaces runtime w (.cancel task)) :
    Tracked (w.cancel runtime task) e := by
  have moves : w.cancel runtime task = w.pool runtime (.cancel task) := by
    have spared := surfaces.1
    unfold Clients.cancel
    cases here : w.state.tasks task <;> simp_all [Pc.inDisconnect]
  have state : (w.pool runtime (.cancel task)).state = w.state.cancel task := by
    simp [Clients.state, Sessions.turn, current]
  have client : (w.pool runtime (.cancel task)).client e = w.client e := rfl
  rw [moves]
  apply tracked.frame client
  · intro broken live repairing
    constructor
    · apply Sessions.isLive_turn live
      intro t after equal
      cases equal
    · rw [state]
      apply repairing.cancel safe current
      · intro call calls
        have unbroken := surfaces.2.1 (e, call) (congrArg Pc.trip calls)
        rw [broken] at unbroken
        cases unbroken
      · intro marks
        have unbroken := surfaces.2.2 e marks
        rw [broken] at unbroken
        cases unbroken
  · apply inDisconnect_of_others
    · intro t different
      rw [state, State.tasks_cancel different]
    · rw [surfaces.1]
      simp
  · intro t call session calls awaits
    rw [state] at calls
    rcases eq_or_ne t task with rfl | different
    · exact Or.inl ⟨State.of_calling_cancel calls, awaits⟩
    · rw [State.tasks_cancel different] at calls
      exact Or.inl ⟨calls, awaits⟩

theorem Tracked.start (tracked : Tracked w e) (operation : Operation) :
    Tracked (w.pool runtime (.move (.start task operation))) e := by
  by_cases ready : w.state.current = none ∧ w.state.tasks task = .idle
  · have started : ∃ use, w.state.start task operation = w.state.goto task (.lockRegistry use) := by
      cases operation <;> exact ⟨_, rfl⟩
    obtain ⟨use, started⟩ := started
    have state : (w.pool runtime (.move (.start task operation))).state =
        w.state.start task operation := by
      simp [Clients.state, Sessions.turn, Sessions.step, Pool.step, ready]
    have client : (w.pool runtime (.move (.start task operation))).client e = w.client e := rfl
    apply tracked.frame client
    · intro _ live repairing
      constructor
      · apply Sessions.isLive_turn live
        intro t after equal
        cases equal
      · rw [state]
        exact repairing.start ready.1 ready.2 operation
    · apply inDisconnect_of_others
      · intro t different
        rw [state, started, State.tasks_goto, Function.update_of_ne different]
      · simp [ready.2, Pc.inDisconnect]
    · intro t call session calls awaits
      rw [state, started, State.tasks_goto, Function.update_apply] at calls
      split at calls
      · cases calls
      · exact Or.inl ⟨calls, awaits⟩
  · have stays : w.pool runtime (.move (.start task operation)) = w := by
      simp [Clients.pool, Sessions.turn, Sessions.step, Pool.step, sessionEvent?, ready]
    rw [stays]
    exact tracked

theorem Tracked.tick (tracked : Tracked w e) (seconds : Nat) :
    Tracked (w.pool runtime (.move (.tick seconds))) e := by
  have client : (w.pool runtime (.move (.tick seconds))).client e = w.client e := rfl
  apply tracked.frame client
  · intro _ live repairing
    exact ⟨live, repairing.tick seconds⟩
  · exact fun t closes => ⟨t, closes⟩
  · exact fun t call session calls awaits => Or.inl ⟨calls, awaits⟩

theorem Tracked.turn (tracked : Tracked w e) (safe : Safe w.state)
    (linked : Linked runtime w.state w.sessions.history) {turn : ClientTurn}
    (surfaces : Surfaces runtime w turn) : Tracked (w.turn runtime turn) e := by
  cases turn with
  | tick seconds => exact tracked.tick seconds
  | start task operation => exact tracked.start operation
  | run task =>
      simp only [Clients.turn]
      split
      case isTrue current => exact tracked.run safe linked current
      case isFalse => exact tracked
  | resume task peer =>
      simp only [Clients.turn]
      split
      case isTrue current => exact tracked.resume safe linked current surfaces
      case isFalse => exact tracked
  | cancel task =>
      simp only [Clients.turn]
      split
      case isTrue current => exact tracked.cancel safe current surfaces
      case isFalse => exact tracked

/-- The pool of the clients makes one turn, or none. -/
theorem Clients.sound_turn {turn : ClientTurn}
    (sound : Safe w.state ∧ Linked runtime w.state w.sessions.history)
    (surfaces : Surfaces runtime w turn) :
    Safe (w.turn runtime turn).state ∧
      Linked runtime (w.turn runtime turn).state (w.turn runtime turn).sessions.history := by
  have pooled : ∀ turn', SparesDisconnect w.state turn' ∧ TurnUnawaited runtime w.state turn' →
      ∀ w' : Clients, w'.sessions = w.sessions.turn runtime turn' →
        Safe w'.state ∧ Linked runtime w'.state w'.sessions.history := by
    intro turn' allowed w' sessions
    unfold Clients.state
    rw [sessions]
    exact Pool.sound_turn sound allowed
  have resumed : ∀ task outcome, SparesDisconnect w.state (.move (.resume task outcome)) ∧
      TurnUnawaited runtime w.state (.move (.resume task outcome)) := by
    intro task outcome
    exact ⟨trivial, by simp [TurnUnawaited, EvictsUnawaited, evicting]⟩
  cases turn with
  | tick seconds =>
      have allowed : TurnUnawaited runtime w.state (.move (.tick seconds)) := by
        simp [TurnUnawaited, EvictsUnawaited, evicting]
      exact pooled (.move (.tick seconds)) ⟨trivial, allowed⟩ _ rfl
  | start task operation =>
      have allowed : TurnUnawaited runtime w.state (.move (.start task operation)) := by
        simp [TurnUnawaited, EvictsUnawaited, evicting]
      exact pooled (.move (.start task operation)) ⟨trivial, allowed⟩ _ rfl
  | run task =>
      have run := pooled (.move (.run task)) ⟨trivial, surfaces⟩
      simp only [Clients.turn]
      split
      · apply run
        unfold Clients.run
        cases w.state.tasks task with
        | hardClose e after =>
            simp only []
            split <;> rfl
        | _ => rfl
      · exact sound
  | resume task peer =>
      simp only [Clients.turn]
      split
      · unfold Clients.resume
        cases w.state.tasks task with
        | calling e call =>
            simp only [Clients.answer]
            split
            · exact pooled _ (resumed task peer.http) _ rfl
            · split
              · exact pooled _ (resumed task .returned) _ rfl
              all_goals exact sound
        | connecting e call => exact pooled _ (resumed task peer.connect.outcome) _ rfl
        | _ => exact pooled _ (resumed task .returned) _ rfl
      · exact sound
  | cancel task =>
      have cancelled := pooled (.cancel task) ⟨surfaces.1, trivial⟩
      simp only [Clients.turn]
      split
      · apply cancelled
        unfold Clients.cancel
        cases w.state.tasks task <;> rfl
      · exact sound

end Turns

/-! ### Replaced sessions -/

/-- The entries of an endpoint that the pool refers to are one. -/
theorem Linked.same_entry {runtime : Runtime} {s : State} {history : List SessionEvent}
    (linked : Linked runtime s history) {t : TaskId} {e e' : EntryId}
    (yielded : (s.tasks t).yields = some e) (live : isLive e' history = true)
    (same : (s.entry e').wrapper = (s.entry e).wrapper) : e' = e := by
  obtain ⟨-, key, member⟩ := linked.live e' live
  cases here : s.tasks t with
  | yielding e'' call =>
      obtain rfl : e'' = e := by simpa [here, Pc.yields] using yielded
      have used := linked.used t e'' call (congrArg Pc.uses here)
      have keys : key = call.key := by
        have first : key = (s.entry e').wrapper.key := linked.keyed _ member
        have second : call.key = (s.entry e'').wrapper.key := linked.keyed _ used
        rw [first, second, same]
      rw [keys] at member
      exact OrderedDict.value_unique member used
  | _ =>
      rw [here] at yielded
      cases yielded

theorem replaced {runtime : Runtime} {w : Clients} (safe : Safe w.state)
    (linked : Linked runtime w.state w.sessions.history) (tracked : ∀ e, Tracked w e) :
    Replaced w := by
  constructor
  · intro t e yielded e' same session raised
    rcases (tracked e').raised session raised with disconnected | ⟨-, live, repairing⟩
    · exact disconnected
    · rw [linked.same_entry yielded live same] at repairing
      exact (repairing.not_yielded safe yielded).elim
  · intro t e yielded
    exact linked.ready_inHand safe (Pc.inHand_of_yields yielded)
  · intro t e yielded
    exact (tracked e).unused safe yielded

theorem tracked_initial (e : EntryId) : Tracked {} e := by
  constructor <;> simp

/-- In every run in which the reconnectable errors of the sessions surface, broken
sessions are replaced. -/
theorem sessions_replaced (runtime : Runtime) (turns : List ClientTurn)
    (surfaces : EachStep (Clients.turn runtime) (Surfaces runtime) {} turns) :
    EachState (Clients.turn runtime) Replaced {} turns := by
  have initially : (Safe {} ∧ Linked runtime {} []) ∧ ∀ e, Tracked {} e :=
    ⟨⟨safe_initial, linked_initial⟩, tracked_initial⟩
  have sound : EachState (Clients.turn runtime)
      (fun w => (Safe w.state ∧ Linked runtime w.state w.sessions.history) ∧ ∀ e, Tracked w e)
      {} turns :=
    surfaces.invariant initially fun _ _ sound surfaces =>
      ⟨Clients.sound_turn sound.1 surfaces,
        fun e => (sound.2 e).turn sound.1.1 sound.1.2 surfaces⟩
  exact sound.mono fun _ sound => replaced sound.1.1 sound.1.2 sound.2

/-- `count` turns of the running task. -/
def clientRuns (task : TaskId) (count : Nat) : List ClientTurn :=
  List.replicate count (.run task)

/-- The session raises; so does the fallback, and the call connects again. -/
def brokenSession : List ClientTurn :=
  [.start 0 (.callTool "https://x.test" "sse")] ++ clientRuns 0 6 ++ [.resume 0 {}] ++
    clientRuns 0 1 ++ [.resume 0 { sdk := .reconnectable }, .resume 0 { http := .reconnectable }] ++
    clientRuns 0 5 ++ [.resume 0 {}] ++ clientRuns 0 7 ++ [.resume 0 {}]

theorem sessions_replaced_broken :
    ((brokenSession.foldl (Clients.turn exampleRuntime) {}).state.tasks 0).yields = some 0 ∧
      ((brokenSession.foldl (Clients.turn exampleRuntime) {}).client 0).session = some 1 ∧
      EachState (Clients.turn exampleRuntime) Replaced {} brokenSession :=
  ⟨by decide +kernel, by decide +kernel,
    sessions_replaced exampleRuntime brokenSession (by decide +kernel)⟩

/-- The session raises and the fallback answers; the next call has the same session. -/
def answeredByFallback : List ClientTurn :=
  [.start 0 (.callTool "https://x.test" "sse")] ++ clientRuns 0 6 ++ [.resume 0 {}] ++
    clientRuns 0 1 ++ [.resume 0 { sdk := .reconnectable }, .resume 0 {}] ++ clientRuns 0 1 ++
    [.start 0 (.callTool "https://x.test" "sse")] ++ clientRuns 0 5

theorem broken_session_used_again :
    ¬ ∀ runtime turns, EachState (Clients.turn runtime) Replaced {} turns := by
  intro always
  have last : Replaced (answeredByFallback.foldl (Clients.turn exampleRuntime) {}) :=
    always exampleRuntime answeredByFallback answeredByFallback [] (by simp)
  have unused := last.unused 0 0 (by decide +kernel)
  revert unused
  decide +kernel

end GrafuxMcp.Pool
