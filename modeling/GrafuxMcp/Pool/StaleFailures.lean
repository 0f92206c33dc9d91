import GrafuxMcp.Pool.SessionSafety

/-! # Stale failures

A caller whose attempt has failed gives the lock of the entry back and queues for it
again, to close the entry as broken. By its turn another caller may have opened a new
session, which it then closes. -/

namespace GrafuxMcp.Pool

/-! ### Control points -/

namespace Pc

/-- The task has just got the lock of the entry to close it as broken. -/
def gotToMark : Pc → Option EntryId
  | .inEntry e (.markBroken _) => some e
  | _ => none

/-- The task is about to disconnect the entry, if it is connected. -/
def hardCloses : Pc → Option EntryId
  | .hardClose e _ => some e
  | _ => none

/-- The task is inside `wrapper.connect`. -/
def connects : Pc → Option EntryId
  | .connecting e _ => some e
  | _ => none

variable {point : Pc} {e : EntryId}

theorem heldLock_of_connects (connecting : point.connects = some e) :
    point.heldLock = some (.entry e) := by
  cases point <;> simp_all [connects, heldLock]

theorem heldLock_of_hardCloses (closing : point.hardCloses = some e)
    (spared : point.targets = []) : point.heldLock = some (.entry e) := by
  cases point with
  | hardClose _ after => cases after <;> simp_all [hardCloses, targets, heldLock, AfterClose.lock]
  | _ => simp_all [hardCloses]

end Pc

/-! ### The sessions of the entries -/

/-- The sessions of an entry are numbered as its connects complete, and an entry that is
connected holds the last of them. -/
structure Tally where
  state : State := {}
  opened : EntryId → Nat := fun _ => 0
  /-- The sessions on which a round trip has raised a reconnectable error. -/
  raised : List (EntryId × Nat) := []
  /-- The entry and its last session when the last attempt of a task to fail so failed. -/
  failed : TaskId → Option (EntryId × Nat) := fun _ => none

namespace Tally

variable (runtime : Runtime) (w : Tally)

/-- The session of an entry, or the last one that it had. -/
def session (e : EntryId) : EntryId × Nat := (e, w.opened e)

def opens (e : EntryId) : Tally :=
  { w with opened := Function.update w.opened e (w.opened e + 1) }

def fail (task : TaskId) (e : EntryId) : Tally :=
  { w with failed := Function.update w.failed task (some (w.session e)) }

def raise (e : EntryId) : Tally :=
  { w with raised := w.session e :: w.raised }

/-- What the end of an awaited method means for the sessions. -/
def resumed (task : TaskId) (outcome : Outcome) : Tally :=
  match w.state.tasks task, outcome with
  | .connecting e _, .returned => w.opens e
  | .connecting e _, .reconnectable => w.fail task e
  | .calling e _, .reconnectable => (w.raise e).fail task e
  | _, _ => w

def step (move : Move) : Tally :=
  let next :=
    match move with
    | .resume task outcome => if w.state.current = none then w.resumed task outcome else w
    | _ => w
  { next with state := Pool.step runtime w.state move }

/-- The session that a move disconnects is the one on which the task's own attempt has
failed, and a round trip on it has raised a reconnectable error. -/
def ClosesFailed : Move → Prop
  | .run task => w.state.current = some task → ∀ e ∈ (w.state.tasks task).hardCloses,
      (w.state.entry e).connected = true →
        w.session e ∈ w.raised ∧ w.failed task = some (w.session e)
  | _ => True

/-- When a task gets the lock of an entry to close it as broken, the entry is not
connected, or no session has been opened since the attempt of the task has failed. -/
def MarksInTime : Move → Prop
  | .run task => w.state.current = some task → ∀ e ∈ (w.state.tasks task).gotToMark,
      (w.state.entry e).connected = true → w.failed task = some (w.session e)
  | _ => True

/-- The move selects nothing for eviction. -/
def EvictsNothing (move : Move) : Prop :=
  evicting runtime w.state move = []

end Tally

/-! ### The running task -/

/-- Where a move takes a task when nothing is evicted, and which flags it leaves set. -/
structure Goes (s : State) (task : TaskId) (point : Pc) (s' : State) : Prop where
  tasks : s'.tasks = Function.update s.tasks task point
  flags : ∀ e, (s'.entry e).connected = true →
    (s.entry e).connected = true ∧ (s'.entry e).loop = (s.entry e).loop
  spared : point.targets = []
  connects : ∀ e, point.connects = some e → (s.entry e).connected = false
  closes : ∀ e, point.hardCloses = some e → (s.tasks task).gotToMark = some e

section Moves

variable {runtime : Runtime} {s s' : State} {task : TaskId} {point inside waiting : Pc} {l : LockId}
  {value : AsyncLock TaskId}

/-- The entries keep their flags. -/
def SameFlags (s s' : State) : Prop :=
  ∀ e, (s'.entry e).connected = (s.entry e).connected ∧ (s'.entry e).loop = (s.entry e).loop

theorem sameFlags_setLock : SameFlags s (s.setLock l value) := by
  intro e
  cases l with
  | registry => exact ⟨rfl, rfl⟩
  | entry e' =>
      rcases eq_or_ne e e' with rfl | different
      · simp [State.setLock, State.updateEntry]
      · simp [State.setLock, State.updateEntry, different]

theorem Goes.of_flags (tasks : s'.tasks = Function.update s.tasks task point)
    (flags : ∀ e, (s'.entry e).connected = true →
      (s.entry e).connected = true ∧ (s'.entry e).loop = (s.entry e).loop)
    (spared : point.targets = []) (connects : point.connects = none)
    (closes : point.hardCloses = none) : Goes s task point s' where
  tasks := tasks
  flags := flags
  spared := spared
  connects e connecting := by
    rw [connects] at connecting
    cases connecting
  closes e closing := by
    rw [closes] at closing
    cases closing

theorem Goes.of_sameFlags (tasks : s'.tasks = Function.update s.tasks task point)
    (same : SameFlags s s') (spared : point.targets = []) (connects : point.connects = none)
    (closes : point.hardCloses = none) : Goes s task point s' :=
  .of_flags tasks (fun e set => ⟨(same e).1 ▸ set, (same e).2⟩) spared connects closes

/-- The task goes on without a lock. -/
theorem goes_goto (spared : point.targets = []) (connects : point.connects = none)
    (closes : point.hardCloses = none) : Goes s task point (s.goto task point) :=
  .of_sameFlags rfl (fun _ => ⟨rfl, rfl⟩) spared connects closes

theorem goes_setLock (spared : point.targets = []) (connects : point.connects = none)
    (closes : point.hardCloses = none) :
    Goes s task point ((s.setLock l value).goto task point) := by
  apply Goes.of_sameFlags _ _ spared connects closes
  · rw [State.tasks_goto, State.tasks_setLock]
  · exact sameFlags_setLock

theorem goes_acquireLock (insideSpared : inside.targets = [])
    (insideConnects : inside.connects = none)
    (insideCloses : inside.hardCloses = none) (waitingSpared : waiting.targets = [])
    (waitingConnects : waiting.connects = none) (waitingCloses : waiting.hardCloses = none) :
    ∃ point, Goes s task point (s.acquireLock task l inside waiting) := by
  rw [State.acquireLock]
  split
  · exact ⟨inside, goes_setLock insideSpared insideConnects insideCloses⟩
  · exact ⟨waiting, goes_setLock waitingSpared waitingConnects waitingCloses⟩

theorem flags_updateEntry {e e' : EntryId}
    (set : ((s.updateEntry e fun entry => { entry with connected := false }).entry e').connected =
      true) :
    (s.entry e').connected = true ∧
      ((s.updateEntry e fun entry => { entry with connected := false }).entry e').loop =
        (s.entry e').loop := by
  rcases eq_or_ne e' e with rfl | different
  · simp [State.updateEntry] at set
  · simpa [State.updateEntry, different] using set

/-- The running task makes its move, when nothing is evicted and every connected entry is
bound to the running loop. -/
theorem goes_run (spared : (s.tasks task).targets = [])
    (onLoop : ∀ e, (s.entry e).connected = true → (s.entry e).loop = some runtime.running)
    (nothing : ∀ use, s.tasks task = .inRegistry use → s.selected runtime use = [])
    (connecting : ∀ e, (s.tasks task).connects = some e → (s.entry e).connected = false) :
    ∃ point, Goes s task point (s.run runtime task) := by
  unfold State.run
  cases here : s.tasks task with
  | lockRegistry use => exact goes_acquireLock rfl rfl rfl rfl rfl rfl
  | inRegistry use =>
      have nothing := nothing use here
      cases use with
      | getEntry call =>
          simp only [State.getEntry]
          split
          case h_1 e found =>
            let pruned := s.pruneClosedLoops runtime
            have same : SameFlags pruned
                (pruned.setLock .registry (pruned.lock .registry).release) := sameFlags_setLock
            exact ⟨.lockEntry e (.acquire call), .of_sameFlags rfl same rfl rfl rfl⟩
          case h_2 missing =>
            simp only [State.selected, missing] at nothing
            split
            case h_1 key e evicts =>
              rw [evicts] at nothing
              cases nothing
            case h_2 =>
              exact ⟨.create call, .of_sameFlags rfl (fun _ => ⟨rfl, rfl⟩) rfl rfl rfl⟩
      | evictIdle now maxIdleSeconds =>
          exact ⟨.evictStale (s.stale now maxIdleSeconds), goes_goto nothing rfl rfl⟩
  | create call =>
      refine ⟨.lockEntry s.nextEntry (.acquire call), .of_flags rfl ?_ rfl rfl rfl⟩
      intro e set
      rcases eq_or_ne e s.nextEntry with rfl | different
      · simp [State.create, State.releaseLock, State.goto, State.setLock, State.updateEntry] at set
      · simpa [State.create, State.releaseLock, State.goto, State.setLock, State.updateEntry,
          different] using set
  | evictStale stale =>
      rw [here] at spared
      cases stale with
      | nil => exact ⟨.idle, goes_setLock rfl rfl rfl⟩
      | cons item stale => cases spared
  | lockEntry e use => exact goes_acquireLock rfl rfl rfl rfl rfl rfl
  | inEntry e use =>
      cases use with
      | acquire call =>
          simp only [State.acquire]
          split
          case isTrue rebinds =>
            have parts := Bool.and_eq_true_iff.mp rebinds
            rw [onLoop e parts.1] at parts
            simp at parts
          case isFalse => exact ⟨.connect e call, goes_goto rfl rfl rfl⟩
      | markBroken call =>
          refine ⟨.hardClose e (.broken call), rfl, fun _ set => ⟨set, rfl⟩, rfl, ?_, ?_⟩
          · intro e' connecting
            cases connecting
          · intro e' closing
            cases closing
            rw [here]
            rfl
  | connect e call =>
      simp only [State.connect]
      split
      case isTrue => exact ⟨.yielding e call, goes_goto rfl rfl rfl⟩
      case isFalse unset =>
        refine ⟨.connecting e call, rfl, fun _ set => ⟨set, rfl⟩, rfl, ?_, ?_⟩
        · intro e' connecting
          cases connecting
          simpa using unset
        · intro e' closing
          cases closing
  | yielding e call =>
      refine ⟨.calling e call, .of_sameFlags rfl ?_ rfl rfl rfl⟩
      intro e'
      rcases eq_or_ne e' e with rfl | different
      · simp [State.yielding, State.updateEntry, State.goto]
      · simp [State.yielding, State.updateEntry, State.goto, different]
  | leaving e call outcome =>
      simp only [State.leaving]
      split
      · exact ⟨.markBroken call, goes_setLock rfl rfl rfl⟩
      · exact ⟨.idle, goes_setLock rfl rfl rfl⟩
  | markBroken call =>
      simp only [State.markBroken]
      split
      case h_1 e found => exact ⟨.lockEntry e (.markBroken call), goes_goto rfl rfl rfl⟩
      case h_2 => exact ⟨State.retry call, goes_goto rfl rfl rfl⟩
  | hardClose e after =>
      rw [here] at spared
      simp only [State.hardClose]
      split
      · exact ⟨.disconnecting e after, goes_goto (by cases after <;> exact spared) rfl rfl⟩
      · exact ⟨.closed e after, goes_goto (by cases after <;> exact spared) rfl rfl⟩
  | closed e after =>
      rw [here] at spared
      cases after with
      | rebound call =>
          exact ⟨.connect e call, .of_flags rfl (fun _ => flags_updateEntry) rfl rfl rfl⟩
      | broken call =>
          refine ⟨State.retry call, .of_flags rfl ?_ rfl rfl rfl⟩
          intro e' set
          let closed := s.updateEntry e fun entry => { entry with connected := false }
          have kept : SameFlags closed
              (closed.setLock (.entry e) (closed.lock (.entry e)).release) := sameFlags_setLock
          have set : (closed.entry e').connected = true := (kept e').1 ▸ set
          have before := flags_updateEntry set
          exact ⟨before.1, (kept e').2.trans before.2⟩
      | evictedToCapacity key call | evictedIdle key stale => cases spared
  | idle | waitingRegistry _ | waitingEntry _ _ | connecting _ _ | calling _ _
  | disconnecting _ _ =>
      exact ⟨s.tasks task, (Function.update_eq_self _ _).symm, fun _ set => ⟨set, rfl⟩, spared,
        connecting, fun _ closing => by rw [here] at closing; cases closing⟩

end Moves

/-! ### The invariant -/

/-- Nothing is going to be evicted, and a task that fails or closes does so on the session
that the entry has. -/
structure Tally.Sound (runtime : Runtime) (w : Tally) : Prop where
  safe : Safe w.state
  spared : ∀ t, (w.state.tasks t).targets = []
  onLoop : ∀ e, (w.state.entry e).connected = true →
    (w.state.entry e).loop = some runtime.running
  connecting : ∀ t e, (w.state.tasks t).connects = some e → (w.state.entry e).connected = false
  past : ∀ t failure, w.failed t = some failure → failure.2 ≤ w.opened failure.1
  failed : ∀ t e, w.failed t = some (w.session e) → (w.state.entry e).connected = true →
    w.session e ∈ w.raised
  closing : ∀ t e, (w.state.tasks t).hardCloses = some e → (w.state.entry e).connected = true →
    w.session e ∈ w.raised ∧ w.failed t = some (w.session e)

section Keeping

variable {runtime : Runtime} {w w' : Tally} {task : TaskId} {point : Pc}

/-- A move that opens no session. -/
theorem Tally.Sound.goes (sound : w.Sound runtime) (safe : Safe w'.state)
    (goes : Goes w.state task point w'.state) (opened : w'.opened = w.opened)
    (raised : ∀ session ∈ w.raised, session ∈ w'.raised)
    (others : ∀ t, t ≠ task → w'.failed t = w.failed t)
    (own : w'.failed task = w.failed task ∨ ∃ e, w'.failed task = some (w.session e) ∧
      ((w.state.entry e).connected = true → w.session e ∈ w'.raised))
    (closing : ∀ e, point.hardCloses = some e → (w.state.entry e).connected = true →
      w'.failed task = some (w.session e)) : w'.Sound runtime := by
  have session : ∀ e, w'.session e = w.session e := by
    intro e
    rw [Tally.session, opened]
    rfl
  have failed : ∀ t e, w'.failed t = some (w.session e) → (w.state.entry e).connected = true →
      w.session e ∈ w'.raised := by
    intro t e failure set
    have before (same : w'.failed t = w.failed t) : w.session e ∈ w'.raised :=
      raised _ (sound.failed t e (same ▸ failure) set)
    rcases eq_or_ne t task with rfl | different
    · rcases own with same | ⟨e', now, member⟩
      · exact before same
      · rw [failure, Option.some.injEq] at now
        have entry : e = e' := congrArg Prod.fst now
        subst entry
        exact member set
    · exact before (others t different)
  constructor
  · exact safe
  · intro t
    rw [goes.tasks]
    rcases eq_or_ne t task with rfl | different
    · rw [Function.update_self]
      exact goes.spared
    · rw [Function.update_of_ne different]
      exact sound.spared t
  · intro e set
    have before := goes.flags e set
    rw [before.2]
    exact sound.onLoop e before.1
  · intro t e connects
    rw [← Bool.not_eq_true]
    intro set
    have before := (goes.flags e set).1
    rw [goes.tasks] at connects
    rcases eq_or_ne t task with rfl | different
    · rw [Function.update_self] at connects
      rw [goes.connects e connects] at before
      cases before
    · rw [Function.update_of_ne different] at connects
      rw [sound.connecting t e connects] at before
      cases before
  · intro t failure failing
    rw [opened]
    have before (same : w'.failed t = w.failed t) : failure.2 ≤ w.opened failure.1 :=
      sound.past t failure (same ▸ failing)
    rcases eq_or_ne t task with rfl | different
    · rcases own with same | ⟨e, now, -⟩
      · exact before same
      · rw [failing, Option.some.injEq] at now
        rw [now]
        exact Nat.le_refl _
    · exact before (others t different)
  · intro t e failure set
    rw [session] at failure ⊢
    exact failed t e failure (goes.flags e set).1
  · intro t e closes set
    rw [session]
    have before := (goes.flags e set).1
    rw [goes.tasks] at closes
    rcases eq_or_ne t task with rfl | different
    · rw [Function.update_self] at closes
      have failure := closing e closes before
      exact ⟨failed t e failure before, failure⟩
    · rw [Function.update_of_ne different] at closes
      have kept := sound.closing t e closes before
      exact ⟨raised _ kept.1, (others t different).trans kept.2⟩

/-- No task moves. -/
theorem Tally.Sound.frame {s : State} (sound : w.Sound runtime) (safe : Safe s)
    (tasks : s.tasks = w.state.tasks) (entry : s.entry = w.state.entry) :
    Tally.Sound runtime { w with state := s } := by
  constructor
  · exact safe
  · rw [tasks]
    exact sound.spared
  · rw [entry]
    exact sound.onLoop
  · rw [tasks, entry]
    exact sound.connecting
  · exact sound.past
  · rw [entry]
    exact sound.failed
  · rw [tasks, entry]
    exact sound.closing

/-- A connect completes: its task alone has the lock of the entry, so no other is about to
close it, or to connect it. -/
theorem Tally.Sound.opens {e : EntryId} {call : Call} (sound : w.Sound runtime)
    (safe : Safe (w.state.connected runtime task e call .returned))
    (here : w.state.tasks task = .connecting e call) :
    Tally.Sound runtime
      { w.opens e with state := w.state.connected runtime task e call .returned } := by
  have holder : (w.state.tasks task).heldLock = some (.entry e) := by
    rw [here]
    rfl
  have alone : ∀ t, t ≠ task → (w.state.tasks t).heldLock ≠ some (.entry e) := by
    intro t different held
    exact different (sound.safe.locks.exclusive t task (.entry e) held holder)
  have tasks : (w.state.connected runtime task e call .returned).tasks =
      Function.update w.state.tasks task (.yielding e call) := rfl
  have session : ∀ e', e' ≠ e → (w.opens e).session e' = w.session e' := by
    intro e' different
    simp [Tally.session, Tally.opens, different]
  have entry : ∀ e', e' ≠ e → (w.state.connected runtime task e call .returned).entry e' =
      w.state.entry e' := by
    intro e' different
    simp [State.connected, State.updateEntry, State.goto, different]
  constructor
  · exact safe
  · intro t
    rw [tasks]
    rcases eq_or_ne t task with rfl | different
    · rw [Function.update_self]
      rfl
    · rw [Function.update_of_ne different]
      exact sound.spared t
  · intro e' set
    rcases eq_or_ne e' e with rfl | different
    · simp [State.connected, State.updateEntry, State.goto]
    · rw [entry e' different] at set ⊢
      exact sound.onLoop e' set
  · intro t e' connects
    rw [tasks] at connects
    rcases eq_or_ne t task with rfl | different
    · rw [Function.update_self] at connects
      cases connects
    · rw [Function.update_of_ne different] at connects
      have other : e' ≠ e := by
        rintro rfl
        exact alone t different (Pc.heldLock_of_connects connects)
      rw [entry e' other]
      exact sound.connecting t e' connects
  · intro t failure failing
    have before := sound.past t failure failing
    simp only [Tally.opens]
    rcases eq_or_ne failure.1 e with same | different
    · rw [same, Function.update_self]
      rw [same] at before
      omega
    · rw [Function.update_of_ne different]
      exact before
  · intro t e' failing set
    rcases eq_or_ne e' e with rfl | different
    · -- the session that has just been opened is later than every failure
      have before := sound.past t _ failing
      simp only [Tally.session, Tally.opens, Function.update_self] at before
      omega
    · change w.failed t = some ((w.opens e).session e') at failing
      change (w.opens e).session e' ∈ w.raised
      rw [session e' different] at failing ⊢
      rw [entry e' different] at set
      exact sound.failed t e' failing set
  · intro t e' closes set
    rw [tasks] at closes
    rcases eq_or_ne t task with rfl | different
    · rw [Function.update_self] at closes
      cases closes
    · rw [Function.update_of_ne different] at closes
      have other : e' ≠ e := by
        rintro rfl
        exact alone t different (Pc.heldLock_of_hardCloses closes (sound.spared t))
      change (w.opens e).session e' ∈ w.raised ∧ w.failed t = some ((w.opens e).session e')
      rw [session e' other]
      rw [entry e' other] at set
      exact sound.closing t e' closes set

/-- A move that neither opens a session nor ends an attempt. -/
theorem Tally.Sound.stays {s : State} (sound : w.Sound runtime) (safe : Safe s)
    (goes : Goes w.state task point s) (closes : point.hardCloses = none) :
    Tally.Sound runtime { w with state := s } := by
  refine sound.goes safe goes rfl (fun _ member => member) (fun _ _ => rfl) (Or.inl rfl) ?_
  intro e closing
  rw [closes] at closing
  cases closing

/-- An attempt fails, on a session that has raised now or without one. -/
theorem Tally.Sound.fails {e : EntryId} {call : Call} (sound : w.Sound runtime)
    (safe : Safe w'.state)
    (goes : Goes w.state task (.leaving e call .reconnectable) w'.state)
    (opened : w'.opened = w.opened) (raised : ∀ session ∈ w.raised, session ∈ w'.raised)
    (failed : w'.failed = Function.update w.failed task (some (w.session e)))
    (member : (w.state.entry e).connected = true → w.session e ∈ w'.raised) :
    w'.Sound runtime := by
  have others : ∀ t, t ≠ task → w'.failed t = w.failed t := by
    intro t different
    rw [failed, Function.update_of_ne different]
  have own : w'.failed task = some (w.session e) := by rw [failed, Function.update_self]
  apply sound.goes safe goes opened raised others (Or.inr ⟨e, own, member⟩)
  intro e' closing
  cases closing

/-- The end of an awaited method. -/
theorem Tally.Sound.resume {outcome : Outcome} (sound : w.Sound runtime)
    (safe : Safe (w.state.resume runtime task outcome)) :
    Tally.Sound runtime
      { w.resumed task outcome with state := w.state.resume runtime task outcome } := by
  cases here : w.state.tasks task with
  | waitingRegistry use =>
      simp only [Tally.resumed, State.resume, here, State.resumeLock] at safe ⊢
      split at safe
      case isTrue woken =>
        rw [if_pos woken]
        exact sound.stays safe (goes_setLock rfl rfl rfl) rfl
      case isFalse waits =>
        rw [if_neg waits]
        exact sound
  | waitingEntry e use =>
      simp only [Tally.resumed, State.resume, here, State.resumeLock] at safe ⊢
      split at safe
      case isTrue woken =>
        rw [if_pos woken]
        exact sound.stays safe (goes_setLock rfl rfl rfl) rfl
      case isFalse waits =>
        rw [if_neg waits]
        exact sound
  | connecting e call =>
      have unconnected : (w.state.entry e).connected = false :=
        sound.connecting task e (by rw [here]; rfl)
      cases outcome with
      | returned =>
          simp only [Tally.resumed, State.resume, here] at safe ⊢
          exact sound.opens safe here
      | reconnectable =>
          simp only [Tally.resumed, State.resume, here] at safe ⊢
          refine sound.fails safe (goes_goto rfl rfl rfl) rfl (fun _ member => member) rfl ?_
          intro set
          rw [unconnected] at set
          cases set
      | otherError =>
          simp only [Tally.resumed, State.resume, here] at safe ⊢
          exact sound.stays safe (goes_goto rfl rfl rfl) rfl
  | calling e call =>
      cases outcome with
      | reconnectable =>
          simp only [Tally.resumed, State.resume, here] at safe ⊢
          exact sound.fails safe (goes_goto rfl rfl rfl) rfl
            (fun _ member => List.mem_cons_of_mem _ member) rfl fun _ => List.mem_cons_self
      | returned | otherError =>
          simp only [Tally.resumed, State.resume, here] at safe ⊢
          exact sound.stays safe (goes_goto rfl rfl rfl) rfl
  | disconnecting e after =>
      have spared := sound.spared task
      rw [here] at spared
      simp only [Tally.resumed, State.resume, here] at safe ⊢
      exact sound.stays safe (goes_goto (by cases after <;> exact spared) rfl rfl) rfl
  | _ =>
      simp only [Tally.resumed, State.resume, here]
      exact sound

/-- The running task makes its move. -/
theorem Tally.Sound.run (sound : w.Sound runtime) (current : w.state.current = some task)
    (safe : Safe (w.state.run runtime task)) (nothing : w.EvictsNothing runtime (.run task))
    (inTime : w.MarksInTime (.run task)) :
    Tally.Sound runtime { w with state := w.state.run runtime task } := by
  have selects : ∀ use, w.state.tasks task = .inRegistry use →
      w.state.selected runtime use = [] := by
    intro use here
    simpa [Tally.EvictsNothing, evicting, current, here] using nothing
  have moved : ∃ point, Goes w.state task point (w.state.run runtime task) :=
    goes_run (sound.spared task) sound.onLoop selects (sound.connecting task)
  rcases moved with ⟨point, goes⟩
  refine sound.goes safe goes rfl (fun _ member => member) (fun _ _ => rfl) (Or.inl rfl) ?_
  intro e closing set
  exact inTime current e (goes.closes e closing) set

theorem Tally.Sound.step {move : Move} (sound : w.Sound runtime)
    (nothing : w.EvictsNothing runtime move) (inTime : w.MarksInTime move) :
    (w.step runtime move).Sound runtime := by
  have unawaited : EvictsUnawaited runtime w.state move := by
    intro e evicted
    rw [nothing] at evicted
    cases evicted
  have safe : Safe (Pool.step runtime w.state move) := sound.safe.step move unawaited
  cases move with
  | tick seconds => exact sound.frame safe rfl rfl
  | start t operation =>
      simp only [Tally.step, Pool.step] at safe ⊢
      split at safe
      case isTrue ready =>
        rw [if_pos ready]
        cases operation <;> exact sound.stays safe (goes_goto rfl rfl rfl) rfl
      case isFalse unready =>
        rw [if_neg unready]
        exact sound
  | run t =>
      simp only [Tally.step, Pool.step] at safe ⊢
      split at safe
      case isTrue current =>
        rw [if_pos current]
        exact sound.run current safe nothing inTime
      case isFalse other =>
        rw [if_neg other]
        exact sound
  | resume t outcome =>
      simp only [Tally.step, Pool.step] at safe ⊢
      split at safe
      case isTrue current =>
        rw [if_pos current, if_pos current]
        exact sound.resume safe
      case isFalse other =>
        rw [if_neg other, if_neg other]
        exact sound

theorem Tally.sound_initial : Tally.Sound runtime {} where
  safe := safe_initial
  spared _ := rfl
  onLoop _ set := by cases set
  connecting _ _ connects := by cases connects
  past _ _ failing := by cases failing
  failed _ _ failing := by cases failing
  closing _ _ closes := by cases closes

theorem Tally.Sound.closesFailed {move : Move} (sound : w.Sound runtime) : w.ClosesFailed move := by
  cases move with
  | run task => exact fun _ e closes set => sound.closing task e closes set
  | _ => trivial

end Keeping

/-- In every run in which nothing is evicted and every task marks in time, a session is
only disconnected by a task whose own attempt has failed on it. -/
theorem only_failed_sessions_closed (runtime : Runtime) (moves : List Move)
    (nothing : EachStep (Tally.step runtime) (Tally.EvictsNothing runtime) {} moves)
    (inTime : EachStep (Tally.step runtime) Tally.MarksInTime {} moves) :
    EachStep (Tally.step runtime) Tally.ClosesFailed {} moves := by
  have both : EachStep (Tally.step runtime)
      (fun w move => w.EvictsNothing runtime move ∧ w.MarksInTime move) {} moves :=
    fun before move after equal =>
      ⟨nothing before move after equal, inTime before move after equal⟩
  exact both.of_invariant Tally.sound_initial (fun _ _ sound allowed => sound.step allowed.1 allowed.2)
    fun _ _ sound _ => sound.closesFailed

instance (runtime : Runtime) (w : Tally) (move : Move) : Decidable (w.EvictsNothing runtime move) :=
  inferInstanceAs (Decidable (_ = _))

instance (w : Tally) : (move : Move) → Decidable (w.MarksInTime move)
  | .run task => inferInstanceAs (Decidable (w.state.current = some task →
      ∀ e ∈ (w.state.tasks task).gotToMark, (w.state.entry e).connected = true →
        w.failed task = some (w.session e)))
  | .tick _ | .start _ _ | .resume _ _ => .isTrue trivial

/-- The calls are those of one endpoint. -/
def OnEndpoint (endpointUrl transport : String) : Move → Prop
  | .start _ (.callTool url kind) | .start _ (.listTools url kind) =>
      url = endpointUrl ∧ kind = transport
  | .start _ (.evictIdle _) => False
  | _ => True

instance (endpointUrl transport : String) : (move : Move) →
    Decidable (OnEndpoint endpointUrl transport move)
  | .start _ (.callTool url kind) | .start _ (.listTools url kind) =>
      inferInstanceAs (Decidable (url = endpointUrl ∧ kind = transport))
  | .start _ (.evictIdle _) => .isFalse id
  | .tick _ | .run _ | .resume _ _ => .isTrue trivial

/-- The round trip of the first call fails, and the call closes its session. -/
def failedOnce : List Move :=
  [.start 0 (.callTool "https://x.test" "sse")] ++ runs 0 6 ++ [.resume 0 .returned] ++ runs 0 1 ++
    [.resume 0 .reconnectable] ++ runs 0 5

theorem only_failed_sessions_closed_once :
    ((failedOnce.foldl (Tally.step exampleRuntime) {}).state.tasks 0).inDisconnect = some 0 ∧
      EachStep (Tally.step exampleRuntime) Tally.ClosesFailed {} failedOnce :=
  ⟨by decide +kernel, only_failed_sessions_closed exampleRuntime failedOnce (by decide +kernel)
    (by decide +kernel)⟩

/-- The calls 0 and 1 fail on the first session. While 0 closes it and 1 waits behind 2 to
close it, too, 2 opens the second one. -/
def failedTwice : List Move :=
  [.start 0 (.callTool "https://x.test" "sse")] ++ runs 0 6 ++ [.resume 0 .returned] ++ runs 0 1 ++
    [.start 1 (.callTool "https://x.test" "sse")] ++ runs 1 3 ++
    [.resume 0 .reconnectable] ++ runs 0 3 ++ [.resume 1 .returned] ++ runs 1 3 ++
    [.start 2 (.callTool "https://x.test" "sse")] ++ runs 2 3 ++
    [.resume 1 .reconnectable] ++ runs 1 3 ++
    [.resume 0 .returned] ++ runs 0 2 ++ [.resume 0 .returned] ++ runs 0 4 ++
    [.resume 2 .returned] ++ runs 2 2 ++ [.resume 2 .returned] ++ runs 2 1 ++
    [.resume 2 .returned] ++ runs 2 1 ++ [.resume 1 .returned] ++ runs 1 1

theorem healthy_session_closed :
    ¬ ∀ (runtime : Runtime) (endpointUrl transport : String) (moves : List Move),
      (∀ move ∈ moves, OnEndpoint endpointUrl transport move) →
        EachStep (Tally.step runtime) (Tally.EvictsNothing runtime) {} moves →
          EachStep (Tally.step runtime) Tally.ClosesFailed {} moves := by
  intro claimed
  have steps := claimed exampleRuntime "https://x.test" "sse" (failedTwice ++ [.run 1])
    (by decide) (by decide +kernel)
  have closes := steps failedTwice (.run 1) [] rfl
  have raised := (closes (by decide +kernel) 0 (by decide +kernel) (by decide +kernel)).1
  revert raised
  decide +kernel

end GrafuxMcp.Pool
