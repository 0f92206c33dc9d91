import GrafuxMcp.Pool.LiveSessions

/-! # Tasks cancelled at an await

A cancellation is raised at the await where a task is suspended. `except Exception`
does not catch it, so it leaves every block that the task is in: the locks are given
back, and what the block had still to do is not done. -/

namespace GrafuxMcp.Pool

/-- What the scheduler does next: a move, or a cancellation of a suspended task. -/
inductive Turn where
  | move (move : Move)
  | cancel (task : TaskId)
  deriving DecidableEq, Repr

namespace State

variable (s : State) (task : TaskId)

/-- A task that waits for a lock leaves its queue; any other gives back the lock
that it holds. -/
def leaveQueue (l : LockId) : State :=
  (s.setLock l ((s.lock l).leave task)).goto task .idle

def cancel : State :=
  match s.tasks task with
  | .waitingRegistry _ => s.leaveQueue task .registry
  | .waitingEntry e _ => s.leaveQueue task (.entry e)
  | .connecting e _ | .calling e _ => s.releaseLock task (.entry e) .idle
  | .disconnecting e after => s.releaseLock task (after.lock e) .idle
  | _ => s

end State

namespace Sessions

variable (runtime : Runtime) (w : Sessions)

def turn : Turn → Sessions
  | .move move => w.step runtime move
  | .cancel task =>
      if w.state.current = none then { w with state := w.state.cancel task } else w

end Sessions

/-! ### The property and its condition -/

/-- Whenever `acquire` yields a wrapper, its most recent connect has completed and no
disconnect has begun since; no entry stays registered as connected without a live
session, once nobody is closing it. -/
structure FlagsTrue (w : Sessions) : Prop where
  yielded : ∀ t e, (w.state.tasks t).yields = some e → isReady e w.history = true
  registered : ∀ key e, (key, e) ∈ w.state.entries.items → (w.state.entry e).connected = true →
    isLive e w.history = true ∨ ∃ t, (w.state.tasks t).closes = some e

/-- No task is cancelled inside `wrapper.disconnect`. -/
def SparesDisconnect (s : State) : Turn → Prop
  | .cancel task => (s.tasks task).inDisconnect = none
  | .move _ => True

/-- No task is queued for an entry that a move selects for eviction, to use its
session. -/
def TurnUnawaited (runtime : Runtime) (s : State) : Turn → Prop
  | .move move => EvictsUnawaited runtime s move
  | .cancel _ => True

instance (s : State) : (turn : Turn) → Decidable (SparesDisconnect s turn)
  | .cancel task => inferInstanceAs (Decidable ((s.tasks task).inDisconnect = none))
  | .move _ => isTrue trivial

instance (runtime : Runtime) (s : State) : (turn : Turn) →
    Decidable (TurnUnawaited runtime s turn)
  | .move move => inferInstanceAs (Decidable (EvictsUnawaited runtime s move))
  | .cancel _ => isTrue trivial

theorem Pc.inHand_of_yields {point : Pc} {e : EntryId} (yielded : point.yields = some e) :
    point.inHand = some e := by
  cases point <;> simp_all [yields, inHand]

/-! ### What a cancellation keeps -/

section Rules

variable {runtime : Runtime} {s : State} {history : List SessionEvent} {task : TaskId}
  {l : LockId} {e : EntryId}

theorem Safe.leaveQueue (safe : Safe s) (current : s.current = none) :
    Safe (s.leaveQueue task l) := by
  have placed : Placed (s.goto task .idle) := by
    apply safe.placed.goto_of_subset (Or.inl current) <;>
      simp [Pc.targets, Pc.acquired, Pc.atEntry]
  constructor
  · unfold State.leaveQueue
    rw [State.lock_goto, State.tasks_goto, State.lock_setLock, State.tasks_setLock]
    apply safe.locks.leave <;> simp [Pc.heldLock, Pc.awaitedLock]
  · exact placed.frame (by simp [State.leaveQueue]) (by simp [State.leaveQueue])
      (by simp [State.leaveQueue]) (by simp [State.leaveQueue])

theorem Safe.abandon (safe : Safe s) (current : s.current = none)
    (held : (s.tasks task).heldLock = some l) : Safe (s.releaseLock task l .idle) := by
  apply safe.releaseLock _ held rfl rfl
  apply safe.placed.goto_of_subset (Or.inl current) <;>
    simp [Pc.targets, Pc.acquired, Pc.atEntry]

theorem Safe.cancel (safe : Safe s) (current : s.current = none) : Safe (s.cancel task) := by
  unfold State.cancel
  cases here : s.tasks task with
  | waitingRegistry use => exact safe.leaveQueue current
  | waitingEntry e use => exact safe.leaveQueue current
  | connecting e call => exact safe.abandon current (by rw [here]; rfl)
  | calling e call => exact safe.abandon current (by rw [here]; rfl)
  | disconnecting e after => exact safe.abandon current (by rw [here]; rfl)
  | _ => exact safe

/-- The task is not closing an entry. -/
theorem Linked.abandon (linked : Linked runtime s history) {value : AsyncLock TaskId}
    (opened : (s.tasks task).closes = none) :
    Linked runtime ((s.setLock l value).goto task .idle) history := by
  apply linked.gotoWithLock
  constructor
  · intro e call used
    cases used
  · exact Or.inl (List.nil_sublist _)
  · intro call creates
    cases creates
  · intro e closes
    cases closes
  · intro e closes
    rw [opened] at closes
    cases closes
  · intro e yields
    cases yields

theorem Linked.cancel (linked : Linked runtime s history)
    (spares : (s.tasks task).inDisconnect = none) : Linked runtime (s.cancel task) history := by
  unfold State.cancel
  cases here : s.tasks task with
  | waitingRegistry use => exact linked.abandon (by rw [here]; rfl)
  | waitingEntry e use => exact linked.abandon (by rw [here]; rfl)
  | connecting e call => exact linked.abandon (by rw [here]; rfl)
  | calling e call => exact linked.abandon (by rw [here]; rfl)
  | disconnecting e after =>
      rw [here] at spares
      cases spares
  | _ => exact linked

end Rules

/-! ### The flags -/

theorem isLive_of_isReady {e : EntryId} {history : List SessionEvent}
    (ready : isReady e history = true) : isLive e history = true := by
  induction history with
  | nil => cases ready
  | cons event history induction =>
      cases event with
      | connecting e' =>
          have parts : (e' != e && isReady e history) = true := ready
          exact induction (Bool.and_eq_true_iff.mp parts).2
      | connected e' =>
          have parts : (e' == e || isReady e history) = true := ready
          have goal : (e' == e || isLive e history) = true := by
            rcases Bool.or_eq_true_iff.mp parts with same | before
            · simp [same]
            · simp [induction before]
          exact goal
      | disconnecting e' =>
          have parts : (e' != e && isReady e history) = true := ready
          have before := Bool.and_eq_true_iff.mp parts
          have goal : (e' != e && isLive e history) = true :=
            Bool.and_eq_true_iff.mpr ⟨before.1, induction before.2⟩
          exact goal

variable {runtime : Runtime} {w : Sessions}

/-- No task closes an entry that another has in hand. -/
theorem Safe.unclosed_inHand {s : State} {t u : TaskId} {e : EntryId} (safe : Safe s)
    (hand : (s.tasks t).inHand = some e) : (s.tasks u).closes ≠ some e := by
  intro closes
  have uses := Pc.acquired_of_inHand hand
  rcases Pc.of_closes closes with target | holds
  · exact absurd uses.1 (safe.placed.apart u t e target)
  · have same := safe.locks.exclusive u t (.entry e) holds uses.2
    rw [same] at closes
    cases point : s.tasks t <;> simp_all [Pc.inHand, Pc.closes]

theorem Linked.ready_inHand {s : State} {history : List SessionEvent} {t : TaskId} {e : EntryId}
    (linked : Linked runtime s history) (safe : Safe s) (hand : (s.tasks t).inHand = some e) :
    isReady e history = true := by
  rcases linked.flagged e (linked.inHand t e hand) with ready | ⟨u, closes⟩
  · exact ready
  · exact absurd closes (safe.unclosed_inHand hand)

theorem Linked.flagsTrue (linked : Linked runtime w.state w.history) (safe : Safe w.state) :
    FlagsTrue w := by
  constructor
  · intro t e yields
    exact linked.ready_inHand safe (Pc.inHand_of_yields yields)
  · intro key e _ connected
    exact (linked.flagged e connected).imp_left isLive_of_isReady

theorem sound_turn {turn : Turn} (sound : Safe w.state ∧ Linked runtime w.state w.history)
    (allowed : SparesDisconnect w.state turn ∧ TurnUnawaited runtime w.state turn) :
    Safe (w.turn runtime turn).state ∧
      Linked runtime (w.turn runtime turn).state (w.turn runtime turn).history := by
  cases turn with
  | move move => exact ⟨sound.1.step move allowed.2, sound.2.step sound.1 move⟩
  | cancel task =>
      simp only [Sessions.turn]
      split
      case isTrue current => exact ⟨sound.1.cancel current, sound.2.cancel allowed.1⟩
      case isFalse => exact sound

/-- In every run in which no task is cancelled inside `wrapper.disconnect`, and whose
evictions select no entry that a task awaits to use it, the flags are true. -/
theorem flags_true (runtime : Runtime) (turns : List Turn)
    (spared : EachStep (Sessions.turn runtime)
      (fun w turn => SparesDisconnect w.state turn ∧ TurnUnawaited runtime w.state turn) {}
      turns) :
    EachState (Sessions.turn runtime) FlagsTrue {} turns := by
  have initially : Safe {} ∧ Linked runtime {} [] := ⟨safe_initial, linked_initial⟩
  have sound : EachState (Sessions.turn runtime)
      (fun w => Safe w.state ∧ Linked runtime w.state w.history) {} turns :=
    spared.invariant initially fun _ _ sound allowed => sound_turn sound allowed
  exact sound.mono fun _ sound => sound.2.flagsTrue sound.1

def asTurns (moves : List Move) : List Turn :=
  moves.map .move

/-- The first call is cancelled while it connects; the queued one then connects. -/
def cancelledConnect : List Turn :=
  asTurns ([.start 0 (.callTool "https://x.test" "sse")] ++ runs 0 6 ++
    [.start 1 (.callTool "https://x.test" "sse")] ++ runs 1 3) ++ [.cancel 0] ++
    asTurns ([.resume 1 .returned] ++ runs 1 2 ++ [.resume 1 .returned])

theorem flags_true_cancelled :
    ((cancelledConnect.foldl (Sessions.turn exampleRuntime) {}).state.tasks 1).yields = some 0 ∧
      EachState (Sessions.turn exampleRuntime) FlagsTrue {} cancelledConnect :=
  ⟨by decide +kernel, flags_true exampleRuntime cancelledConnect (by decide +kernel)⟩

/-- The pool of one entry. -/
def smallRuntime : Runtime where
  remotePoolMaxSize := 1
  running := 0
  isClosed _ := false
  running_open := rfl

/-- A call to a second endpoint evicts the first entry and is cancelled while it
disconnects it; then the first endpoint is called again. -/
def cancelledEviction : List Turn :=
  asTurns ([.start 0 (.callTool "https://x.test" "sse")] ++ runs 0 6 ++ [.resume 0 .returned] ++
    runs 0 1 ++ [.resume 0 .returned] ++ runs 0 1 ++
    [.start 1 (.callTool "https://y.test" "sse")] ++ runs 1 3) ++ [.cancel 1] ++
    asTurns ([.start 0 (.callTool "https://x.test" "sse")] ++ runs 0 5)

theorem evicted_entry_left_connected :
    ¬ ∀ runtime turns, EachState (Sessions.turn runtime) FlagsTrue {} turns := by
  intro always
  have last : FlagsTrue (cancelledEviction.foldl (Sessions.turn smallRuntime) {}) :=
    always smallRuntime cancelledEviction cancelledEviction [] (by simp)
  have ready := last.yielded 0 0 (by decide +kernel)
  revert ready
  decide +kernel

end GrafuxMcp.Pool
