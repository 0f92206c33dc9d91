import GrafuxMcp.Pool.StaleFailures

/-! # The second attempt

A caller whose first attempt meets a reconnectable error closes what it finds under its key
and tries again. Whatever entry it then gets has been closed since, or is a new one. -/

namespace GrafuxMcp.Pool

/-! ### The property -/

/-- The attempts of the tasks. The time is the number of the moves so far. -/
structure Log where
  state : State := {}
  now : Nat := 0
  /-- When the last connect of an entry has completed. -/
  connectedAt : EntryId → Nat := fun _ => 0
  /-- How the last attempt of the operation of a task has ended, and when. -/
  ended : TaskId → Option (Outcome × Nat) := fun _ => none
  /-- The round trips of the operation. -/
  trips : TaskId → Nat := fun _ => 0

namespace Log

variable (runtime : Runtime) (w : Log)

def begin (task : TaskId) : Log :=
  { w with
    ended := Function.update w.ended task none
    trips := Function.update w.trips task 0 }

def countTrip (task : TaskId) : Log :=
  { w with trips := Function.update w.trips task (w.trips task + 1) }

def endAttempt (task : TaskId) (outcome : Outcome) : Log :=
  { w with ended := Function.update w.ended task (some (outcome, w.now)) }

def connect (e : EntryId) : Log :=
  { w with connectedAt := Function.update w.connectedAt e w.now }

/-- What the end of an awaited method means for the attempt. -/
def resumed (task : TaskId) (outcome : Outcome) : Log :=
  match w.state.tasks task, outcome with
  | .connecting e _, .returned => w.connect e
  | .connecting _ _, outcome => w.endAttempt task outcome
  | .calling _ _, outcome => w.endAttempt task outcome
  | _, _ => w

def ran (task : TaskId) : Log :=
  match w.state.tasks task with
  | .yielding _ _ => w.countTrip task
  | _ => w

def noted : Move → Log
  | .tick _ => w
  | .start task _ =>
      if w.state.current = none ∧ w.state.tasks task = .idle then w.begin task else w
  | .run task => if w.state.current = some task then w.ran task else w
  | .resume task outcome => if w.state.current = none then w.resumed task outcome else w

def step (move : Move) : Log :=
  { w.noted move with state := Pool.step runtime w.state move, now := w.now + 1 }

/-- The running task is about to connect, to make a round trip, or to leave the attempt. -/
structure RetriesOnce (task : TaskId) : Prop where
  /-- There is another attempt only after a reconnectable error. -/
  tries : ∀ e call, w.state.tasks task = .connect e call →
    w.ended task = none ∨ ∃ failed, w.ended task = some (.reconnectable, failed)
  /-- A second round trip is made on a session that was connected since. -/
  fresh : ∀ e call, w.state.tasks task = .yielding e call →
    (w.state.entry e).connected = true ∧
      ((w.ended task = none ∧ w.trips task = 0) ∨
        ∃ failed, w.ended task = some (.reconnectable, failed) ∧ failed < w.connectedAt e ∧
          w.trips task ≤ 1)
  /-- Any other error ends the operation. -/
  propagates : ∀ e call outcome, w.state.tasks task = .leaving e call outcome →
    outcome ≠ .reconnectable → (w.state.run runtime task).tasks task = .idle

def FollowsRule : Move → Prop
  | .run task => w.state.current = some task → w.RetriesOnce runtime task
  | _ => True

end Log

/-! ### The stages of an operation -/

def Call.second (call : Call) : Call :=
  { call with isFirst := false }

def Call.allowed (call : Call) : Nat :=
  if call.isFirst then 1 else 2

inductive Stage
  /-- On its way to the entry of its key. -/
  | seeking (call : Call)
  | bound (e : EntryId) (call : Call)
  | trip (e : EntryId) (call : Call)
  | leaving (call : Call) (outcome : Outcome)
  | failed (call : Call)
  /-- Closing the entry as broken. -/
  | marking (e : EntryId) (call : Call)
  /-- No round trip is to come. -/
  | away

def AfterClose.stage (e : EntryId) : AfterClose → Stage
  | .rebound call => .bound e call
  | .broken call => .marking e call
  | .evictedToCapacity _ call => .seeking call
  | .evictedIdle _ _ => .away

def EntryUse.stage (e : EntryId) : EntryUse → Stage
  | .acquire call => .bound e call
  | .markBroken call => .marking e call

def RegistryUse.stage : RegistryUse → Stage
  | .getEntry call => .seeking call
  | .evictIdle _ _ => .away

def Pc.stage : Pc → Stage
  | .idle | .evictStale _ => .away
  | .lockRegistry use | .waitingRegistry use | .inRegistry use => use.stage
  | .create call => .seeking call
  | .lockEntry e use | .waitingEntry e use | .inEntry e use => use.stage e
  | .connect e call | .connecting e call | .yielding e call => .bound e call
  | .calling e call => .trip e call
  | .leaving _ call outcome => .leaving call outcome
  | .markBroken call => .failed call
  | .hardClose e after | .disconnecting e after | .closed e after => after.stage e

/-- Where the running task goes, unless it begins a round trip. -/
inductive Leads (s s' : State) : Stage → Stage → Prop where
  | stay (stage : Stage) : Leads s s' stage stage
  | finds {e : EntryId} {call : Call} (found : s.entries.get call.key = some e) :
      Leads s s' (.seeking call) (.bound e call)
  | creates {e : EntryId} {call : Call} (unset : (s'.entry e).connected = false) :
      Leads s s' (.seeking call) (.bound e call)
  | fails {call : Call} (first : call.isFirst = true) :
      Leads s s' (.leaving call .reconnectable) (.failed call)
  | returns {call : Call} {outcome : Outcome} : Leads s s' (.leaving call outcome) .away
  | marks {e : EntryId} {call : Call} (found : s.entries.get call.key = some e) :
      Leads s s' (.failed call) (.marking e call)
  | missing {call : Call} (missing : s.entries.get call.key = none) :
      Leads s s' (.failed call) (.seeking call.second)
  | closed {e : EntryId} {call : Call} (unset : (s'.entry e).connected = false) :
      Leads s s' (.marking e call) (.seeking call.second)

/-- What the running task leaves: no session is opened, and what is found under a key was
there before or is not connected. -/
structure Runs (s : State) (task : TaskId) (point : Pc) (s' : State) : Prop where
  tasks : s'.tasks = Function.update s.tasks task point
  current : s'.current = if point.isSuspended then none else some task
  flags : ∀ e, (s'.entry e).connected = true → (s.entry e).connected = true
  found : ∀ key e, s'.entries.get key = some e →
    s.entries.get key = some e ∨ (s'.entry e).connected = false
  yields : ∀ e, point.yields = some e → (s'.entry e).connected = true

section Running

variable {runtime : Runtime} {s s' : State} {task : TaskId} {point inside waiting : Pc} {l : LockId}
  {value : AsyncLock TaskId} {stage : Stage}

theorem runs_goto (notYields : point.yields = none) : Runs s task point (s.goto task point) where
  tasks := rfl
  current := rfl
  flags _ set := set
  found _ _ found := Or.inl found
  yields e yields := by
    rw [notYields] at yields
    cases yields

theorem runs_setLock (notYields : point.yields = none) :
    Runs s task point ((s.setLock l value).goto task point) where
  tasks := by rw [State.tasks_goto, State.tasks_setLock]
  current := rfl
  flags e set := (sameFlags_setLock e).1 ▸ set
  found key e found := by
    rw [State.entries_goto, State.entries_setLock] at found
    exact Or.inl found
  yields e yields := by
    rw [notYields] at yields
    cases yields

theorem runs_acquireLock (insideStage : inside.stage = stage) (waitingStage : waiting.stage = stage)
    (insideYields : inside.yields = none) (waitingYields : waiting.yields = none) :
    ∃ point, Runs s task point (s.acquireLock task l inside waiting) ∧
      Leads s (s.acquireLock task l inside waiting) stage point.stage := by
  rw [State.acquireLock]
  split
  · refine ⟨inside, runs_setLock insideYields, ?_⟩
    rw [insideStage]
    exact .stay stage
  · refine ⟨waiting, runs_setLock waitingYields, ?_⟩
    rw [waitingStage]
    exact .stay stage

/-- An entry is marked as closed. -/
theorem runs_closed {e : EntryId} {after : AfterClose} :
    ∃ point, Runs s task point (s.closed task e after) ∧
      Leads s (s.closed task e after) (after.stage e) point.stage := by
  let marked := s.updateEntry e fun entry => { entry with connected := false }
  have unset : (marked.entry e).connected = false := by simp [marked, State.updateEntry]
  have flags : ∀ e', (marked.entry e').connected = true → (s.entry e').connected = true :=
    fun e' set => (flags_updateEntry set).1
  cases after with
  | rebound call =>
      refine ⟨.connect e call, ⟨rfl, rfl, flags, fun _ _ found => Or.inl found, ?_⟩, .stay _⟩
      intro e' yields
      cases yields
  | broken call =>
      have same : SameFlags marked
          (marked.setLock (.entry e) (marked.lock (.entry e)).release) := sameFlags_setLock
      refine ⟨State.retry call, ⟨rfl, rfl, ?_, fun _ _ found => Or.inl found, ?_⟩, .closed ?_⟩
      · intro e' set
        exact flags e' ((same e').1 ▸ set)
      · intro e' yields
        cases yields
      · exact (same e).1.trans unset
  | evictedToCapacity key call =>
      refine ⟨.create call, ⟨rfl, rfl, flags, ?_, ?_⟩, .stay _⟩
      · intro key' e' found
        have member := OrderedDict.mem_of_mem_pop (OrderedDict.mem_of_get found)
        exact Or.inl (OrderedDict.get_of_mem member)
      · intro e' yields
        cases yields
  | evictedIdle key stale =>
      refine ⟨.evictStale stale, ⟨rfl, rfl, flags, ?_, ?_⟩, .stay _⟩
      · intro key' e' found
        have member := OrderedDict.mem_of_mem_pop (OrderedDict.mem_of_get found)
        exact Or.inl (OrderedDict.get_of_mem member)
      · intro e' yields
        cases yields

/-- The move of a running task that is not about to make a round trip. -/
theorem runs_run (runs : (s.tasks task).isSuspended = false)
    (notYields : (s.tasks task).yields = none) :
    ∃ point, Runs s task point (s.run runtime task) ∧
      Leads s (s.run runtime task) (s.tasks task).stage point.stage := by
  unfold State.run
  cases here : s.tasks task with
  | lockRegistry use => exact runs_acquireLock rfl rfl rfl rfl
  | lockEntry e use => exact runs_acquireLock rfl rfl rfl rfl
  | inRegistry use =>
      cases use with
      | getEntry call =>
          have pruned : ∀ key e, (s.pruneClosedLoops runtime).entries.get key = some e →
              s.entries.get key = some e := by
            intro key e found
            have member := OrderedDict.mem_of_mem_filter (OrderedDict.mem_of_get found)
            exact OrderedDict.get_of_mem member
          simp only [State.getEntry]
          split
          case h_1 e found =>
            refine ⟨.lockEntry e (.acquire call), ⟨rfl, rfl, fun _ set => set, ?_, ?_⟩,
              .finds (pruned _ _ found)⟩
            · exact fun key e found => Or.inl (pruned key e found)
            · intro e yields
              cases yields
          case h_2 missing =>
            split
            case h_1 key e evicts =>
              refine ⟨.hardClose e (.evictedToCapacity key call),
                ⟨rfl, rfl, fun _ set => set, ?_, ?_⟩, .stay _⟩
              · exact fun key e found => Or.inl (pruned key e found)
              · intro e yields
                cases yields
            case h_2 =>
              refine ⟨.create call, ⟨rfl, rfl, fun _ set => set, ?_, ?_⟩, .stay _⟩
              · exact fun key e found => Or.inl (pruned key e found)
              · intro e yields
                cases yields
      | evictIdle now maxIdleSeconds =>
          exact ⟨.evictStale (s.stale now maxIdleSeconds), runs_goto rfl, .stay _⟩
  | create call =>
      have entry : ∀ e, ((s.create task call).entry e).connected =
          if e = s.nextEntry then false else (s.entry e).connected := by
        intro e
        rcases eq_or_ne e s.nextEntry with rfl | different
        · simp [State.create, State.releaseLock, State.goto, State.setLock, State.updateEntry]
        · simp [State.create, State.releaseLock, State.goto, State.setLock, State.updateEntry,
            different]
      have unset : ((s.create task call).entry s.nextEntry).connected = false := by
        rw [entry, if_pos rfl]
      refine ⟨.lockEntry s.nextEntry (.acquire call), ⟨rfl, rfl, ?_, ?_, ?_⟩, .creates unset⟩
      · intro e set
        rw [entry] at set
        split at set
        · cases set
        · exact set
      · intro key e found
        have named : (s.entries.set call.key s.nextEntry).get key = some e := found
        rw [OrderedDict.get_set] at named
        split at named
        · rw [Option.some.injEq] at named
          rw [← named]
          exact Or.inr unset
        · exact Or.inl named
      · intro e yields
        cases yields
  | evictStale stale =>
      cases stale with
      | nil => exact ⟨.idle, runs_setLock rfl, .stay _⟩
      | cons item stale =>
          exact ⟨.hardClose item.2 (.evictedIdle item.1 stale), runs_goto rfl, .stay _⟩
  | inEntry e use =>
      cases use with
      | acquire call =>
          simp only [State.acquire]
          split
          · exact ⟨.hardClose e (.rebound call), runs_goto rfl, .stay _⟩
          · exact ⟨.connect e call, runs_goto rfl, .stay _⟩
      | markBroken call => exact ⟨.hardClose e (.broken call), runs_goto rfl, .stay _⟩
  | connect e call =>
      simp only [State.connect]
      split
      case isTrue set =>
        refine ⟨.yielding e call, ⟨rfl, rfl, fun _ set => set, fun _ _ found => Or.inl found, ?_⟩,
          .stay _⟩
        intro e' yields
        cases yields
        exact set
      case isFalse => exact ⟨.connecting e call, runs_goto rfl, .stay _⟩
  | yielding e call =>
      rw [here] at notYields
      cases notYields
  | leaving e call outcome =>
      simp only [State.leaving]
      split
      case isTrue again =>
        have parts := Bool.and_eq_true_iff.mp again
        rw [of_decide_eq_true parts.2]
        exact ⟨.markBroken call, runs_setLock rfl, .fails parts.1⟩
      case isFalse => exact ⟨.idle, runs_setLock rfl, .returns⟩
  | markBroken call =>
      simp only [State.markBroken]
      split
      case h_1 e found => exact ⟨.lockEntry e (.markBroken call), runs_goto rfl, .marks found⟩
      case h_2 missing => exact ⟨State.retry call, runs_goto rfl, .missing missing⟩
  | hardClose e after =>
      simp only [State.hardClose]
      split
      · exact ⟨.disconnecting e after, runs_goto rfl, .stay _⟩
      · exact ⟨.closed e after, runs_goto rfl, .stay _⟩
  | closed e after => exact runs_closed
  | idle | waitingRegistry | waitingEntry | connecting | calling | disconnecting =>
      rw [here] at runs
      cases runs

end Running

/-! ### The invariant -/

namespace Log

variable (w : Log)

/-- If the entry is connected, it was connected after this time. -/
def Fresh (failed : Nat) (e : EntryId) : Prop :=
  (w.state.entry e).connected = true → failed < w.connectedAt e

/-- The first attempt of the task has met a reconnectable error. -/
def Failed (task : TaskId) (since : Nat → Prop) : Prop :=
  ∃ failed, w.ended task = some (.reconnectable, failed) ∧ since failed ∧ w.trips task ≤ 1

def Ready (task : TaskId) (call : Call) (since : Nat → Prop) : Prop :=
  if call.isFirst then w.ended task = none ∧ w.trips task = 0 else w.Failed task since

def Holds (task : TaskId) : Stage → Prop
  | .seeking call => w.Ready task call fun failed =>
      ∀ e, w.state.entries.get call.key = some e → w.Fresh failed e
  | .bound e call => w.Ready task call fun failed => w.Fresh failed e
  | .trip _ call => w.trips task ≤ call.allowed
  | .leaving call outcome =>
      (∃ failed, w.ended task = some (outcome, failed)) ∧ w.trips task ≤ call.allowed
  | .failed _ => w.Failed task fun _ => True
  | .marking e call => w.Failed task fun failed =>
      ∀ e', w.state.entries.get call.key = some e' → e' ≠ e → w.Fresh failed e'
  | .away => w.trips task ≤ 2

/-- At most one task runs, and what it has found out about an entry is still true. -/
structure Sound : Prop where
  running : ∀ t, (w.state.tasks t).isSuspended = false → w.state.current = some t
  busy : ∀ t, w.state.current = some t → (w.state.tasks t).isSuspended = false
  yields : ∀ t e, (w.state.tasks t).yields = some e → (w.state.entry e).connected = true
  past : ∀ t outcome failed, w.ended t = some (outcome, failed) → failed < w.now
  holds : ∀ t, w.Holds t (w.state.tasks t).stage

/-- What a move may do to the entries. -/
structure Advances (w w' : Log) : Prop where
  now : w.now ≤ w'.now
  flags : ∀ e, (w'.state.entry e).connected = true →
    ((w.state.entry e).connected = true ∧ w'.connectedAt e = w.connectedAt e) ∨
      w.now ≤ w'.connectedAt e
  found : ∀ key e, w'.state.entries.get key = some e →
    w.state.entries.get key = some e ∨ (w'.state.entry e).connected = false

section Frame

variable {w w' : Log} {task : TaskId} {call : Call} {failed : Nat} {stage stage' : Stage}

theorem Fresh.advance {e : EntryId} (fresh : w.Fresh failed e) (advances : Advances w w')
    (past : failed < w.now) : w'.Fresh failed e := by
  intro set
  rcases advances.flags e set with ⟨before, same⟩ | later
  · have earlier := fresh before
    omega
  · omega

theorem Failed.mono {since since' : Nat → Prop} (failed : w.Failed task since)
    (ended : w'.ended task = w.ended task) (trips : w'.trips task = w.trips task)
    (weaker : ∀ failed outcome, w.ended task = some (outcome, failed) →
      since failed → since' failed) :
    w'.Failed task since' := by
  rcases failed with ⟨failed, before, holds, count⟩
  refine ⟨failed, ended.trans before, weaker failed _ before holds, ?_⟩
  rw [trips]
  exact count

theorem Ready.mono {since since' : Nat → Prop} (ready : w.Ready task call since)
    (ended : w'.ended task = w.ended task) (trips : w'.trips task = w.trips task)
    (weaker : ∀ failed outcome, w.ended task = some (outcome, failed) →
      since failed → since' failed) :
    w'.Ready task call since' := by
  unfold Ready at ready ⊢
  split
  case isTrue first =>
    rw [if_pos first] at ready
    rw [ended, trips]
    exact ready
  case isFalse second =>
    rw [if_neg second] at ready
    exact ready.mono ended trips weaker

/-- What holds of a task holds after a move that does not change its record. -/
theorem Holds.advance (holds : w.Holds task stage) (advances : Advances w w')
    (ended : w'.ended task = w.ended task) (trips : w'.trips task = w.trips task)
    (past : ∀ outcome failed, w.ended task = some (outcome, failed) → failed < w.now) :
    w'.Holds task stage := by
  -- an entry that is found now was found before, or is not connected
  have found : ∀ failed outcome, w.ended task = some (outcome, failed) → ∀ key e,
      w'.state.entries.get key = some e →
        (w.state.entries.get key = some e → w.Fresh failed e) → w'.Fresh failed e := by
    intro failed outcome before key e named fresh
    rcases advances.found key e named with known | unset
    · exact (fresh known).advance advances (past outcome failed before)
    · intro set
      rw [unset] at set
      cases set
  cases stage with
  | seeking call =>
      refine Ready.mono holds ended trips ?_
      intro failed outcome before fresh e named
      exact found failed outcome before _ e named (fresh e)
  | bound e call =>
      refine Ready.mono holds ended trips ?_
      intro failed outcome before fresh
      exact fresh.advance advances (past outcome failed before)
  | trip e call => exact (trips ▸ holds : w'.trips task ≤ call.allowed)
  | leaving call outcome =>
      have parts : (∃ failed, w.ended task = some (outcome, failed)) ∧
        w.trips task ≤ call.allowed := holds
      rw [← ended, ← trips] at parts
      exact parts
  | failed call => exact Failed.mono holds ended trips fun _ _ _ _ => trivial
  | marking e call =>
      refine Failed.mono holds ended trips ?_
      intro failed outcome before fresh e' named other
      exact found failed outcome before _ e' named fun known => fresh e' known other
  | away => exact (trips ▸ holds : w'.trips task ≤ 2)

theorem Call.allowed_of_first (first : call.isFirst = true) : call.allowed = 1 := if_pos first

theorem Ready.trips_lt {since : Nat → Prop} (ready : w.Ready task call since) :
    w.trips task < call.allowed := by
  unfold Ready at ready
  unfold Call.allowed
  split
  case isTrue first =>
    rw [if_pos first] at ready
    omega
  case isFalse second =>
    rw [if_neg second] at ready
    rcases ready with ⟨_, _, _, count⟩
    omega

theorem Call.allowed_le (call : Call) : call.allowed ≤ 2 := by
  unfold Call.allowed
  split <;> omega

/-- The task moves from one stage to the next. -/
theorem Holds.leads (holds : w.Holds task stage) (advances : Advances w w')
    (ended : w'.ended task = w.ended task) (trips : w'.trips task = w.trips task)
    (past : ∀ outcome failed, w.ended task = some (outcome, failed) → failed < w.now)
    (leads : Leads w.state w'.state stage stage') : w'.Holds task stage' := by
  cases leads with
  | stay => exact holds.advance advances ended trips past
  | @finds e call found =>
      have bound : w.Holds task (.bound e call) :=
        Ready.mono holds rfl rfl fun _ _ _ fresh => fresh e found
      exact bound.advance advances ended trips past
  | @creates e call unset =>
      refine Ready.mono holds ended trips ?_
      intro _ _ _ _ set
      rw [unset] at set
      cases set
  | @fails call first =>
      rcases holds with ⟨⟨failed, before⟩, count⟩
      rw [Call.allowed_of_first first] at count
      have first : w.Failed task fun _ => True := ⟨failed, before, trivial, count⟩
      exact first.mono ended trips fun _ _ _ _ => trivial
  | @returns call outcome =>
      have count : w.trips task ≤ call.allowed := holds.2
      have most := Call.allowed_le call
      have bounded : w'.trips task ≤ 2 := by omega
      exact bounded
  | @marks e call found =>
      have marking : w.Holds task (.marking e call) := by
        refine Failed.mono holds rfl rfl ?_
        intro _ _ _ _ e' named other
        rw [found, Option.some.injEq] at named
        exact absurd named.symm other
      exact marking.advance advances ended trips past
  | @missing call missing =>
      have seeking : w.Holds task (.seeking call.second) := by
        refine Failed.mono holds rfl rfl ?_
        intro _ _ _ _ e named
        have none : w.state.entries.get call.key = some e := named
        rw [missing] at none
        cases none
      exact seeking.advance advances ended trips past
  | @closed e call unset =>
      have marking := holds.advance advances ended trips past
      refine Failed.mono marking rfl rfl ?_
      intro _ _ _ fresh e' named set
      rcases eq_or_ne e' e with same | other
      · rw [same, unset] at set
        cases set
      · exact fresh e' named other set

end Frame

/-! ### Moves -/

section Moves

variable {runtime : Runtime} {w w' : Log} {task : TaskId}

/-- One task moves, and the record of no other changes. -/
theorem Sound.moves (sound : w.Sound) (point : Pc)
    (tasks : w'.state.tasks = Function.update w.state.tasks task point)
    (current : w'.state.current = if point.isSuspended then none else some task)
    (turn : w.state.current = none ∨ w.state.current = some task)
    (advances : Advances w w') (later : w.now < w'.now)
    (yields : ∀ e, point.yields = some e → (w'.state.entry e).connected = true)
    (others : ∀ t, t ≠ task → w'.ended t = w.ended t ∧ w'.trips t = w.trips t)
    (own : w'.ended task = w.ended task ∨ w'.ended task = none ∨
      ∃ outcome, w'.ended task = some (outcome, w.now))
    (holds : w'.Holds task point.stage) : w'.Sound := by
  have suspended : ∀ t, t ≠ task → (w.state.tasks t).isSuspended = true := by
    intro t different
    cases runs : (w.state.tasks t).isSuspended with
    | true => rfl
    | false =>
        have now := sound.running t runs
        rcases turn with none | mine
        · rw [none] at now
          cases now
        · rw [mine, Option.some.injEq] at now
          exact absurd now.symm different
  constructor
  · intro t runs
    rw [tasks] at runs
    rcases eq_or_ne t task with rfl | different
    · rw [Function.update_self] at runs
      rw [current, runs]
      rfl
    · rw [Function.update_of_ne different, suspended t different] at runs
      cases runs
  · intro t now
    rw [current] at now
    split at now
    · cases now
    · next runs =>
        rw [Option.some.injEq] at now
        rw [tasks, ← now, Function.update_self]
        simpa using runs
  · intro t e yielded
    rw [tasks] at yielded
    rcases eq_or_ne t task with rfl | different
    · rw [Function.update_self] at yielded
      exact yields e yielded
    · rw [Function.update_of_ne different] at yielded
      have waits := suspended t different
      cases here : w.state.tasks t <;> simp_all [Pc.yields, Pc.isSuspended]
  · intro t outcome failed before
    rcases eq_or_ne t task with rfl | different
    · rcases own with same | none | ⟨other, now⟩
      · rw [same] at before
        exact Nat.lt_trans (sound.past t outcome failed before) later
      · rw [none] at before
        cases before
      · rw [now] at before
        cases before
        exact later
    · rw [(others t different).1] at before
      exact Nat.lt_trans (sound.past t outcome failed before) later
  · intro t
    rw [tasks]
    rcases eq_or_ne t task with rfl | different
    · rw [Function.update_self]
      exact holds
    · rw [Function.update_of_ne different]
      have same := others t different
      exact (sound.holds t).advance advances same.1 same.2 (sound.past t)

/-- Nothing moves. -/
theorem Sound.frame {s : State} (sound : w.Sound) (tasks : s.tasks = w.state.tasks)
    (current : s.current = w.state.current) (entry : s.entry = w.state.entry)
    (entries : s.entries = w.state.entries) :
    Sound { w with state := s, now := w.now + 1 } := by
  have advances : Advances w { w with state := s, now := w.now + 1 } := by
    refine ⟨Nat.le_succ _, ?_, ?_⟩
    · intro e set
      exact Or.inl ⟨entry ▸ set, rfl⟩
    · intro key e found
      exact Or.inl (entries ▸ found)
  constructor
  · rw [tasks, current]
    exact sound.running
  · rw [tasks, current]
    exact sound.busy
  · rw [tasks, entry]
    exact sound.yields
  · intro t outcome failed before
    exact Nat.lt_succ_of_lt (sound.past t outcome failed before)
  · intro t
    rw [tasks]
    exact (sound.holds t).advance advances rfl rfl (sound.past t)

theorem advances_runs {s : State} (moved : Runs w.state task point s) :
    Advances w { w with state := s, now := w.now + 1 } where
  now := Nat.le_succ _
  flags e set := Or.inl ⟨moved.flags e set, rfl⟩
  found := moved.found

/-- The task goes on, and its stage is still the same. -/
theorem Sound.stays {s : State} (sound : w.Sound)
    (turn : w.state.current = none ∨ w.state.current = some task)
    (moved : Runs w.state task point s) (stage : point.stage = (w.state.tasks task).stage) :
    Sound { w with state := s, now := w.now + 1 } := by
  have advances := advances_runs moved
  refine sound.moves _ moved.tasks moved.current turn advances (Nat.lt_succ_self _) moved.yields
    (fun _ _ => ⟨rfl, rfl⟩) (Or.inl rfl) ?_
  rw [stage]
  exact (sound.holds task).advance advances rfl rfl (sound.past task)

/-- The running task makes its move. -/
theorem Sound.run (sound : w.Sound) (current : w.state.current = some task) :
    Sound { w.ran task with state := w.state.run runtime task, now := w.now + 1 } := by
  have runs := sound.busy task current
  cases yielded : (w.state.tasks task).yields with
  | none =>
      have same : w.ran task = w := by
        unfold ran
        split
        case h_1 e call here =>
          rw [here] at yielded
          cases yielded
        case h_2 => rfl
      have steps : ∃ point, Runs w.state task point (w.state.run runtime task) ∧
          Leads w.state (w.state.run runtime task) (w.state.tasks task).stage point.stage :=
        runs_run runs yielded
      rcases steps with ⟨point, moved, leads⟩
      rw [same]
      have advances := advances_runs moved
      exact sound.moves _ moved.tasks moved.current (Or.inr current) advances (Nat.lt_succ_self _)
        moved.yields (fun _ _ => ⟨rfl, rfl⟩) (Or.inl rfl)
        (Holds.leads (sound.holds task) advances rfl rfl (sound.past task) leads)
  | some e =>
      cases here : w.state.tasks task with
      | yielding e call =>
          have flag : ∀ e', ((w.state.yielding task e call).entry e').connected =
              (w.state.entry e').connected := by
            intro e'
            rcases eq_or_ne e' e with rfl | different
            · simp [State.yielding, State.updateEntry, State.goto]
            · simp [State.yielding, State.updateEntry, State.goto, different]
          have bound : w.Holds task (.bound e call) := by
            have holds := sound.holds task
            rw [here] at holds
            exact holds
          have count := Ready.trips_lt bound
          simp only [ran, State.run, here]
          apply sound.moves (.calling e call) rfl rfl (Or.inr current)
          · refine ⟨Nat.le_succ _, ?_, fun _ _ found => Or.inl found⟩
            intro e' set
            exact Or.inl ⟨(flag e').symm.trans set, rfl⟩
          · exact Nat.lt_succ_self _
          · intro e' yields
            cases yields
          · intro t different
            exact ⟨rfl, Function.update_of_ne different _ _⟩
          · exact Or.inl rfl
          · have one : (w.countTrip task).trips task = w.trips task + 1 := Function.update_self ..
            have bounded : (w.countTrip task).trips task ≤ call.allowed := by omega
            exact bounded
      | _ =>
          rw [here] at yielded
          cases yielded

/-- An attempt ends without a result, or with its round trip. -/
theorem Sound.ends {e : EntryId} {call : Call} {outcome : Outcome} (sound : w.Sound)
    (current : w.state.current = none) (count : w.trips task ≤ call.allowed) :
    Sound { w.endAttempt task outcome with
      state := w.state.goto task (.leaving e call outcome), now := w.now + 1 } := by
  have recorded : (w.endAttempt task outcome).ended task = some (outcome, w.now) :=
    Function.update_self ..
  apply sound.moves (.leaving e call outcome) rfl rfl (Or.inl current)
  · exact ⟨Nat.le_succ _, fun _ set => Or.inl ⟨set, rfl⟩, fun _ _ found => Or.inl found⟩
  · exact Nat.lt_succ_self _
  · intro e' yields
    cases yields
  · intro t different
    exact ⟨Function.update_of_ne different _ _, rfl⟩
  · exact Or.inr (Or.inr ⟨outcome, recorded⟩)
  · exact ⟨⟨w.now, recorded⟩, count⟩

/-- A connect completes. -/
theorem Sound.connects {e : EntryId} {call : Call} (sound : w.Sound)
    (current : w.state.current = none) (here : w.state.tasks task = .connecting e call) :
    Sound { w.connect e with
      state := w.state.connected runtime task e call .returned, now := w.now + 1 } := by
  have entry : ∀ e', e' ≠ e → (w.state.connected runtime task e call .returned).entry e' =
      w.state.entry e' := by
    intro e' different
    simp [State.connected, State.updateEntry, State.goto, different]
  have advances : Advances w { w.connect e with
      state := w.state.connected runtime task e call .returned, now := w.now + 1 } := by
    refine ⟨Nat.le_succ _, ?_, fun _ _ found => Or.inl found⟩
    intro e' set
    rcases eq_or_ne e' e with rfl | different
    · right
      simp [connect]
    · left
      rw [entry e' different] at set
      exact ⟨set, Function.update_of_ne different _ _⟩
  apply sound.moves (.yielding e call) rfl rfl (Or.inl current) advances
  · exact Nat.lt_succ_self _
  · intro e' yields
    cases yields
    simp [State.connected, State.updateEntry, State.goto]
  · exact fun _ _ => ⟨rfl, rfl⟩
  · exact Or.inl rfl
  · have bound : w.Holds task (.bound e call) := by
      have holds := sound.holds task
      rw [here] at holds
      exact holds
    exact bound.advance advances rfl rfl (sound.past task)

theorem Sound.resumeLock {l : LockId} (sound : w.Sound) (current : w.state.current = none)
    (stage : point.stage = (w.state.tasks task).stage) (notYields : point.yields = none) :
    Sound { w with state := w.state.resumeLock task l point, now := w.now + 1 } := by
  unfold State.resumeLock
  split
  · exact sound.stays (Or.inl current) (runs_setLock notYields) stage
  · exact sound.frame rfl rfl rfl rfl

theorem Sound.resume {outcome : Outcome} (sound : w.Sound) (current : w.state.current = none) :
    Sound { w.resumed task outcome with
      state := w.state.resume runtime task outcome, now := w.now + 1 } := by
  have holds := sound.holds task
  cases here : w.state.tasks task with
  | waitingRegistry use =>
      simp only [resumed, State.resume, here]
      exact sound.resumeLock current (by rw [here]; rfl) rfl
  | waitingEntry e use =>
      simp only [resumed, State.resume, here]
      exact sound.resumeLock current (by rw [here]; rfl) rfl
  | connecting e call =>
      rw [here] at holds
      have count : w.trips task < call.allowed := Ready.trips_lt holds
      cases outcome with
      | returned =>
          simp only [resumed, State.resume, here]
          exact sound.connects current here
      | reconnectable | otherError =>
          simp only [resumed, State.resume, here]
          exact sound.ends current (Nat.le_of_lt count)
  | calling e call =>
      rw [here] at holds
      simp only [resumed, State.resume, here]
      exact sound.ends current holds
  | disconnecting e after =>
      simp only [resumed, State.resume, here]
      exact sound.stays (Or.inl current) (runs_goto rfl) (by rw [here]; rfl)
  | _ =>
      simp only [resumed, State.resume, here]
      exact sound.frame rfl rfl rfl rfl

theorem Sound.start {operation : Operation} (sound : w.Sound) (current : w.state.current = none) :
    Sound { w.begin task with
      state := w.state.start task operation, now := w.now + 1 } := by
  have ended : (w.begin task).ended task = none := Function.update_self ..
  have trips : (w.begin task).trips task = 0 := Function.update_self ..
  have others : ∀ t, t ≠ task → (w.begin task).ended t = w.ended t ∧
      (w.begin task).trips t = w.trips t :=
    fun t different => ⟨Function.update_of_ne different _ _, Function.update_of_ne different _ _⟩
  have begins : ∀ point, point.yields = none →
      Holds { w.begin task with state := w.state.goto task point, now := w.now + 1 } task
        point.stage →
      Sound { w.begin task with state := w.state.goto task point, now := w.now + 1 } := by
    intro point notYields holds
    apply sound.moves point rfl rfl (Or.inl current)
    · exact ⟨Nat.le_succ _, fun _ set => Or.inl ⟨set, rfl⟩, fun _ _ found => Or.inl found⟩
    · exact Nat.lt_succ_self _
    · intro e yields
      rw [notYields] at yields
      cases yields
    · exact others
    · exact Or.inr (Or.inl ended)
    · exact holds
  cases operation with
  | callTool endpointUrl transport => exact begins _ rfl ⟨ended, trips⟩
  | listTools endpointUrl transport => exact begins _ rfl ⟨ended, trips⟩
  | evictIdle maxIdleSeconds =>
      refine begins _ rfl ?_
      have none : (w.begin task).trips task ≤ 2 := by omega
      exact none

theorem Sound.step (move : Move) (sound : w.Sound) : (w.step runtime move).Sound := by
  cases move with
  | tick seconds => exact sound.frame rfl rfl rfl rfl
  | start t operation =>
      simp only [Log.step, noted, Pool.step]
      split
      case isTrue ready => exact sound.start ready.1
      case isFalse => exact sound.frame rfl rfl rfl rfl
  | run t =>
      simp only [Log.step, noted, Pool.step]
      split
      case isTrue current => exact sound.run current
      case isFalse => exact sound.frame rfl rfl rfl rfl
  | resume t outcome =>
      simp only [Log.step, noted, Pool.step]
      split
      case isTrue current => exact sound.resume current
      case isFalse => exact sound.frame rfl rfl rfl rfl

theorem sound_initial : Sound {} where
  running _ runs := by cases runs
  busy _ now := by cases now
  yields _ _ yielded := by cases yielded
  past _ _ _ before := by cases before
  holds _ := Nat.zero_le 2

end Moves

/-! ### What the invariant says -/

section Rule

variable {runtime : Runtime} {w : Log} {task : TaskId} {stage : Stage}

theorem Failed.trips_le {since : Nat → Prop} (failed : w.Failed task since) : w.trips task ≤ 2 := by
  rcases failed with ⟨_, _, _, count⟩
  omega

theorem Holds.trips_le (holds : w.Holds task stage) : w.trips task ≤ 2 := by
  cases stage with
  | seeking call | bound e call =>
      have count := Ready.trips_lt holds
      have most := Call.allowed_le call
      omega
  | trip e call => exact Nat.le_trans holds (Call.allowed_le call)
  | leaving call outcome => exact Nat.le_trans holds.2 (Call.allowed_le call)
  | failed call | marking e call => exact Failed.trips_le holds
  | away => exact holds

theorem Ready.cases {call : Call} {since : Nat → Prop} (ready : w.Ready task call since) :
    (w.ended task = none ∧ w.trips task = 0) ∨ w.Failed task since := by
  unfold Ready at ready
  split at ready
  · exact Or.inl ready
  · exact Or.inr ready

theorem Sound.retriesOnce (sound : w.Sound) : w.RetriesOnce runtime task := by
  have holds := sound.holds task
  constructor
  · intro e call here
    rw [here] at holds
    rcases Ready.cases holds with first | ⟨failed, before, _⟩
    · exact Or.inl first.1
    · exact Or.inr ⟨failed, before⟩
  · intro e call here
    have set := sound.yields task e (by rw [here]; rfl)
    rw [here] at holds
    refine ⟨set, ?_⟩
    rcases Ready.cases holds with first | ⟨failed, before, fresh, count⟩
    · exact Or.inl first
    · exact Or.inr ⟨failed, before, fresh set, count⟩
  · intro e call outcome here other
    have last : (call.isFirst && decide (outcome = .reconnectable)) = false := by simp [other]
    simp only [State.run, here, State.leaving, last]
    exact Function.update_self ..

end Rule

end Log

/-- In every run, an operation makes at most two round trips. There is a second attempt only
after a reconnectable error of the first, and its round trip is made on a session that was
connected after that error. -/
theorem retry_on_fresh_session (runtime : Runtime) (moves : List Move) :
    EachStep (Log.step runtime) (Log.FollowsRule runtime) {} moves ∧
      EachState (Log.step runtime) (fun w => ∀ task, w.trips task ≤ 2) {} moves := by
  have every : EachStep (Log.step runtime) (fun _ _ => True) {} moves :=
    fun _ _ _ _ => trivial
  have kept : ∀ w move, Log.Sound w → True → (w.step runtime move).Sound :=
    fun _ move sound _ => sound.step move
  constructor
  · refine every.of_invariant Log.sound_initial kept ?_
    intro w move sound _
    cases move with
    | run task => exact fun _ => sound.retriesOnce
    | _ => trivial
  · exact (every.invariant Log.sound_initial kept).mono
      fun _ sound task => Log.Holds.trips_le (sound.holds task)

/-- The first session fails, is closed, and the second round trip is made on the next one. -/
example :
    let retried := failedOnce ++ [Move.resume 0 .returned] ++ runs 0 6 ++
      [Move.resume 0 .returned] ++ runs 0 2
    let ended := retried.foldl (Log.step exampleRuntime) {}
    ended.trips 0 = 2 ∧ ended.ended 0 = some (.reconnectable, 9) := by
  decide +kernel

end GrafuxMcp.Pool
