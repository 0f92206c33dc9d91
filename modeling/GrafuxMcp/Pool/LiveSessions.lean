import GrafuxMcp.Pool.SessionSafety

/-! # One live session per endpoint

A session is live from the end of its connect until a disconnect begins. The
history of the wrappers says which sessions are, beside the state of the pool. -/

namespace GrafuxMcp.Pool

/-! ### The history of the sessions -/

inductive SessionEvent where
  | connecting (entry : EntryId)
  | connected (entry : EntryId)
  | disconnecting (entry : EntryId)
  deriving DecidableEq, Repr

/-- The history begins with its last event. A connect of the wrapper has completed
and no disconnect has begun since. -/
def isLive (e : EntryId) : List SessionEvent → Bool
  | [] => false
  | .connecting _ :: history => isLive e history
  | .connected e' :: history => e' == e || isLive e history
  | .disconnecting e' :: history => e' != e && isLive e history

/-- The most recent connect of the wrapper has completed and no disconnect has
begun since. -/
def isReady (e : EntryId) : List SessionEvent → Bool
  | [] => false
  | .connected e' :: history => e' == e || isReady e history
  | .connecting e' :: history | .disconnecting e' :: history => e' != e && isReady e history

def sessionEvent? (s : State) : Move → Option SessionEvent
  | .run task =>
      if s.current = some task then
        match s.tasks task with
        | .connect e _ => if (s.entry e).connected then none else some (.connecting e)
        | .hardClose e _ => if (s.entry e).connected then some (.disconnecting e) else none
        | _ => none
      else none
  | .resume task .returned =>
      if s.current = none then
        match s.tasks task with
        | .connecting e _ => some (.connected e)
        | _ => none
      else none
  | _ => none

structure Sessions where
  state : State := {}
  history : List SessionEvent := []

def MCPClientWrapper.key (wrapper : MCPClientWrapper) : Key :=
  (wrapper.endpointUrl, wrapper.transport)

namespace Sessions

variable (runtime : Runtime) (w : Sessions)

def step (move : Move) : Sessions where
  state := Pool.step runtime w.state move
  history := (sessionEvent? w.state move).toList ++ w.history

/-- `_hard_close` of an entry while no other task runs. -/
def hardClose (e : EntryId) : Sessions where
  state := w.state.updateEntry e fun entry => { entry with connected := false }
  history := if (w.state.entry e).connected then .disconnecting e :: w.history else w.history

/-- `aclose_all` while no other task runs: it waits for ever if the registry lock
is not given back. -/
def acloseAll : Sessions :=
  if w.state.registryLock.isFree then
    let closed := (w.state.entries.items.map Prod.snd).foldl hardClose w
    { closed with state := { closed.state with entries := .empty } }
  else w

end Sessions

/-! ### Control points -/

namespace Pc

/-- The entry that the task is using, or about to use, and its call. -/
def uses : Pc → Option (EntryId × Call)
  | .lockEntry e (.acquire call) | .waitingEntry e (.acquire call) | .inEntry e (.acquire call)
  | .hardClose e (.rebound call) | .disconnecting e (.rebound call) | .closed e (.rebound call)
  | .connect e call | .connecting e call | .yielding e call | .calling e call => some (e, call)
  | _ => none

/-- The items that the task is going to evict. -/
def evicts : Pc → List (Key × EntryId)
  | .evictStale stale => stale
  | .hardClose e (.evictedToCapacity key _) | .disconnecting e (.evictedToCapacity key _)
  | .closed e (.evictedToCapacity key _) => [(key, e)]
  | .hardClose e (.evictedIdle key stale) | .disconnecting e (.evictedIdle key stale)
  | .closed e (.evictedIdle key stale) => (key, e) :: stale
  | _ => []

/-- The call for which the task is going to create an entry. -/
def creates : Pc → Option Call
  | .create call | .hardClose _ (.evictedToCapacity _ call)
  | .disconnecting _ (.evictedToCapacity _ call) | .closed _ (.evictedToCapacity _ call) =>
      some call
  | _ => none

/-- The task has begun to disconnect the entry or found it disconnected. -/
def closes : Pc → Option EntryId
  | .disconnecting e _ | .closed e _ => some e
  | _ => none

/-- The task has the wrapper in hand, connected. -/
def inHand : Pc → Option EntryId
  | .yielding e _ | .calling e _ => some e
  | _ => none

variable {point : Pc} {e : EntryId} {call : Call}

theorem acquired_of_inHand (hand : point.inHand = some e) :
    point.acquired = some e ∧ point.heldLock = some (.entry e) := by
  cases point <;> simp_all [inHand, acquired, heldLock]

theorem acquired_of_uses (used : point.uses = some (e, call)) : point.acquired = some e := by
  cases point with
  | lockEntry _ use | waitingEntry _ use | inEntry _ use =>
      cases use <;> simp_all [uses, acquired]
  | hardClose _ after | disconnecting _ after | closed _ after =>
      cases after <;> simp_all [uses, acquired]
  | _ => simp_all [uses, acquired]

theorem targets_eq_evicts : point.targets = point.evicts.map Prod.snd := by
  cases point with
  | hardClose _ after | disconnecting _ after | closed _ after =>
      cases after <;> rfl
  | _ => rfl

theorem heldLock_of_creates (creating : point.creates = some call) :
    point.heldLock = some .registry := by
  cases point with
  | hardClose _ after | disconnecting _ after | closed _ after =>
      cases after <;> simp_all [creates, heldLock, AfterClose.lock]
  | _ => simp_all [creates, heldLock]

theorem of_closes (closing : point.closes = some e) :
    e ∈ point.targets ∨ point.heldLock = some (.entry e) := by
  cases point with
  | disconnecting _ after | closed _ after =>
      cases after <;> simp_all [closes, targets, heldLock, AfterClose.lock]
  | _ => simp [closes] at closing

end Pc

/-! ### The invariant -/

/-- The pool, the tasks and the history of the sessions agree. -/
structure Linked (runtime : Runtime) (s : State) (history : List SessionEvent) : Prop where
  keyed : ∀ item ∈ s.entries.items, item.1 = (s.entry item.2).wrapper.key
  onLoop : ∀ e, (s.entry e).loop = none ∨ (s.entry e).loop = some runtime.running
  used : ∀ t e call, (s.tasks t).uses = some (e, call) → (call.key, e) ∈ s.entries.items
  evicted : ∀ t, (s.tasks t).evicts.Sublist s.entries.items
  vacant : ∀ t call, (s.tasks t).creates = some call → s.entries.get call.key = none
  live : ∀ e, isLive e history = true →
    (s.entry e).connected = true ∧ ∃ key, (key, e) ∈ s.entries.items
  closing : ∀ t e, (s.tasks t).closes = some e → isLive e history = false
  /-- A flag that is set without a live session is about to be cleared. -/
  flagged : ∀ e, (s.entry e).connected = true →
    isReady e history = true ∨ ∃ t, (s.tasks t).closes = some e
  inHand : ∀ t e, (s.tasks t).inHand = some e → (s.entry e).connected = true
  unborn : ∀ e, s.nextEntry ≤ e → (s.entry e).connected = false

/-- The entries differ in their locks and times at most. -/
def SameEntries (s s' : State) : Prop :=
  ∀ e, (s'.entry e).wrapper = (s.entry e).wrapper ∧ (s'.entry e).loop = (s.entry e).loop ∧
    (s'.entry e).connected = (s.entry e).connected

section Rules

variable {runtime : Runtime} {s s' : State} {history : List SessionEvent} {task : TaskId}
  {point : Pc} {e : EntryId}

/-- The task moves on, and no session gets live. -/
theorem Linked.move {history' : List SessionEvent} (linked : Linked runtime s history)
    (tasks : s'.tasks = Function.update s.tasks task point)
    (items : s'.entries.items = s.entries.items) (same : SameEntries s s')
    (born : s.nextEntry ≤ s'.nextEntry)
    (used : ∀ e call, point.uses = some (e, call) →
      (s.tasks task).uses = some (e, call) ∨ (call.key, e) ∈ s.entries.items)
    (evicted : point.evicts.Sublist (s.tasks task).evicts ∨
      point.evicts.Sublist s.entries.items)
    (vacant : ∀ call, point.creates = some call →
      (s.tasks task).creates = some call ∨ s.entries.get call.key = none)
    (closing : ∀ e, point.closes = some e →
      (s.tasks task).closes = some e ∨ isLive e history' = false)
    (keepsClosing : ∀ e, (s.tasks task).closes = some e →
      point.closes = some e ∨ (s.entry e).connected = false)
    (inHand : ∀ e, point.inHand = some e → (s.entry e).connected = true)
    (live : ∀ e, isLive e history' = true → isLive e history = true)
    (ready : ∀ e, isReady e history = true →
      isReady e history' = true ∨ point.closes = some e ∨ (s.entry e).connected = false) :
    Linked runtime s' history' := by
  have moved : ∀ t, s'.tasks t = if t = task then point else s.tasks t := by
    intro t
    rw [tasks, Function.update_apply]
  constructor
  · intro item member
    rw [items] at member
    rw [(same item.2).1]
    exact linked.keyed item member
  · intro e
    rw [(same e).2.1]
    exact linked.onLoop e
  · intro t e call uses
    rw [items]
    rw [moved] at uses
    split at uses
    · exact (used e call uses).elim (linked.used task e call) id
    · exact linked.used t e call uses
  · intro t
    rw [items, moved]
    split
    · exact evicted.elim (fun before => before.trans (linked.evicted task)) id
    · exact linked.evicted t
  · intro t call creates
    rw [OrderedDict.get_eq_of_items items]
    rw [moved] at creates
    split at creates
    · exact (vacant call creates).elim (linked.vacant task call) id
    · exact linked.vacant t call creates
  · intro e live'
    rw [(same e).2.2, items]
    exact linked.live e (live e live')
  · intro t e closes
    have ended : isLive e history = false → isLive e history' = false := by
      intro dead
      rw [← Bool.not_eq_true] at dead ⊢
      exact fun live' => dead (live e live')
    rw [moved] at closes
    split at closes
    · exact (closing e closes).elim (fun before => ended (linked.closing task e before)) id
    · exact ended (linked.closing t e closes)
  · intro e connected
    have here : point.closes = some e → ∃ t, (s'.tasks t).closes = some e := by
      intro closes
      refine ⟨task, ?_⟩
      rw [moved, if_pos rfl]
      exact closes
    rw [(same e).2.2] at connected
    rcases linked.flagged e connected with before | ⟨t, closes⟩
    · rcases ready e before with after | closes | unset
      · exact Or.inl after
      · exact Or.inr (here closes)
      · rw [connected] at unset
        cases unset
    · by_cases own : t = task
      · rw [own] at closes
        rcases keepsClosing e closes with closes | unset
        · exact Or.inr (here closes)
        · rw [connected] at unset
          cases unset
      · refine Or.inr ⟨t, ?_⟩
        rw [moved, if_neg own]
        exact closes
  · intro t e hand
    rw [(same e).2.2]
    rw [moved] at hand
    split at hand
    · exact inHand e hand
    · exact linked.inHand t e hand
  · intro e unborn
    rw [(same e).2.2]
    exact linked.unborn e (Nat.le_trans born unborn)

/-- The new control point of a task goes on from its old one. -/
structure Continues (s : State) (history : List SessionEvent) (task : TaskId) (point : Pc) :
    Prop where
  used : ∀ e call, point.uses = some (e, call) →
    (s.tasks task).uses = some (e, call) ∨ (call.key, e) ∈ s.entries.items
  evicted : point.evicts.Sublist (s.tasks task).evicts ∨ point.evicts.Sublist s.entries.items
  vacant : ∀ call, point.creates = some call →
    (s.tasks task).creates = some call ∨ s.entries.get call.key = none
  closing : ∀ e, point.closes = some e →
    (s.tasks task).closes = some e ∨ isLive e history = false
  keepsClosing : ∀ e, (s.tasks task).closes = some e →
    point.closes = some e ∨ (s.entry e).connected = false
  inHand : ∀ e, point.inHand = some e → (s.entry e).connected = true

/-- The task moves on, and nothing happens to a session. -/
theorem Linked.goto (linked : Linked runtime s history)
    (continues : Continues s history task point) : Linked runtime (s.goto task point) history :=
  linked.move rfl rfl (fun _ => ⟨rfl, rfl, rfl⟩) (Nat.le_refl _) continues.used
    continues.evicted continues.vacant continues.closing continues.keepsClosing
    continues.inHand (fun _ live => live) fun _ ready => Or.inl ready

theorem Linked.frame (linked : Linked runtime s history) (tasks : s'.tasks = s.tasks)
    (items : s'.entries.items = s.entries.items) (same : SameEntries s s')
    (nextEntry : s'.nextEntry = s.nextEntry) : Linked runtime s' history := by
  constructor
  · intro item member
    rw [items] at member
    rw [(same item.2).1]
    exact linked.keyed item member
  · intro e
    rw [(same e).2.1]
    exact linked.onLoop e
  · rw [tasks, items]
    exact linked.used
  · rw [tasks, items]
    exact linked.evicted
  · intro t call creates
    rw [tasks] at creates
    rw [OrderedDict.get_eq_of_items items]
    exact linked.vacant t call creates
  · intro e live
    rw [(same e).2.2, items]
    exact linked.live e live
  · rw [tasks]
    exact linked.closing
  · intro e connected
    rw [(same e).2.2] at connected
    rw [tasks]
    exact linked.flagged e connected
  · intro t e hand
    rw [tasks] at hand
    rw [(same e).2.2]
    exact linked.inHand t e hand
  · intro e unborn
    rw [nextEntry] at unborn
    rw [(same e).2.2]
    exact linked.unborn e unborn

theorem State.entry_updateEntry {change : Entry → Entry} (e' : EntryId) :
    (s.updateEntry e change).entry e' = if e' = e then change (s.entry e) else s.entry e' :=
  Function.update_apply ..

theorem sameEntries_updateEntry {change : Entry → Entry}
    (keeps : (change (s.entry e)).wrapper = (s.entry e).wrapper ∧
      (change (s.entry e)).loop = (s.entry e).loop ∧
      (change (s.entry e)).connected = (s.entry e).connected) :
    SameEntries s (s.updateEntry e change) := by
  intro e'
  rw [State.entry_updateEntry]
  split
  case isTrue equal =>
    rw [equal]
    exact keeps
  case isFalse => exact ⟨rfl, rfl, rfl⟩

theorem sameEntries_setLock {l : LockId} {value : AsyncLock TaskId} :
    SameEntries s (s.setLock l value) := by
  cases l with
  | registry => exact fun _ => ⟨rfl, rfl, rfl⟩
  | entry e =>
      have same : SameEntries s (s.updateEntry e fun entry => { entry with lock := value }) :=
        sameEntries_updateEntry ⟨rfl, rfl, rfl⟩
      exact same

/-- A lock changes while the task moves on. -/
theorem Linked.gotoWithLock (linked : Linked runtime s history) {l : LockId}
    {value : AsyncLock TaskId} (continues : Continues s history task point) :
    Linked runtime ((s.setLock l value).goto task point) history := by
  apply (linked.goto continues).frame
  · rw [State.tasks_goto, State.tasks_goto, State.tasks_setLock]
  · rw [State.entries_goto, State.entries_goto, State.entries_setLock]
  · exact sameEntries_setLock
  · rw [State.nextEntry_goto, State.nextEntry_goto, State.nextEntry_setLock]

theorem Linked.acquireLock (linked : Linked runtime s history) {l : LockId} {inside waiting : Pc}
    (enters : Continues s history task inside) (waits : Continues s history task waiting) :
    Linked runtime (s.acquireLock task l inside waiting) history := by
  unfold State.acquireLock
  split
  · exact linked.gotoWithLock enters
  · exact linked.gotoWithLock waits

theorem Linked.resumeLock (linked : Linked runtime s history) {l : LockId}
    (enters : Continues s history task point) :
    Linked runtime (s.resumeLock task l point) history := by
  unfold State.resumeLock
  split
  · exact linked.gotoWithLock enters
  · exact linked

/-- A new entry is registered under a vacant key. -/
theorem Linked.create (linked : Linked runtime s history) {call : Call} {fresh : Entry}
    (vacant : s.entries.get call.key = none)
    (known : ∀ item ∈ s.entries.items, item.2 < s.nextEntry)
    (alone : ∀ t, (s.tasks t).creates = none)
    (key : fresh.wrapper.key = call.key) (loop : fresh.loop = none)
    (unconnected : fresh.connected = false) :
    Linked runtime { s.updateEntry s.nextEntry (fun _ => fresh) with
      nextEntry := s.nextEntry + 1
      entries := s.entries.set call.key s.nextEntry } history := by
  have items : (s.entries.set call.key s.nextEntry).items =
      s.entries.items ++ [(call.key, s.nextEntry)] := OrderedDict.items_set_of_get vacant
  have new : Function.update s.entry s.nextEntry fresh s.nextEntry = fresh :=
    Function.update_self ..
  have old : ∀ e, e ≠ s.nextEntry → Function.update s.entry s.nextEntry fresh e = s.entry e :=
    fun e different => Function.update_of_ne different ..
  constructor <;> simp only [State.updateEntry, items]
  · intro item member
    rcases List.mem_append.mp member with before | added
    · rw [old item.2 (Nat.ne_of_lt (known item before))]
      exact linked.keyed item before
    · rw [List.mem_singleton.mp added, new, key]
  · intro e
    by_cases equal : e = s.nextEntry
    · rw [equal, new]
      exact Or.inl loop
    · rw [old e equal]
      exact linked.onLoop e
  · intro t e call uses
    exact List.mem_append_left _ (linked.used t e call uses)
  · intro t
    exact (linked.evicted t).trans (List.sublist_append_left _ _)
  · intro t call creates
    rw [alone t] at creates
    cases creates
  · intro e live
    have before := linked.live e live
    have different : e ≠ s.nextEntry := by
      rintro rfl
      rw [linked.unborn _ (Nat.le_refl _)] at before
      cases before.1
    rw [old e different]
    exact ⟨before.1, before.2.imp fun _ member => List.mem_append_left _ member⟩
  · exact linked.closing
  · intro e connected
    by_cases equal : e = s.nextEntry
    · rw [equal, new, unconnected] at connected
      cases connected
    · rw [old e equal] at connected
      exact linked.flagged e connected
  · intro t e hand
    have before := linked.inHand t e hand
    have different : e ≠ s.nextEntry := by
      rintro rfl
      rw [linked.unborn _ (Nat.le_refl _)] at before
      cases before
    rw [old e different]
    exact before
  · intro e unborn
    have different : e ≠ s.nextEntry := Nat.ne_of_gt unborn
    rw [old e different]
    exact linked.unborn e (Nat.le_of_lt unborn)

/-- A connect of the entry has completed. -/
theorem Linked.connected (linked : Linked runtime s history) {key : Key}
    (registered : (key, e) ∈ s.entries.items) (known : e < s.nextEntry)
    (open_ : ∀ t, (s.tasks t).closes ≠ some e) :
    Linked runtime (s.updateEntry e fun entry =>
      { entry with connected := true, loop := some runtime.running })
      (.connected e :: history) := by
  have self : ∀ e', (Function.update s.entry e
      { s.entry e with connected := true, loop := some runtime.running } e').wrapper =
        (s.entry e').wrapper := by
    intro e'
    by_cases equal : e' = e
    · rw [equal, Function.update_self]
    · rw [Function.update_of_ne equal]
  constructor <;> simp only [State.updateEntry]
  · intro item member
    rw [self]
    exact linked.keyed item member
  · intro e'
    by_cases equal : e' = e
    · rw [equal, Function.update_self]
      exact Or.inr rfl
    · rw [Function.update_of_ne equal]
      exact linked.onLoop e'
  · exact linked.used
  · exact linked.evicted
  · exact linked.vacant
  · intro e' live
    by_cases equal : e' = e
    · rw [equal, Function.update_self]
      exact ⟨rfl, key, registered⟩
    · rw [Function.update_of_ne equal]
      apply linked.live e'
      have different : e ≠ e' := fun same => equal same.symm
      simpa [isLive, different] using live
  · intro t e' closes
    have different : e ≠ e' := by
      rintro rfl
      exact open_ t closes
    simpa [isLive, different] using linked.closing t e' closes
  · intro e' connected
    by_cases equal : e' = e
    · rw [equal]
      exact Or.inl (by simp [isReady])
    · rw [Function.update_of_ne equal] at connected
      exact (linked.flagged e' connected).imp_left fun ready => by simp [isReady, ready]
  · intro t e' hand
    by_cases equal : e' = e
    · rw [equal, Function.update_self]
    · rw [Function.update_of_ne equal]
      exact linked.inHand t e' hand
  · intro e' unborn
    have different : e' ≠ e := Nat.ne_of_gt (Nat.lt_of_lt_of_le known unborn)
    rw [Function.update_of_ne different]
    exact linked.unborn e' unborn

/-- The flag of a closed entry is cleared. -/
theorem Linked.unflag (linked : Linked runtime s history) (dead : isLive e history = false)
    (unused : ∀ t, (s.tasks t).inHand ≠ some e) :
    Linked runtime (s.updateEntry e fun entry => { entry with connected := false }) history := by
  have self : ∀ e', (Function.update s.entry e { s.entry e with connected := false } e').wrapper =
        (s.entry e').wrapper ∧
      (Function.update s.entry e { s.entry e with connected := false } e').loop =
        (s.entry e').loop := by
    intro e'
    by_cases equal : e' = e
    · rw [equal, Function.update_self]
      exact ⟨rfl, rfl⟩
    · rw [Function.update_of_ne equal]
      exact ⟨rfl, rfl⟩
  constructor <;> simp only [State.updateEntry]
  · intro item member
    rw [(self _).1]
    exact linked.keyed item member
  · intro e'
    rw [(self _).2]
    exact linked.onLoop e'
  · exact linked.used
  · exact linked.evicted
  · exact linked.vacant
  · intro e' live
    have different : e' ≠ e := by
      rintro rfl
      rw [live] at dead
      cases dead
    rw [Function.update_of_ne different]
    exact linked.live e' live
  · exact linked.closing
  · intro e' connected
    by_cases equal : e' = e
    · rw [equal, Function.update_self] at connected
      cases connected
    · rw [Function.update_of_ne equal] at connected
      exact linked.flagged e' connected
  · intro t e' hand
    have different : e' ≠ e := by
      rintro rfl
      exact unused t hand
    rw [Function.update_of_ne different]
    exact linked.inHand t e' hand
  · intro e' unborn
    by_cases equal : e' = e
    · rw [equal, Function.update_self]
    · rw [Function.update_of_ne equal]
      exact linked.unborn e' unborn

/-- A closed entry is dropped. -/
theorem Linked.pop (linked : Linked runtime s history) {key : Key}
    (unused : ∀ t e call, (s.tasks t).uses = some (e, call) → call.key ≠ key)
    (unevicted : ∀ t, ∀ item ∈ (s.tasks t).evicts, item.1 ≠ key)
    (dead : ∀ e, (key, e) ∈ s.entries.items → isLive e history = false) :
    Linked runtime { s with entries := s.entries.pop key } history := by
  have stays : ∀ item ∈ s.entries.items, item.1 ≠ key → item ∈ (s.entries.pop key).items := by
    intro item member different
    exact List.mem_filter.mpr ⟨member, by simpa using different⟩
  constructor
  · intro item member
    exact linked.keyed item (OrderedDict.mem_of_mem_pop member)
  · exact linked.onLoop
  · intro t e call uses
    exact stays _ (linked.used t e call uses) (unused t e call uses)
  · intro t
    have kept : (s.tasks t).evicts.filter (fun item => !decide (item.1 = key)) =
        (s.tasks t).evicts := by
      apply List.filter_eq_self.mpr
      intro item member
      simpa using unevicted t item member
    change (s.tasks t).evicts.Sublist (s.entries.items.filter fun item => !decide (item.1 = key))
    rw [← kept]
    exact (linked.evicted t).filter _
  · intro t call creates
    exact OrderedDict.get_filter (linked.vacant t call creates)
  · intro e live
    obtain ⟨connected, key', member⟩ := linked.live e live
    refine ⟨connected, key', stays _ member ?_⟩
    rintro rfl
    rw [dead e member] at live
    cases live
  · exact linked.closing
  · exact linked.flagged
  · exact linked.inHand
  · exact linked.unborn

/-! ### Moves -/

theorem Linked.items_pruneClosedLoops (linked : Linked runtime s history) :
    (s.pruneClosedLoops runtime).entries.items = s.entries.items := by
  apply List.filter_eq_self.mpr
  intro item _
  rcases linked.onLoop item.2 with unset | running
  · simp [unset]
  · simp [running, runtime.running_open]

theorem Linked.getEntry (linked : Linked runtime s history) {call : Call}
    (here : s.tasks task = .inRegistry (.getEntry call)) :
    Linked runtime (s.getEntry runtime task call) history := by
  have pruned : Linked runtime (s.pruneClosedLoops runtime) history :=
    linked.frame rfl linked.items_pruneClosedLoops (fun _ => ⟨rfl, rfl, rfl⟩) rfl
  have still : (s.pruneClosedLoops runtime).tasks task = .inRegistry (.getEntry call) := here
  unfold State.getEntry
  cases found : (s.pruneClosedLoops runtime).entries.get call.key with
  | some e =>
      simp only [found]
      apply pruned.gotoWithLock
      constructor <;> simp [still, Pc.uses, Pc.evicts, Pc.creates, Pc.closes, Pc.inHand]
      exact OrderedDict.mem_of_get found
  | none =>
      simp only [found]
      cases evicts : (s.pruneClosedLoops runtime).evictToCapacity runtime with
      | none =>
          simp only []
          apply pruned.goto
          constructor <;> simp [still, Pc.uses, Pc.evicts, Pc.creates, Pc.closes, Pc.inHand]
          exact found
      | some item =>
          simp only []
          have member := (State.mem_of_evictToCapacity evicts).1
          apply pruned.goto
          constructor <;> simp [still, Pc.uses, Pc.evicts, Pc.creates, Pc.closes, Pc.inHand]
          · exact member
          · exact found

theorem Linked.createEntry (linked : Linked runtime s history) (safe : Safe s) {call : Call}
    (here : s.tasks task = .create call) : Linked runtime (s.create task call) history := by
  have creating : (s.tasks task).creates = some call := by
    rw [here]
    rfl
  -- the task is put aside while its entry is made
  have aside : Linked runtime (s.goto task .idle) history := by
    apply linked.goto
    constructor <;> simp [here, Pc.uses, Pc.evicts, Pc.creates, Pc.closes, Pc.inHand]
  have alone : ∀ t, ((s.goto task .idle).tasks t).creates = none := by
    intro t
    rw [State.tasks_goto, Function.update_apply]
    split
    case isTrue => rfl
    case isFalse different =>
      rw [Option.eq_none_iff_forall_ne_some]
      intro other creates
      exact different (safe.locks.exclusive t task .registry (Pc.heldLock_of_creates creates)
        (Pc.heldLock_of_creates creating))
  let fresh : Entry :=
    { wrapper := ⟨call.endpointUrl, call.transport⟩, lastUsed := s.clock }
  let created : State := { (s.goto task .idle).updateEntry s.nextEntry (fun _ => fresh) with
    nextEntry := s.nextEntry + 1
    entries := s.entries.set call.key s.nextEntry }
  have linked' : Linked runtime created history :=
    aside.create (linked.vacant task call creating) safe.placed.registered alone rfl rfl rfl
  have still : created.tasks task = .idle := Function.update_self ..
  have registered : (call.key, s.nextEntry) ∈ created.entries.items := by
    change _ ∈ (s.entries.set call.key s.nextEntry).items
    rw [OrderedDict.items_set_of_get (linked.vacant task call creating)]
    exact List.mem_append_right _ (List.mem_singleton_self _)
  have entered : Linked runtime (created.goto task (.lockEntry s.nextEntry (.acquire call)))
      history := by
    apply linked'.goto
    constructor <;> simp [still, Pc.uses, Pc.evicts, Pc.creates, Pc.closes, Pc.inHand]
    exact registered
  apply entered.frame
  · exact (Function.update_idem ..).symm
  · rfl
  · exact fun _ => ⟨rfl, rfl, rfl⟩
  · rfl

/-- The holder of the registry lock drops the item that it has closed. -/
theorem Linked.evict (linked : Linked runtime s history) (safe : Safe s) {key : Key}
    {stale : List (Key × EntryId)} (evicts : (s.tasks task).evicts = (key, e) :: stale)
    (dead : isLive e history = false) (same : s'.tasks = s.tasks)
    (entries : s'.entries = s.entries) (moved : Linked runtime (s'.goto task point) history)
    (rest : point.evicts = stale) (unused : point.uses = none) :
    Linked runtime ({ s' with entries := s'.entries.pop key }.goto task point) history := by
  have target : e ∈ (s.tasks task).targets := by
    simp [Pc.targets_eq_evicts, evicts]
  have sublist := linked.evicted task
  rw [evicts] at sublist
  have registered : (key, e) ∈ s.entries.items := sublist.subset List.mem_cons_self
  have keys : key ∉ stale.map Prod.fst := by
    have nodup := s.entries.nodup.sublist (sublist.map Prod.fst)
    exact (List.nodup_cons.mp nodup).1
  have popped : Linked runtime
      { s'.goto task point with entries := (s'.goto task point).entries.pop key } history := by
    apply moved.pop
    · intro t e' call uses equal
      rw [State.tasks_goto, same, Function.update_apply] at uses
      split at uses
      · rw [unused] at uses
        cases uses
      · have member := linked.used t e' call uses
        rw [equal] at member
        rw [← OrderedDict.value_unique registered member] at uses
        exact safe.placed.apart task t e target (Pc.acquired_of_uses uses)
    · intro t item member equal
      rw [State.tasks_goto, same, Function.update_apply] at member
      split at member
      · rw [rest] at member
        apply keys
        rw [← equal]
        exact List.mem_map_of_mem member
      case isFalse different =>
        have other : item.2 ∈ (s.tasks t).targets := by
          rw [Pc.targets_eq_evicts]
          exact List.mem_map_of_mem member
        exact different (safe.locks.exclusive t task .registry (Pc.heldLock_of_targets other)
          (Pc.heldLock_of_targets target))
    · intro e' member
      rw [State.entries_goto, entries] at member
      rw [← OrderedDict.value_unique registered member]
      exact dead
  exact popped

theorem Linked.closed (linked : Linked runtime s history) (safe : Safe s)
    {after : AfterClose} (here : s.tasks task = .closed e after) :
    Linked runtime (s.closed task e after) history := by
  have dead : isLive e history = false := linked.closing task e (by rw [here]; rfl)
  have unused : ∀ t, (s.tasks t).inHand ≠ some e := by
    intro t hand
    have uses := Pc.acquired_of_inHand hand
    rcases Pc.of_closes (by rw [here]; rfl : (s.tasks task).closes = some e) with target | holds
    · exact safe.placed.apart task t e target uses.1
    · have same := safe.locks.exclusive task t (.entry e) holds uses.2
      rw [← same, here] at hand
      cases hand
  have unflagged := linked.unflag dead unused
  have cleared : ((s.updateEntry e fun entry => { entry with connected := false }).entry
      e).connected = false := by
    simp [State.entry_updateEntry]
  have still : (s.updateEntry e fun entry => { entry with connected := false }).tasks task =
      .closed e after := here
  unfold State.closed
  cases after with
  | rebound call =>
      apply unflagged.goto
      constructor <;> simp [still, cleared, Pc.uses, Pc.evicts, Pc.creates, Pc.closes, Pc.inHand]
  | broken call =>
      apply unflagged.gotoWithLock
      constructor <;>
        simp [still, cleared, State.retry, Pc.uses, Pc.evicts, Pc.creates, Pc.closes, Pc.inHand]
  | evictedToCapacity key call =>
      have moved : Linked runtime ((s.updateEntry e fun entry =>
          { entry with connected := false }).goto task (.create call)) history := by
        apply unflagged.goto
        constructor <;> simp [still, cleared, Pc.uses, Pc.evicts, Pc.creates, Pc.closes, Pc.inHand]
      exact linked.evict safe (by rw [here]; rfl) dead rfl rfl moved rfl rfl
  | evictedIdle key stale =>
      have moved : Linked runtime ((s.updateEntry e fun entry =>
          { entry with connected := false }).goto task (.evictStale stale)) history := by
        apply unflagged.goto
        constructor <;> simp [still, cleared, Pc.uses, Pc.evicts, Pc.creates, Pc.closes, Pc.inHand]
      exact linked.evict safe (by rw [here]; rfl) dead rfl rfl moved rfl rfl

theorem Linked.connect (linked : Linked runtime s history) {call : Call}
    (here : s.tasks task = .connect e call) :
    Linked runtime (s.connect task e call)
      ((if (s.entry e).connected then none else some (.connecting e)).toList ++ history) := by
  unfold State.connect
  cases connected : (s.entry e).connected with
  | true =>
      apply linked.goto
      constructor <;>
        simp [here, connected, Pc.uses, Pc.evicts, Pc.creates, Pc.closes, Pc.inHand]
  | false =>
      have tasks : (s.goto task (.connecting e call)).tasks =
          Function.update s.tasks task (.connecting e call) := rfl
      apply linked.move tasks rfl (fun _ => ⟨rfl, rfl, rfl⟩) (Nat.le_refl _)
      case live => exact fun _ live => live
      case ready =>
        intro e' ready
        by_cases equal : e' = e
        · rw [equal]
          exact Or.inr (Or.inr connected)
        · have different : e ≠ e' := fun same => equal same.symm
          exact Or.inl (by simp [isReady, different, ready])
      all_goals simp [here, Pc.uses, Pc.evicts, Pc.creates, Pc.closes, Pc.inHand]

theorem Linked.hardClose (linked : Linked runtime s history) {after : AfterClose}
    (here : s.tasks task = .hardClose e after) :
    Linked runtime (s.hardClose task e after)
      ((if (s.entry e).connected then some (.disconnecting e) else none).toList ++ history) := by
  unfold State.hardClose
  cases connected : (s.entry e).connected with
  | true =>
      have tasks : (s.goto task (.disconnecting e after)).tasks =
          Function.update s.tasks task (.disconnecting e after) := rfl
      apply linked.move tasks rfl (fun _ => ⟨rfl, rfl, rfl⟩) (Nat.le_refl _)
      case live =>
        intro e' live
        have ended : (e != e' && isLive e' history) = true := live
        exact (Bool.and_eq_true_iff.mp ended).2
      case ready =>
        intro e' ready
        by_cases equal : e' = e
        · rw [equal]
          exact Or.inr (Or.inl rfl)
        · have different : e ≠ e' := fun same => equal same.symm
          exact Or.inl (by simp [isReady, different, ready])
      all_goals cases after <;> simp [here, isLive, Pc.uses, Pc.evicts, Pc.creates, Pc.closes, Pc.inHand]
  | false =>
      have dead : isLive e history = false := by
        rw [← Bool.not_eq_true]
        intro live
        rw [(linked.live e live).1] at connected
        cases connected
      apply linked.goto
      constructor <;> cases after <;>
        simp [here, dead, Pc.uses, Pc.evicts, Pc.creates, Pc.closes, Pc.inHand]

/-- The running task makes its move. -/
theorem Linked.run (linked : Linked runtime s history) (safe : Safe s)
    (current : s.current = some task) :
    Linked runtime (s.run runtime task)
      ((sessionEvent? s (.run task)).toList ++ history) := by
  have event : sessionEvent? s (.run task) =
      match s.tasks task with
      | .connect e _ => if (s.entry e).connected then none else some (.connecting e)
      | .hardClose e _ => if (s.entry e).connected then some (.disconnecting e) else none
      | _ => none := by
    simp [sessionEvent?, current]
  rw [event]
  unfold State.run
  cases here : s.tasks task with
  | lockRegistry use =>
      apply linked.acquireLock <;> constructor <;>
        simp [here, Pc.uses, Pc.evicts, Pc.creates, Pc.closes, Pc.inHand]
  | inRegistry use =>
      cases use with
      | getEntry call => exact linked.getEntry here
      | evictIdle now maxIdleSeconds =>
          apply linked.goto
          constructor <;> simp [here, Pc.uses, Pc.evicts, Pc.creates, Pc.closes, Pc.inHand]
          exact Or.inr List.filter_sublist
  | create call => exact linked.createEntry safe here
  | evictStale stale =>
      cases stale with
      | nil =>
          apply linked.gotoWithLock
          constructor <;> simp [here, Pc.uses, Pc.evicts, Pc.creates, Pc.closes, Pc.inHand]
      | cons item stale =>
          apply linked.goto
          constructor <;> simp [here, Pc.uses, Pc.evicts, Pc.creates, Pc.closes, Pc.inHand]
  | lockEntry e use =>
      apply linked.acquireLock <;> constructor <;> cases use <;>
        simp [here, Pc.uses, Pc.evicts, Pc.creates, Pc.closes, Pc.inHand]
  | inEntry e use =>
      cases use with
      | acquire call =>
          simp only [State.acquire]
          split <;> apply linked.goto <;> constructor <;>
            simp [here, Pc.uses, Pc.evicts, Pc.creates, Pc.closes, Pc.inHand]
      | markBroken call =>
          apply linked.goto
          constructor <;> simp [here, Pc.uses, Pc.evicts, Pc.creates, Pc.closes, Pc.inHand]
  | connect e call => exact linked.connect here
  | yielding e call =>
      have used : Linked runtime
          (s.updateEntry e fun entry => { entry with lastUsed := s.clock }) history :=
        linked.frame rfl rfl (sameEntries_updateEntry ⟨rfl, rfl, rfl⟩) rfl
      have still : (s.updateEntry e fun entry => { entry with lastUsed := s.clock }).tasks task =
          .yielding e call := here
      have connected := used.inHand task e (by rw [still]; rfl)
      apply used.goto
      constructor <;>
        simp [still, connected, Pc.uses, Pc.evicts, Pc.creates, Pc.closes, Pc.inHand]
  | leaving e call outcome =>
      simp only [State.leaving]
      split <;> apply linked.gotoWithLock <;> constructor <;>
        simp [here, Pc.uses, Pc.evicts, Pc.creates, Pc.closes, Pc.inHand]
  | markBroken call =>
      simp only [State.markBroken]
      split <;> apply linked.goto <;> constructor <;>
        simp [here, State.retry, Pc.uses, Pc.evicts, Pc.creates, Pc.closes, Pc.inHand]
  | hardClose e after => exact linked.hardClose here
  | closed e after => exact linked.closed safe here
  | idle | waitingRegistry _ | waitingEntry _ _ | connecting _ _ | calling _ _
  | disconnecting _ _ => exact linked

/-- No task closes an entry that another is connecting. -/
theorem Safe.unclosed (safe : Safe s) {call : Call} (here : s.tasks task = .connecting e call)
    (t : TaskId) : (s.tasks t).closes ≠ some e := by
  intro closes
  have acquired : (s.tasks task).acquired = some e := by
    rw [here]
    rfl
  have holds : (s.tasks task).heldLock = some (.entry e) := by
    rw [here]
    rfl
  rcases Pc.of_closes closes with target | holds'
  · exact safe.placed.apart t task e target acquired
  · have same := safe.locks.exclusive t task (.entry e) holds' holds
    rw [same, here] at closes
    cases closes

/-- A suspended task is resumed. -/
theorem Linked.resume (linked : Linked runtime s history) (safe : Safe s)
    (current : s.current = none) (outcome : Outcome) :
    Linked runtime (s.resume runtime task outcome)
      ((sessionEvent? s (.resume task outcome)).toList ++ history) := by
  have silent : (∀ e call, s.tasks task ≠ .connecting e call) →
      sessionEvent? s (.resume task outcome) = none := by
    intro other
    cases outcome with
    | returned => simp [sessionEvent?]
    | _ => rfl
  unfold State.resume
  cases here : s.tasks task with
  | waitingRegistry use =>
      rw [silent (by simp [here])]
      apply linked.resumeLock
      constructor <;> simp [here, Pc.uses, Pc.evicts, Pc.creates, Pc.closes, Pc.inHand]
  | waitingEntry e use =>
      rw [silent (by simp [here])]
      apply linked.resumeLock
      constructor <;> cases use <;> simp [here, Pc.uses, Pc.evicts, Pc.creates, Pc.closes, Pc.inHand]
  | connecting e call =>
      have registered := linked.used task e call (by rw [here]; rfl)
      cases outcome with
      | returned =>
          have event : sessionEvent? s (.resume task .returned) = some (.connected e) := by
            simp [sessionEvent?, current, here]
          rw [event]
          have opened := linked.connected registered (safe.placed.registered _ registered)
            (safe.unclosed here)
          have still : (s.updateEntry e fun entry =>
              { entry with connected := true, loop := some runtime.running }).tasks task =
                .connecting e call := here
          apply opened.goto
          constructor <;> simp [still, State.entry_updateEntry, Pc.uses, Pc.evicts, Pc.creates, Pc.closes, Pc.inHand]
      | reconnectable | otherError =>
          apply linked.goto
          constructor <;> simp [here, Pc.uses, Pc.evicts, Pc.creates, Pc.closes, Pc.inHand]
  | calling e call =>
      rw [silent (by simp [here])]
      apply linked.goto
      constructor <;> simp [here, Pc.uses, Pc.evicts, Pc.creates, Pc.closes, Pc.inHand]
  | disconnecting e after =>
      rw [silent (by simp [here])]
      apply linked.goto
      constructor <;> cases after <;>
        simp [here, Pc.uses, Pc.evicts, Pc.creates, Pc.closes, Pc.inHand]
  | _ =>
      rw [silent (by simp [here])]
      exact linked

theorem Linked.start (linked : Linked runtime s history) (idle : s.tasks task = .idle)
    (operation : Operation) : Linked runtime (s.start task operation) history := by
  unfold State.start
  cases operation <;> apply linked.goto <;> constructor <;>
    simp [idle, Pc.uses, Pc.evicts, Pc.creates, Pc.closes, Pc.inHand]

theorem Linked.step (linked : Linked runtime s history) (safe : Safe s) (move : Move) :
    Linked runtime (Pool.step runtime s move) ((sessionEvent? s move).toList ++ history) := by
  cases move with
  | tick seconds => exact linked.frame rfl rfl (fun _ => ⟨rfl, rfl, rfl⟩) rfl
  | start task operation =>
      simp only [Pool.step]
      split
      case isTrue ready => exact linked.start ready.2 operation
      case isFalse => exact linked
  | run task =>
      simp only [Pool.step]
      split
      case isTrue current => exact linked.run safe current
      case isFalse other =>
        have event : sessionEvent? s (.run task) = none := by simp [sessionEvent?, other]
        rw [event]
        exact linked
  | resume task outcome =>
      simp only [Pool.step]
      split
      case isTrue current => exact linked.resume safe current outcome
      case isFalse other =>
        have event : sessionEvent? s (.resume task outcome) = none := by
          cases outcome <;> simp [sessionEvent?, other]
        rw [event]
        exact linked

theorem linked_initial : Linked runtime {} [] := by
  constructor <;> simp [OrderedDict.empty, Pc.uses, Pc.evicts, Pc.creates, Pc.closes, Pc.inHand,
    isLive]

end Rules

/-! ### No lock is kept -/

/-- A locked lock has a holder and its waiters wait. -/
abbrev Accounted (s : State) : Prop :=
  LockAccount (fun point l => Pc.heldLock point = some l)
    (fun point l => Pc.awaitedLock point = some l) s.lock s.tasks

section Accounts

variable {runtime : Runtime} {s s' : State} {task : TaskId} {point inside waiting : Pc}
  {l : LockId} {e : EntryId}

theorem Accounted.frame (account : Accounted s) (lock : s'.lock = s.lock)
    (tasks : s'.tasks = s.tasks) : Accounted s' := by
  unfold Accounted
  rw [lock, tasks]
  exact account

theorem Accounted.goto (account : Accounted s)
    (held : point.heldLock = (s.tasks task).heldLock)
    (awaited : (s.tasks task).awaitedLock = none) : Accounted (s.goto task point) := by
  unfold Accounted
  rw [State.lock_goto, State.tasks_goto]
  apply LockAccount.goto account
  · exact fun l holds => held.trans holds
  · simp [awaited]

theorem Accounted.acquireLock (account : Accounted s)
    (held : (s.tasks task).heldLock = none) (awaited : (s.tasks task).awaitedLock = none)
    (insideHolds : inside.heldLock = some l) (waitingWaits : waiting.awaitedLock = some l) :
    Accounted (s.acquireLock task l inside waiting) := by
  unfold State.acquireLock Accounted
  split
  · rw [State.lock_goto, State.tasks_goto, State.lock_setLock, State.tasks_setLock]
    apply LockAccount.take account insideHolds
    · simp [awaited]
    · simp [held]
  · rw [State.lock_goto, State.tasks_goto, State.lock_setLock, State.tasks_setLock]
    apply LockAccount.enqueue account waitingWaits
    · simp [awaited]
    · simp [held]

theorem Accounted.resumeLock (account : Accounted s)
    (held : (s.tasks task).heldLock = none) (awaited : (s.tasks task).awaitedLock = some l)
    (holds : point.heldLock = some l) : Accounted (s.resumeLock task l point) := by
  unfold State.resumeLock
  split
  case isTrue woken =>
    unfold Accounted
    rw [State.lock_goto, State.tasks_goto, State.lock_setLock, State.tasks_setLock]
    apply LockAccount.resume account woken holds
    · simp [awaited]
    · simp [held]
  case isFalse => exact account

theorem Accounted.releaseLock (account : Accounted s)
    (held : (s.tasks task).heldLock = some l) (awaited : (s.tasks task).awaitedLock = none) :
    Accounted (s.releaseLock task l point) := by
  unfold State.releaseLock Accounted
  rw [State.lock_goto, State.tasks_goto, State.lock_setLock, State.tasks_setLock]
  apply LockAccount.release account
  · simp [awaited]
  · simp [held, eq_comm]

theorem Accounted.updateEntry (account : Accounted s) {change : Entry → Entry}
    (keeps : (change (s.entry e)).lock = (s.entry e).lock) :
    Accounted (s.updateEntry e change) :=
  account.frame (State.lock_updateEntry keeps) rfl

theorem Accounted.getEntry (account : Accounted s) {call : Call}
    (here : s.tasks task = .inRegistry (.getEntry call)) :
    Accounted (s.getEntry runtime task call) := by
  have pruned : Accounted (s.pruneClosedLoops runtime) := account.frame rfl rfl
  have still : (s.pruneClosedLoops runtime).tasks task = .inRegistry (.getEntry call) := here
  unfold State.getEntry
  cases found : (s.pruneClosedLoops runtime).entries.get call.key with
  | some e =>
      simp only [found]
      exact pruned.releaseLock (by rw [still]; rfl) (by rw [still]; rfl)
  | none =>
      simp only [found]
      cases evicts : (s.pruneClosedLoops runtime).evictToCapacity runtime with
      | none => exact pruned.goto (by rw [still]; rfl) (by rw [still]; rfl)
      | some item => exact pruned.goto (by rw [still]; rfl) (by rw [still]; rfl)

theorem Accounted.create (account : Accounted s) {call : Call}
    (here : s.tasks task = .create call) : Accounted (s.create task call) := by
  let fresh : Entry :=
    { wrapper := ⟨call.endpointUrl, call.transport⟩, lastUsed := s.clock }
  let created : State := { s.updateEntry s.nextEntry (fun _ => fresh) with
    nextEntry := s.nextEntry + 1
    entries := s.entries.set call.key s.nextEntry }
  have locks : created.lock = Function.update s.lock (.entry s.nextEntry) {} := by
    funext l
    cases l with
    | registry => rfl
    | entry e =>
        rcases eq_or_ne e s.nextEntry with rfl | different
        · simp [State.lock, created, State.updateEntry, fresh]
        · have other : LockId.entry e ≠ .entry s.nextEntry := by simpa using different
          simp [State.lock, created, State.updateEntry, different, other]
  have renewed : Accounted created := by
    unfold Accounted
    rw [locks]
    exact LockAccount.renew account
  have still : created.tasks task = .create call := here
  exact renewed.releaseLock (by rw [still]; rfl) (by rw [still]; rfl)

theorem Accounted.closed (account : Accounted s) {after : AfterClose}
    (here : s.tasks task = .closed e after) : Accounted (s.closed task e after) := by
  have cleared : Accounted (s.updateEntry e fun entry => { entry with connected := false }) :=
    account.updateEntry rfl
  have still : (s.updateEntry e fun entry => { entry with connected := false }).tasks task =
      .closed e after := here
  unfold State.closed
  cases after with
  | rebound call => exact cleared.goto (by rw [still]; rfl) (by rw [still]; rfl)
  | broken call => exact cleared.releaseLock (by rw [still]; rfl) (by rw [still]; rfl)
  | evictedToCapacity key call | evictedIdle key stale =>
      apply Accounted.goto (cleared.frame rfl rfl)
      · change _ = Pc.heldLock (s.tasks task)
        rw [here]
        rfl
      · change Pc.awaitedLock (s.tasks task) = none
        rw [here]
        rfl

theorem Accounted.run (account : Accounted s) : Accounted (s.run runtime task) := by
  unfold State.run
  cases here : s.tasks task with
  | lockRegistry use => exact account.acquireLock (by rw [here]; rfl) (by rw [here]; rfl) rfl rfl
  | inRegistry use =>
      cases use with
      | getEntry call => exact account.getEntry here
      | evictIdle now maxIdleSeconds => exact account.goto (by rw [here]; rfl) (by rw [here]; rfl)
  | create call => exact account.create here
  | evictStale stale =>
      cases stale with
      | nil => exact account.releaseLock (by rw [here]; rfl) (by rw [here]; rfl)
      | cons item stale => exact account.goto (by rw [here]; rfl) (by rw [here]; rfl)
  | lockEntry e use => exact account.acquireLock (by rw [here]; rfl) (by rw [here]; rfl) rfl rfl
  | inEntry e use =>
      cases use with
      | acquire call =>
          simp only [State.acquire]
          split <;> exact account.goto (by rw [here]; rfl) (by rw [here]; rfl)
      | markBroken call => exact account.goto (by rw [here]; rfl) (by rw [here]; rfl)
  | connect e call =>
      simp only [State.connect]
      split <;> exact account.goto (by rw [here]; rfl) (by rw [here]; rfl)
  | yielding e call =>
      have used : Accounted (s.updateEntry e fun entry => { entry with lastUsed := s.clock }) :=
        account.updateEntry rfl
      apply used.goto
      · change _ = Pc.heldLock (s.tasks task)
        rw [here]
        rfl
      · change Pc.awaitedLock (s.tasks task) = none
        rw [here]
        rfl
  | leaving e call outcome =>
      simp only [State.leaving]
      split <;> exact account.releaseLock (by rw [here]; rfl) (by rw [here]; rfl)
  | markBroken call =>
      simp only [State.markBroken]
      split <;> exact account.goto (by rw [here]; rfl) (by rw [here]; rfl)
  | hardClose e after =>
      simp only [State.hardClose]
      split <;> exact account.goto (by rw [here]; rfl) (by rw [here]; rfl)
  | closed e after => exact account.closed here
  | _ => exact account

theorem Accounted.resume (account : Accounted s) (outcome : Outcome) :
    Accounted (s.resume runtime task outcome) := by
  unfold State.resume
  cases here : s.tasks task with
  | waitingRegistry use => exact account.resumeLock (by rw [here]; rfl) (by rw [here]; rfl) rfl
  | waitingEntry e use => exact account.resumeLock (by rw [here]; rfl) (by rw [here]; rfl) rfl
  | connecting e call =>
      cases outcome with
      | returned =>
          have opened : Accounted (s.updateEntry e fun entry =>
              { entry with connected := true, loop := some runtime.running }) :=
            account.updateEntry rfl
          apply opened.goto
          · change _ = Pc.heldLock (s.tasks task)
            rw [here]
            rfl
          · change Pc.awaitedLock (s.tasks task) = none
            rw [here]
            rfl
      | reconnectable | otherError => exact account.goto (by rw [here]; rfl) (by rw [here]; rfl)
  | calling e call => exact account.goto (by rw [here]; rfl) (by rw [here]; rfl)
  | disconnecting e after => exact account.goto (by rw [here]; rfl) (by rw [here]; rfl)
  | _ => exact account

theorem Accounted.step (account : Accounted s) (move : Move) :
    Accounted (Pool.step runtime s move) := by
  cases move with
  | tick seconds => exact account.frame rfl rfl
  | start task operation =>
      simp only [Pool.step]
      split
      case isTrue ready =>
        unfold State.start
        cases operation <;> exact account.goto (by rw [ready.2]; rfl) (by rw [ready.2]; rfl)
      case isFalse => exact account
  | run task =>
      simp only [Pool.step]
      split
      · exact account.run
      · exact account
  | resume task outcome =>
      simp only [Pool.step]
      split
      · exact account.resume outcome
      · exact account

theorem accounted_initial : Accounted {} := by
  constructor
  · intro l locked
    cases l <;> cases locked
  · intro l t queued
    cases l <;> cases queued
  · intro l
    cases l <;> exact List.nodup_nil

end Accounts

/-! ### Live sessions -/

/-- Every live session is that of the registered entry of its endpoint, calls to one
endpoint do not overlap, and `aclose_all` leaves no live session when every task has
ended. -/
structure OneLiveSession (w : Sessions) : Prop where
  registered : ∀ e, isLive e w.history = true →
    w.state.entries.get (w.state.entry e).wrapper.key = some e
  unique : ∀ e e', isLive e w.history = true → isLive e' w.history = true →
    (w.state.entry e).wrapper.key = (w.state.entry e').wrapper.key → e = e'
  apart : ∀ t u e e' call call', w.state.tasks t = .calling e call →
    w.state.tasks u = .calling e' call' → call.key = call'.key → t = u
  closes : (∀ t, w.state.tasks t = .idle) → ∀ e, isLive e w.acloseAll.history = false

section Conclusions

variable {runtime : Runtime} {w : Sessions}

theorem Linked.get_of_live (linked : Linked runtime w.state w.history) {e : EntryId}
    (live : isLive e w.history = true) :
    w.state.entries.get (w.state.entry e).wrapper.key = some e := by
  obtain ⟨key, member⟩ := (linked.live e live).2
  rw [← linked.keyed _ member]
  exact OrderedDict.get_of_mem member

theorem Linked.calls_apart (linked : Linked runtime w.state w.history) (safe : Safe w.state)
    {t u : TaskId} {e e' : EntryId} {call call' : Call}
    (calls : w.state.tasks t = .calling e call) (calls' : w.state.tasks u = .calling e' call')
    (same : call.key = call'.key) : t = u := by
  have member := linked.used t e call (by rw [calls]; rfl)
  have member' := linked.used u e' call' (by rw [calls']; rfl)
  rw [same] at member
  have equal := OrderedDict.value_unique member member'
  apply safe.locks.exclusive t u (.entry e)
  · rw [calls]
    rfl
  · rw [calls', equal]
    rfl

/-- Closing entries one after another ends the sessions of those that are
connected. -/
theorem isLive_foldl_hardClose (es : List EntryId) {e : EntryId}
    (covered : isLive e w.history = true → (w.state.entry e).connected = true ∧ e ∈ es) :
    isLive e (es.foldl Sessions.hardClose w).history = false := by
  induction es generalizing w with
  | nil =>
      rw [← Bool.not_eq_true]
      intro live
      cases (covered live).2
  | cons first rest induction =>
      apply induction
      intro live
      have other : e ≠ first ∧ isLive e w.history = true := by
        simp only [Sessions.hardClose] at live
        split at live
        · have parts := Bool.and_eq_true_iff.mp live
          exact ⟨fun equal => by simp [equal] at parts, parts.2⟩
        case isFalse unset =>
          refine ⟨?_, live⟩
          rintro rfl
          exact unset (covered live).1
      have before := covered other.2
      refine ⟨?_, (List.mem_cons.mp before.2).resolve_left other.1⟩
      simp only [Sessions.hardClose, State.entry_updateEntry, if_neg other.1]
      exact before.1

theorem Linked.oneLiveSession (linked : Linked runtime w.state w.history) (safe : Safe w.state)
    (account : Accounted w.state) : OneLiveSession w := by
  constructor
  · exact fun e live => linked.get_of_live live
  · intro e e' live live' same
    have found := linked.get_of_live live
    rw [same, linked.get_of_live live', Option.some.injEq] at found
    exact found.symm
  · exact fun t u e e' call call' calls calls' same =>
      linked.calls_apart safe calls calls' same
  · intro idle e
    have free : (w.state.lock .registry).isFree = true := by
      apply LockAccount.isFree account
      · intro t holds
        rw [idle t] at holds
        cases holds
      · intro t waits
        rw [idle t] at waits
        cases waits
    have closing : w.state.registryLock.isFree = true := free
    rw [Sessions.acloseAll, if_pos closing]
    apply isLive_foldl_hardClose
    intro live
    obtain ⟨connected, key, member⟩ := linked.live e live
    exact ⟨connected, List.mem_map_of_mem member⟩

end Conclusions

/-- The invariant of every run whose evictions select no entry that a task awaits to
use it. -/
structure Sound (runtime : Runtime) (w : Sessions) : Prop where
  safe : Safe w.state
  linked : Linked runtime w.state w.history
  account : Accounted w.state

theorem Sound.step {runtime : Runtime} {w : Sessions} (sound : Sound runtime w) (move : Move)
    (unawaited : EvictsUnawaited runtime w.state move) : Sound runtime (w.step runtime move) :=
  ⟨sound.safe.step move unawaited, sound.linked.step sound.safe move, sound.account.step move⟩

theorem sound_initial (runtime : Runtime) : Sound runtime {} :=
  ⟨safe_initial, linked_initial, accounted_initial⟩

/-- In every run whose evictions select no entry that a task awaits to use it, each
endpoint has one live session at most, that of its registered entry. -/
theorem one_live_session (runtime : Runtime) (moves : List Move)
    (unawaited : EachStep (Sessions.step runtime)
      (fun w move => EvictsUnawaited runtime w.state move) {} moves) :
    EachState (Sessions.step runtime) OneLiveSession {} moves := by
  have sound : EachState (Sessions.step runtime) (Sound runtime) {} moves :=
    unawaited.invariant (sound_initial runtime) fun _ move sound unawaited =>
      sound.step move unawaited
  exact sound.mono fun _ sound => sound.linked.oneLiveSession sound.safe sound.account

/-- The session of both calls is evicted and connected again for a third. -/
def calledAfterEviction : List Move :=
  evictedAfterCalls ++ [.resume 2 .returned] ++ runs 2 2 ++
    [.start 0 (.callTool "https://x.test" "sse")] ++ runs 0 6 ++ [.resume 0 .returned]

theorem one_live_session_reconnected :
    isLive 1 (calledAfterEviction.foldl (Sessions.step exampleRuntime) {}).history = true ∧
      EachState (Sessions.step exampleRuntime) OneLiveSession {} calledAfterEviction :=
  ⟨by decide +kernel, one_live_session exampleRuntime calledAfterEviction (by decide +kernel)⟩

/-- The eviction drops the entry before the queued task has taken the free lock; the
task then connects the entry that nobody can find. -/
def connectedUnregistered : List Move :=
  exampleCalls ++ [.tick 301, .resume 0 .returned] ++ runs 0 1 ++ [.start 2 (.evictIdle 300)] ++
    runs 2 4 ++ [.resume 2 .returned] ++ runs 2 2 ++ [.resume 1 .returned] ++ runs 1 2 ++
    [.resume 1 .returned]

theorem unregistered_session_live :
    ¬ ∀ runtime moves, EachState (Sessions.step runtime) OneLiveSession {} moves := by
  intro always
  have last : OneLiveSession (connectedUnregistered.foldl (Sessions.step exampleRuntime) {}) :=
    always exampleRuntime connectedUnregistered connectedUnregistered [] (by simp)
  have registered := last.registered 0 (by decide +kernel)
  revert registered
  decide +kernel

end GrafuxMcp.Pool
