import GrafuxMcp.Foundation.AsyncLock
import GrafuxMcp.Foundation.OrderedDict

/-! # The pool of remote connections

The operations of the pool are cut at their awaits. A task is at a control point;
one move takes the running task to its next control point, or resumes a suspended
task. The running task keeps the event loop until it suspends. -/

namespace GrafuxMcp.Pool

abbrev TaskId := Nat
abbrev EntryId := Nat
abbrev LoopId := Nat

/-- The endpoint url and the transport. -/
abbrev Key := String × String

/-- The settings of the process and its event loops. Operations run on the
running loop, which is open. -/
structure Runtime where
  remotePoolMaxSize : Nat
  running : LoopId
  isClosed : LoopId → Bool
  running_open : isClosed running = false

structure MCPClientWrapper where
  endpointUrl : String
  transport : String
  deriving DecidableEq, Repr

structure Entry where
  wrapper : MCPClientWrapper
  lock : AsyncLock TaskId := {}
  loop : Option LoopId := none
  connected : Bool := false
  lastUsed : Int
  deriving DecidableEq, Repr

inductive Method where
  | callTool
  | listTools
  deriving DecidableEq, Repr

/-- One attempt of a round trip. Only the first one is followed by another. -/
structure Call where
  endpointUrl : String
  transport : String
  method : Method
  isFirst : Bool := true
  deriving DecidableEq, Repr

def Call.key (call : Call) : Key :=
  (call.endpointUrl, call.transport)

/-- How an awaited method of a wrapper ends; the reconnectable errors are those
of `_RECONNECTABLE`. -/
inductive Outcome where
  | returned
  | reconnectable
  | otherError
  deriving DecidableEq, Repr

inductive Operation where
  | callTool (endpointUrl transport : String)
  | listTools (endpointUrl transport : String)
  | evictIdle (maxIdleSeconds : Int)
  deriving DecidableEq, Repr

/-- What a task does under the registry lock. -/
inductive RegistryUse where
  | getEntry (call : Call)
  | evictIdle (now maxIdleSeconds : Int)
  deriving DecidableEq, Repr

/-- What a task does under the lock of an entry. -/
inductive EntryUse where
  | acquire (call : Call)
  | markBroken (call : Call)
  deriving DecidableEq, Repr

/-- What follows `_hard_close`. -/
inductive AfterClose where
  | rebound (call : Call)
  | broken (call : Call)
  | evictedToCapacity (key : Key) (call : Call)
  | evictedIdle (key : Key) (stale : List (Key × EntryId))
  deriving DecidableEq, Repr

/-- The control point of a task. -/
inductive Pc where
  | idle
  | lockRegistry (use : RegistryUse)
  | waitingRegistry (use : RegistryUse)
  | inRegistry (use : RegistryUse)
  | create (call : Call)
  | evictStale (stale : List (Key × EntryId))
  | lockEntry (entry : EntryId) (use : EntryUse)
  | waitingEntry (entry : EntryId) (use : EntryUse)
  | inEntry (entry : EntryId) (use : EntryUse)
  | connect (entry : EntryId) (call : Call)
  | connecting (entry : EntryId) (call : Call)
  | yielding (entry : EntryId) (call : Call)
  | calling (entry : EntryId) (call : Call)
  | leaving (entry : EntryId) (call : Call) (outcome : Outcome)
  | markBroken (call : Call)
  | hardClose (entry : EntryId) (after : AfterClose)
  | disconnecting (entry : EntryId) (after : AfterClose)
  | closed (entry : EntryId) (after : AfterClose)
  deriving DecidableEq, Repr

/-- A task at any other control point has the event loop. -/
def Pc.isSuspended : Pc → Bool
  | .idle | .waitingRegistry _ | .waitingEntry _ _ | .connecting _ _ | .calling _ _
  | .disconnecting _ _ => true
  | _ => false

inductive LockId where
  | registry
  | entry (entry : EntryId)
  deriving DecidableEq, Repr

structure State where
  clock : Int := 0
  current : Option TaskId := none
  tasks : TaskId → Pc := fun _ => .idle
  entry : EntryId → Entry := fun _ => { wrapper := ⟨"", ""⟩, lastUsed := 0 }
  nextEntry : EntryId := 0
  entries : OrderedDict Key EntryId := .empty
  registryLock : AsyncLock TaskId := {}

namespace State

variable (runtime : Runtime) (s : State) (task : TaskId)

def lock : LockId → AsyncLock TaskId
  | .registry => s.registryLock
  | .entry e => (s.entry e).lock

def updateEntry (e : EntryId) (change : Entry → Entry) : State :=
  { s with entry := Function.update s.entry e (change (s.entry e)) }

def setLock (l : LockId) (value : AsyncLock TaskId) : State :=
  match l with
  | .registry => { s with registryLock := value }
  | .entry e => s.updateEntry e fun entry => { entry with lock := value }

def goto (point : Pc) : State :=
  { s with
    tasks := Function.update s.tasks task point
    current := if point.isSuspended then none else some task }

/-! ### Locks -/

def acquireLock (l : LockId) (inside waiting : Pc) : State :=
  if (s.lock l).isFree then
    (s.setLock l (s.lock l).take).goto task inside
  else
    (s.setLock l ((s.lock l).enqueue task)).goto task waiting

def resumeLock (l : LockId) (inside : Pc) : State :=
  if (s.lock l).canResume task then
    (s.setLock l (s.lock l).resume).goto task inside
  else s

def releaseLock (l : LockId) (point : Pc) : State :=
  (s.setLock l (s.lock l).release).goto task point

/-! ### Acquisition -/

def pruneClosedLoops : State :=
  { s with entries := s.entries.filter fun item =>
      !(s.entry item.2).loop.any runtime.isClosed }

/-- The item that `_evict_to_capacity` disconnects and drops. -/
def evictToCapacity : Option (Key × EntryId) :=
  if s.entries.items.length < runtime.remotePoolMaxSize then none
  else (s.entries.items.filter fun item => !(s.entry item.2).lock.locked).minOn?
    fun item => (s.entry item.2).lastUsed

def getEntry (call : Call) : State :=
  let s := s.pruneClosedLoops runtime
  match s.entries.get call.key with
  | some e => s.releaseLock task .registry (.lockEntry e (.acquire call))
  | none =>
      match s.evictToCapacity runtime with
      | some (key, e) => s.goto task (.hardClose e (.evictedToCapacity key call))
      | none => s.goto task (.create call)

def create (call : Call) : State :=
  let entry : Entry :=
    { wrapper := ⟨call.endpointUrl, call.transport⟩, lastUsed := s.clock }
  let e := s.nextEntry
  let s := s.updateEntry e fun _ => entry
  let s := { s with nextEntry := e + 1, entries := s.entries.set call.key e }
  s.releaseLock task .registry (.lockEntry e (.acquire call))

/-- `acquire` holds the lock of the entry. -/
def acquire (e : EntryId) (call : Call) : State :=
  if (s.entry e).connected && (s.entry e).loop != some runtime.running then
    s.goto task (.hardClose e (.rebound call))
  else s.goto task (.connect e call)

def connect (e : EntryId) (call : Call) : State :=
  if (s.entry e).connected then s.goto task (.yielding e call)
  else s.goto task (.connecting e call)

/-- The connect of the wrapper has ended. -/
def connected (e : EntryId) (call : Call) : Outcome → State
  | .returned =>
      let s := s.updateEntry e fun entry =>
        { entry with connected := true, loop := some runtime.running }
      s.goto task (.yielding e call)
  | outcome => s.goto task (.leaving e call outcome)

def yielding (e : EntryId) (call : Call) : State :=
  let s := s.updateEntry e fun entry => { entry with lastUsed := s.clock }
  s.goto task (.calling e call)

/-- The attempt has ended, and `call_tool` or `list_tools` with it unless the
first attempt met a reconnectable error. -/
def leaving (e : EntryId) (call : Call) (outcome : Outcome) : State :=
  if call.isFirst && outcome = .reconnectable then
    s.releaseLock task (.entry e) (.markBroken call)
  else s.releaseLock task (.entry e) .idle

def retry (call : Call) : Pc :=
  .lockRegistry (.getEntry { call with isFirst := false })

/-! ### Closing -/

def markBroken (call : Call) : State :=
  match s.entries.get call.key with
  | some e => s.goto task (.lockEntry e (.markBroken call))
  | none => s.goto task (retry call)

def hardClose (e : EntryId) (after : AfterClose) : State :=
  if (s.entry e).connected then s.goto task (.disconnecting e after)
  else s.goto task (.closed e after)

def closed (e : EntryId) (after : AfterClose) : State :=
  let s := s.updateEntry e fun entry => { entry with connected := false }
  match after with
  | .rebound call => s.goto task (.connect e call)
  | .broken call => s.releaseLock task (.entry e) (retry call)
  | .evictedToCapacity key call =>
      { s with entries := s.entries.pop key }.goto task (.create call)
  | .evictedIdle key stale =>
      { s with entries := s.entries.pop key }.goto task (.evictStale stale)

/-- The items that `evict_idle` selects. -/
def stale (now maxIdleSeconds : Int) : List (Key × EntryId) :=
  s.entries.items.filter fun item =>
    now - (s.entry item.2).lastUsed > maxIdleSeconds && !(s.entry item.2).lock.locked

def evictStale : List (Key × EntryId) → State
  | [] => s.releaseLock task .registry .idle
  | (key, e) :: stale => s.goto task (.hardClose e (.evictedIdle key stale))

/-! ### Moves -/

/-- The task starts an operation. -/
def start : Operation → State
  | .callTool endpointUrl transport =>
      s.goto task (.lockRegistry (.getEntry ⟨endpointUrl, transport, .callTool, true⟩))
  | .listTools endpointUrl transport =>
      s.goto task (.lockRegistry (.getEntry ⟨endpointUrl, transport, .listTools, true⟩))
  | .evictIdle maxIdleSeconds =>
      s.goto task (.lockRegistry (.evictIdle s.clock maxIdleSeconds))

/-- The running task goes on to its next control point. -/
def run : State :=
  match s.tasks task with
  | .lockRegistry use => s.acquireLock task .registry (.inRegistry use) (.waitingRegistry use)
  | .inRegistry (.getEntry call) => s.getEntry runtime task call
  | .inRegistry (.evictIdle now maxIdleSeconds) =>
      s.goto task (.evictStale (s.stale now maxIdleSeconds))
  | .create call => s.create task call
  | .evictStale stale => s.evictStale task stale
  | .lockEntry e use => s.acquireLock task (.entry e) (.inEntry e use) (.waitingEntry e use)
  | .inEntry e (.acquire call) => s.acquire runtime task e call
  | .inEntry e (.markBroken call) => s.goto task (.hardClose e (.broken call))
  | .connect e call => s.connect task e call
  | .yielding e call => s.yielding task e call
  | .leaving e call outcome => s.leaving task e call outcome
  | .markBroken call => s.markBroken task call
  | .hardClose e after => s.hardClose task e after
  | .closed e after => s.closed task e after
  | _ => s

/-- A suspended task is resumed; `outcome` is that of the method it awaited. An
error of `disconnect` is swallowed. -/
def resume (outcome : Outcome) : State :=
  match s.tasks task with
  | .waitingRegistry use => s.resumeLock task .registry (.inRegistry use)
  | .waitingEntry e use => s.resumeLock task (.entry e) (.inEntry e use)
  | .connecting e call => s.connected runtime task e call outcome
  | .calling e call => s.goto task (.leaving e call outcome)
  | .disconnecting e after => s.goto task (.closed e after)
  | _ => s

end State

inductive Move where
  | tick (seconds : Nat)
  | start (task : TaskId) (operation : Operation)
  | run (task : TaskId)
  | resume (task : TaskId) (outcome : Outcome)
  deriving DecidableEq, Repr

/-- A move that the scheduler cannot make changes nothing. -/
def step (runtime : Runtime) (s : State) : Move → State
  | .tick seconds => { s with clock := s.clock + seconds }
  | .start task operation =>
      if s.current = none ∧ s.tasks task = .idle then s.start task operation else s
  | .run task => if s.current = some task then s.run runtime task else s
  | .resume task outcome =>
      if s.current = none then s.resume runtime task outcome else s

/-- A move of `task` for each of its next control points. -/
def runs (task : TaskId) (count : Nat) : List Move :=
  List.replicate count (.run task)

def exampleRuntime : Runtime where
  remotePoolMaxSize := 50
  running := 0
  isClosed _ := false
  running_open := rfl

/-- Task 0 is inside `wrapper.call_tool` and task 1 is queued for the entry. -/
def exampleCalls : List Move :=
  [.start 0 (.callTool "https://x.test" "sse")] ++ runs 0 6 ++ [.resume 0 .returned] ++ runs 0 1 ++
    [.start 1 (.callTool "https://x.test" "sse")] ++ runs 1 3

end GrafuxMcp.Pool
