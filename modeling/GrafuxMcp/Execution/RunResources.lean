import GrafuxMcp.Execution.ExecutionService
import GrafuxMcp.Foundation.AllRuns

/-! # Resources of concurrent runs

Any number of `invoke` and `invoke_async` calls interleaved at their operations:
the slots of the semaphore, the keys of the cancellation registry and the set of
background tasks. -/

namespace GrafuxMcp.Execution

open GrafuxMcp Program

/-! ### One task -/

/-- What a task has of the shared resources, as its own operations say. -/
structure Own where
  /-- The id of its invocation row. -/
  id : Option Uuid := none
  /-- Its key, between `register` and `unregister`. -/
  registered : Option Text := none
  /-- It has a slot of the semaphore. -/
  holding : Bool := false

def Own.observe (own : Own) : RunEvent → Own
  | ⟨.refresh, .returned id⟩ => { own with id := some id }
  | ⟨.register key, .returned _⟩ => { own with registered := some key }
  | ⟨.unregister _, .returned _⟩ => { own with registered := none }
  | ⟨.acquire, .returned _⟩ => { own with holding := true }
  | ⟨.release, .returned _⟩ => { own with holding := false }
  | _ => own

/-- What a task must have for its next operation. -/
def Own.Permits (own : Own) : Op → Prop
  | .refresh => own = {}
  | .register key => own.registered = none ∧ own.id.map Uuid.str = some key
  | .unregister key => own.registered = some key
  | .acquire => own.holding = false
  | .release => own.holding = true
  | .route _ => own.holding = true
  | .execute update => update.status = .running → own.holding = true
  | _ => True

def Own.IsFree (own : Own) : Prop :=
  own.registered = none ∧ own.holding = false

/-- How far a task has come. What is left of a handler of `invoke_async` ends with
the job of the background task that it starts. -/
inductive Stage
  | running (rest : Run (Option Job))
  | spawned (job : Job)
  /-- The background task has ended, and its done callback is due. -/
  | callback
  | ended

structure Task where
  isBackground : Bool := false
  stage : Stage
  own : Own := {}

namespace Task

/-- The operation that the task performs next, or waits for. -/
def next (task : Task) : Option Op :=
  match task.stage with
  | .running (.perform op _) => some op
  | _ => none

def inRoute (task : Task) : Bool :=
  task.next.any Op.isRoute

/-- A background task that was started and whose done callback has not run. -/
def isPending (task : Task) : Bool :=
  match task.stage with
  | .running _ => task.isBackground
  | .spawned _ | .callback => true
  | .ended => false

/-- Nothing of the task's program is left. -/
def hasEnded (task : Task) : Bool :=
  match task.stage with
  | .callback | .ended => true
  | _ => false

end Task

/-! ### The service -/

/-- The shared state; the tasks are numbered in the order of their start. -/
structure Service where
  /-- The slots that are taken. -/
  slots : Nat := 0
  /-- The keys of `cancellation_registry._events`. -/
  registry : List Text := []
  /-- `_background_tasks`. -/
  background : List Nat := []
  tasks : List Task := []
  /-- The ids of the rows that were inserted. -/
  ids : List Uuid := []

inductive Move
  | invoke (request : InvokeRequest)
  | invokeAsync (request : InvokeRequest)
  /-- The task performs its next operation, or comes to its end. -/
  | advance (task : Nat) (outcome : (op : Op) → Outcome effects op)
  /-- A background task gets its first turn. -/
  | begin (task : Nat)
  /-- A background task is cancelled before its first turn. -/
  | cancelSpawned (task : Nat)
  | callback (task : Nat)

namespace Service

variable (cap : Nat) (s : Service)

/-- The semaphore admits a task while a slot is free, and the ids of rows are
distinct. -/
def allows : (op : Op) → Outcome effects op → Bool
  | .acquire, .returned _ => s.slots < cap
  | .refresh, .returned id => id ∉ s.ids
  | _, _ => true

/-- What a performed operation does to the shared state. -/
def perform : (op : Op) → Outcome effects op → Service
  | .acquire, .returned _ => { s with slots := s.slots + 1 }
  | .release, .returned _ => { s with slots := s.slots - 1 }
  | .register key, .returned _ => { s with registry := s.registry.insert key }
  | .unregister key, .returned _ => { s with registry := s.registry.filter (· != key) }
  | .refresh, .returned id => { s with ids := id :: s.ids }
  | _, _ => s

def setTask (index : Nat) (task : Task) : Service :=
  { s with tasks := s.tasks.set index task }

def addTask (task : Task) : Service :=
  { s with tasks := s.tasks ++ [task] }

/-- The number of tasks is the number of the new one. -/
def spawn (job : Job) : Service :=
  { s.addTask { isBackground := true, stage := .spawned job, own := { id := some job.ref.id } } with
    background := s.tasks.length :: s.background }

def endTask (index : Nat) (task : Task) : Service :=
  s.setTask index { task with
    stage := if task.isBackground then .callback else .ended
    own := {} }

def advance (index : Nat) (task : Task) (outcome : (op : Op) → Outcome effects op) :
    Run (Option Job) → Service
  | .perform op resume =>
      if s.allows cap op (outcome op) then
        (s.perform op (outcome op)).setTask index { task with
          stage := .running (resume (outcome op).result)
          own := task.own.observe ⟨op, outcome op⟩ }
      else s
  | .ret (some job) => (s.endTask index task).spawn job
  | .ret none | .raise _ => s.endTask index task

def runCallback (index : Nat) (task : Task) : Service :=
  { s.setTask index { task with stage := .ended } with
    background := s.background.filter (· != index) }

def step : Move → Service
  | .invoke request => s.addTask { stage := .running do
      let _ ← Execution.invoke request
      return none }
  | .invokeAsync request => s.addTask { stage := .running do
      let job ← prepare request
      return some job }
  | .advance index outcome =>
      match s.tasks[index]? with
      | some ⟨isBackground, .running rest, own⟩ =>
          s.advance cap index ⟨isBackground, .running rest, own⟩ outcome rest
      | _ => s
  | .begin index =>
      match s.tasks[index]? with
      | some ⟨isBackground, .spawned job, own⟩ =>
          s.setTask index ⟨isBackground, .running do
            runBackground job
            return none, own⟩
      | _ => s
  | .cancelSpawned index =>
      match s.tasks[index]? with
      | some ⟨isBackground, .spawned job, own⟩ => s.endTask index ⟨isBackground, .spawned job, own⟩
      | _ => s
  | .callback index =>
      match s.tasks[index]? with
      | some ⟨isBackground, .callback, own⟩ => s.runCallback index ⟨isBackground, .callback, own⟩
      | _ => s

end Service

/-! ### The discipline of one task -/

/-- A task performs an operation only with what the operation needs. -/
def discipline : Contract effects Own where
  observe := Own.observe
  assume _ _ := True
  guarantee own event := own.Permits event.op

namespace Own

variable {own : Own}

theorem keeps_perform {op : Op} (permits : own.Permits op)
    (same : ∀ outcome : Outcome effects op, own.observe ⟨op, outcome⟩ = own) :
    Keeps discipline (· = own) (perform op) := by
  apply keeps_call
  rintro _ outcome rfl _
  exact ⟨permits, same outcome⟩

theorem keeps_publish (invocationId : Text) (type : EventType) (data : EventData)
    (isFinal : Bool) :
    Keeps discipline (· = own) (publish invocationId type data isFinal) := by
  apply keeps_bind (keeps_perform (by trivial) fun _ => rfl)
  intro _
  apply keeps_tryCatch (keeps_perform (by trivial) fun _ => rfl)
  intro exc
  split
  · exact keeps_pure _
  · exact keeps_throw _

theorem keeps_writeStatus {update : InvocationUpdate}
    (permits : update.status = .running → own.holding = true) :
    Keeps discipline (· = own) (writeStatus update) := by
  apply keeps_bind (keeps_perform (by exact permits) fun _ => rfl)
  intro _
  exact keeps_perform (by trivial) fun _ => rfl

variable {job : Job}

theorem keeps_retryAfter (attempt : Nat) (lastError : Exc) (stop : Bool) :
    Keeps discipline (· = own) (retryAfter job attempt lastError stop) := by
  apply keeps_bind (keeps_publish _ _ _ _)
  intro _
  cases stop with
  | true => exact keeps_pure _
  | false => exact keeps_bind (keeps_perform (by trivial) fun _ => rfl) fun _ => keeps_pure _

theorem keeps_attemptHandler (attempt : Nat) (exc : Exc) :
    Keeps discipline (· = own) (attemptHandler job attempt exc) := by
  unfold attemptHandler
  split
  · exact keeps_bind (keeps_writeStatus (by simp)) fun _ => keeps_pure _
  · split
    · exact keeps_retryAfter _ _ _
    · split
      · exact keeps_retryAfter _ _ _
      · exact keeps_throw _

theorem keeps_attemptBody (attempt : Nat) (holding : own.holding = true) :
    Keeps discipline (· = own) (attemptBody job attempt) := by
  have rest : Keeps discipline (· = own) (do
      let result ← route job.routeCall
      markDone job.ref result
      publishResult job.invocationId result
      auditLog job.invocationId .info "Tool completed successfully"
      return Pass.returned result) := by
    apply keeps_bind (keeps_perform (by exact holding) fun _ => rfl)
    intro _
    apply keeps_bind (keeps_writeStatus (by simp))
    intro _
    apply keeps_bind (keeps_publish _ _ _ _)
    intro _
    exact keeps_bind (keeps_publish _ _ _ _) fun _ => keeps_pure _
  unfold attemptBody
  split
  · exact keeps_bind (keeps_publish _ _ _ _) fun _ => rest
  · exact rest

theorem keeps_runAttempt (attempt : Nat) (holding : own.holding = true) :
    Keeps discipline (· = own) (runAttempt job attempt) := by
  apply keeps_bind (keeps_perform (by trivial) fun _ => rfl)
  intro cancelled
  cases cancelled with
  | true => exact keeps_bind (keeps_writeStatus (by simp)) fun _ => keeps_pure _
  | false => exact keeps_tryCatch (keeps_attemptBody attempt holding) (keeps_attemptHandler attempt)

theorem keeps_finishFailed (lastError : Option Exc) :
    Keeps discipline (· = own) (finishFailed job lastError) := by
  apply keeps_bind (keeps_writeStatus (by simp))
  intro _
  exact keeps_bind (keeps_publish _ _ _ _) fun _ => keeps_pure _

theorem keeps_retryLoop (attempts : List Nat) (lastError : Option Exc)
    (holding : own.holding = true) :
    Keeps discipline (· = own) (retryLoop job attempts lastError) := by
  induction attempts generalizing lastError with
  | nil => exact keeps_finishFailed _
  | cons attempt rest induction =>
      apply keeps_bind (keeps_runAttempt attempt holding)
      intro pass
      cases pass with
      | returned result => exact keeps_pure _
      | broke lastError => exact keeps_finishFailed _
      | next lastError => exact induction _

theorem keeps_runInSlot (holding : own.holding = true) :
    Keeps discipline (· = own) (runInSlot job) := by
  apply keeps_bind (keeps_writeStatus fun _ => holding)
  intro _
  apply keeps_bind (keeps_publish _ _ _ _)
  intro _
  exact keeps_retryLoop _ _ holding

/-- The task has as much after the clean-up as before. -/
theorem keeps_tryFinally {own' : Own} {program : Run α} {cleanup : Run Unit}
    (body : Keeps discipline (· = own') program)
    (cleaned : cleanup.Meets discipline own' fun _ own'' => own'' = own) :
    (program.tryFinally cleanup).Meets discipline own' fun _ own'' => own'' = own := by
  apply meets_tryFinally
  refine (body own' rfl).mono ?_
  rintro result _ rfl
  refine cleaned.mono ?_
  rintro ended _ rfl
  cases result <;> cases ended <;> rfl

theorem release_acquire (free : own.holding = false) :
    { { own with holding := true } with holding := false } = own := by
  cases own
  cases free
  rfl

theorem unregister_register (unregistered : own.registered = none) :
    { { own with registered := some key } with registered := none } = own := by
  cases own
  cases unregistered
  rfl

theorem keeps_run (free : own.holding = false) : Keeps discipline (· = own) (run job) := by
  rintro _ rfl
  refine meets_bind.mpr (meets_call ?_)
  intro outcome _
  refine ⟨free, ?_⟩
  cases outcome with
  | raised _ _ _ => rfl
  | returned _ =>
      apply keeps_tryFinally (keeps_runInSlot rfl)
      apply meets_call
      intro outcome _
      refine ⟨rfl, ?_⟩
      cases outcome with
      | raised _ _ possible => cases possible
      | returned _ =>
          exact release_acquire free

/-- A part of a task between `register` and `unregister`. -/
theorem meets_registered {program : Run α} (named : own.id.map Uuid.str = some key)
    (unregistered : own.registered = none)
    (body : Keeps discipline (· = { own with registered := some key }) program) :
    Keeps discipline (· = own) (do
      perform (.register key)
      program.tryFinally (perform (.unregister key))) := by
  rintro _ rfl
  refine meets_bind.mpr (meets_call ?_)
  intro outcome _
  refine ⟨⟨unregistered, named⟩, ?_⟩
  cases outcome with
  | raised _ _ possible => cases possible
  | returned _ =>
      apply keeps_tryFinally body
      apply meets_call
      intro outcome _
      refine ⟨rfl, ?_⟩
      cases outcome with
      | raised _ _ possible => cases possible
      | returned _ =>
          exact unregister_register unregistered

theorem keeps_runBackground :
    Keeps discipline (· = { id := some job.ref.id }) (runBackground job) := by
  apply meets_registered rfl rfl
  apply keeps_tryCatch
  · apply keeps_bind _ fun _ => keeps_pure _
    rintro _ rfl
    apply keeps_tryFinally (keeps_run rfl)
    exact keeps_perform (by trivial) (fun _ => rfl) _ rfl
  · intro exc
    split
    · exact keeps_pure _
    · exact keeps_throw _

theorem keeps_uuidOf (text : Text) : Keeps discipline (· = own) (uuidOf text) := by
  unfold uuidOf
  cases Uuid.parse text with
  | some uuid => exact keeps_pure _
  | none => exact keeps_throw _

/-- What an operation that failed leaves of a task that had nothing. -/
theorem failed {result : Except Exc α} {id : α → Uuid} (exc : Exc)
    (isError : result = .error exc) :
    IsFree {} ∧ ∀ value, result = .ok value → ({} : Own) = { id := some (id value) } := by
  refine ⟨⟨rfl, rfl⟩, fun _ equal => ?_⟩
  rw [isError] at equal
  cases equal

theorem meets_insert (invocation : MCPInvocation) :
    Program.Meets discipline (do
      Execution.perform (.add invocation)
      Execution.perform .commit
      Execution.perform .refresh) {} fun result own =>
        own.IsFree ∧ ∀ id, result = .ok id → own = { id := some id } := by
  apply (keeps_perform (by trivial) fun _ => rfl).andThen rfl
  · rintro _ _ rfl
    apply (keeps_perform (by trivial) fun _ => rfl).andThen rfl
    · rintro _ _ rfl
      apply meets_call
      intro outcome _
      refine ⟨rfl, ?_⟩
      cases outcome with
      | raised exc _ _ => exact failed exc rfl
      | returned id =>
          refine ⟨⟨rfl, rfl⟩, fun other equal => ?_⟩
          cases equal
          rfl
    · rintro exc _ rfl
      exact failed exc rfl
  · rintro exc _ rfl
    exact failed exc rfl

/-- The task owns the row that it has inserted, and nothing else. -/
theorem meets_createInvocation (request : InvokeRequest) (serverType : ServerType) :
    (createInvocation request serverType).Meets discipline {} fun result own =>
      own.IsFree ∧ ∀ id, result = .ok id → own = { id := some id } := by
  apply (keeps_uuidOf request.orgId).andThen rfl
  · rintro orgId _ rfl
    cases request.projectId.filter (!·.isEmpty) with
    | none => exact meets_insert _
    | some text =>
        have parsed : Keeps discipline (· = {}) (some <$> uuidOf text) :=
          keeps_bind (keeps_uuidOf text) fun _ => keeps_pure _
        apply parsed.andThen rfl
        · rintro projectId _ rfl
          exact meets_insert _
        · rintro exc _ rfl
          exact failed exc rfl
  · rintro exc _ rfl
    exact failed exc rfl

theorem meets_prepare (request : InvokeRequest) :
    (prepare request).Meets discipline {} fun result own =>
      own.IsFree ∧ ∀ job : Job, result = .ok job → own = { id := some job.ref.id } := by
  have routed : Keeps discipline (· = {}) (resolveToolRouting request.toolId) := by
    unfold resolveToolRouting
    cases request.toolId with
    | none => exact keeps_pure _
    | some toolId =>
        apply keeps_bind (keeps_perform (by trivial) fun _ => rfl)
        intro found
        split
        · exact keeps_pure _
        · exact keeps_pure _
  apply routed.andThen rfl
  · rintro routing _ rfl
    refine meets_bind.mpr ((meets_createInvocation request routing.serverType).mono ?_)
    intro result own created
    cases result with
    | error _ => exact ⟨created.1, fun _ equal => by cases equal⟩
    | ok id =>
        refine ⟨created.1, fun job equal => ?_⟩
        cases equal
        exact created.2 id rfl
  · rintro exc _ rfl
    exact ⟨⟨rfl, rfl⟩, fun _ equal => by cases equal⟩

/-- How a task may end: a handler of `invoke_async` leaves its row to the
background task. -/
def Ended (result : Except Exc (Option Job)) (own : Own) : Prop :=
  own.IsFree ∧ ∀ job, result = .ok (some job) → own = { id := some job.ref.id }

theorem meets_invoke (request : InvokeRequest) :
    Program.Meets discipline (do
      let _ ← Execution.invoke request
      return none) {} Ended := by
  refine meets_bind.mpr ?_
  have invoked : (Execution.invoke request).Meets discipline {} fun _ own => own.IsFree := by
    refine meets_bind.mpr ((meets_prepare request).mono ?_)
    intro result own prepared
    cases result with
    | error _ => exact prepared.1
    | ok job =>
        have owns := prepared.2 job rfl
        have ran : Keeps discipline (· = { id := some job.ref.id }) (do
            perform (.register job.invocationId)
            (run job).tryFinally (perform (.unregister job.invocationId))) :=
          meets_registered rfl rfl (keeps_run rfl)
        refine (ran own owns).mono ?_
        rintro _ _ rfl
        exact ⟨rfl, rfl⟩
  refine invoked.mono ?_
  intro result own free
  cases result with
  | error _ => exact ⟨free, fun _ equal => by cases equal⟩
  | ok _ => exact ⟨free, fun _ equal => by cases equal⟩

theorem meets_invokeAsync (request : InvokeRequest) :
    Program.Meets discipline (do
      let job ← prepare request
      return some job) {} Ended := by
  refine meets_bind.mpr ((meets_prepare request).mono ?_)
  intro result own prepared
  cases result with
  | error _ => exact ⟨prepared.1, fun _ equal => by cases equal⟩
  | ok job =>
      refine ⟨prepared.1, fun other equal => ?_⟩
      cases equal
      exact prepared.2 job rfl

theorem meets_background (job : Job) :
    Program.Meets discipline (do
      runBackground job
      return none) { id := some job.ref.id } Ended := by
  refine meets_bind.mpr ((keeps_runBackground _ rfl).mono ?_)
  rintro result _ rfl
  cases result with
  | error _ => exact ⟨⟨rfl, rfl⟩, fun _ equal => by cases equal⟩
  | ok _ => exact ⟨⟨rfl, rfl⟩, fun _ equal => by cases equal⟩

end Own

/-! ### The invariant -/

/-- What is left of a task goes on from what the task has. -/
structure Task.Follows (task : Task) : Prop where
  program : match task.stage with
    | .running rest => rest.Meets discipline task.own Own.Ended
    | .spawned job => task.own = { id := some job.ref.id } ∧ task.isBackground = true
    | .callback => task.own = {} ∧ task.isBackground = true
    | .ended => task.own = {}
  named : ∀ key, task.own.registered = some key → task.own.id.map Uuid.str = some key

structure Consistent (cap : Nat) (s : Service) : Prop where
  follows : ∀ task ∈ s.tasks, task.Follows
  slots : s.slots = s.tasks.countP (·.own.holding)
  bounded : s.slots ≤ cap
  registry : ∀ key, key ∈ s.registry ↔
    ∃ (index : Nat) (task : Task), s.tasks[index]? = some task ∧ task.own.registered = some key
  distinct : ∀ (index other : Nat) (task task' : Task), s.tasks[index]? = some task →
    s.tasks[other]? = some task' → ∀ id, task.own.id = some id → task'.own.id = some id →
      index = other
  known : ∀ (index : Nat) (task : Task), s.tasks[index]? = some task →
    ∀ id, task.own.id = some id → id ∈ s.ids
  background : ∀ index : Nat, index ∈ s.background ↔
    ∃ task : Task, s.tasks[index]? = some task ∧ task.isPending = true

section Invariant

variable {cap : Nat} {s s' : Service} {index : Nat} {old new : Task}

theorem getElem?_set_iff (found : s.tasks[index]? = some old) {other : Nat} {task : Task} :
    (s.tasks.set index new)[other]? = some task ↔
      (other = index ∧ task = new) ∨ (other ≠ index ∧ s.tasks[other]? = some task) := by
  have bound : index < s.tasks.length := (List.getElem?_eq_some_iff.mp found).1
  rw [List.getElem?_set]
  by_cases same : index = other
  · subst same
    simp [bound, eq_comm]
  · have different : other ≠ index := fun equal => same equal.symm
    simp [same, different]

theorem countP_set_iff (found : s.tasks[index]? = some old) :
    (s.tasks.set index new).countP (·.own.holding) + old.own.holding.toNat =
      s.tasks.countP (·.own.holding) + new.own.holding.toNat := by
  obtain ⟨bound, rfl⟩ := List.getElem?_eq_some_iff.mp found
  rw [List.countP_set bound]
  have counted : (s.tasks[index]).own.holding = true → 0 < s.tasks.countP (·.own.holding) :=
    fun holding => List.countP_pos_iff.mpr ⟨_, List.getElem_mem bound, holding⟩
  cases before : (s.tasks[index]).own.holding with
  | false => cases new.own.holding <;> simp
  | true =>
      have positive := counted before
      cases new.own.holding <;> simp <;> omega

/-- One task moves on; the shared state follows what the task has. -/
theorem Consistent.setTask (consistent : Consistent cap s) (found : s.tasks[index]? = some old)
    (follows : new.Follows) (tasks : s'.tasks = s.tasks.set index new)
    (slots : s'.slots + old.own.holding.toNat = s.slots + new.own.holding.toNat)
    (bounded : s'.slots ≤ cap)
    (registry : ∀ key, key ∈ s'.registry ↔
      new.own.registered = some key ∨ (key ∈ s.registry ∧ old.own.registered ≠ some key))
    (ids : ∀ id, new.own.id = some id → old.own.id = some id ∨ (id ∉ s.ids ∧ id ∈ s'.ids))
    (grows : ∀ id ∈ s.ids, id ∈ s'.ids)
    (background : ∀ other, other ∈ s'.background ↔
      (other = index ∧ new.isPending = true) ∨ (other ≠ index ∧ other ∈ s.background)) :
    Consistent cap s' := by
  have unique : ∀ (other : Nat) (task : Task) (id : Uuid), other ≠ index → s.tasks[other]? = some task →
      task.own.id = some id → new.own.id = some id → False := by
    intro other task id different at_ owns fresh
    rcases ids id fresh with same | unknown
    · exact different (consistent.distinct other index task old at_ found id owns same)
    · exact unknown.1 (consistent.known other task at_ id owns)
  constructor
  · intro task member
    rw [tasks] at member
    rcases List.mem_or_eq_of_mem_set member with before | rfl
    · exact consistent.follows task before
    · exact follows
  · have counted : (s.tasks.set index new).countP (·.own.holding) + old.own.holding.toNat =
        s.tasks.countP (·.own.holding) + new.own.holding.toNat := countP_set_iff found
    rw [tasks]
    have before := consistent.slots
    omega
  · exact bounded
  · intro key
    rw [registry, consistent.registry, tasks]
    simp only [getElem?_set_iff found]
    constructor
    · rintro (registered | ⟨⟨other, task, at_, registered⟩, unregistered⟩)
      · exact ⟨index, new, Or.inl ⟨rfl, rfl⟩, registered⟩
      · refine ⟨other, task, Or.inr ⟨?_, at_⟩, registered⟩
        rintro rfl
        rw [found, Option.some.injEq] at at_
        rw [at_] at unregistered
        exact unregistered registered
    · rintro ⟨other, task, ⟨rfl, rfl⟩ | ⟨different, at_⟩, registered⟩
      · exact Or.inl registered
      · refine Or.inr ⟨⟨other, task, at_, registered⟩, fun same => ?_⟩
        -- two tasks with one key would have one id
        have own := (consistent.follows old (List.mem_of_getElem? found)).named key same
        have others := (consistent.follows task (List.mem_of_getElem? at_)).named key registered
        obtain ⟨id, owns, spelled⟩ := Option.map_eq_some_iff.mp own
        obtain ⟨id', owns', spelled'⟩ := Option.map_eq_some_iff.mp others
        have equal : id' = id := Uuid.str_injective (spelled'.trans spelled.symm)
        rw [equal] at owns'
        exact different (consistent.distinct other index task old at_ found id owns' owns)
  · intro first second task task' at_ at_'
    rw [tasks] at at_ at_'
    intro id owns owns'
    rcases (getElem?_set_iff found).mp at_ with ⟨rfl, rfl⟩ | ⟨different, before⟩
    · rcases (getElem?_set_iff found).mp at_' with ⟨rfl, rfl⟩ | ⟨different, before⟩
      · rfl
      · exact (unique second task' id different before owns' owns).elim
    · rcases (getElem?_set_iff found).mp at_' with ⟨rfl, rfl⟩ | ⟨-, before'⟩
      · exact (unique first task id different before owns owns').elim
      · exact consistent.distinct first second task task' before before' id owns owns'
  · intro other task at_ id owns
    rw [tasks] at at_
    rcases (getElem?_set_iff found).mp at_ with ⟨rfl, rfl⟩ | ⟨-, at_⟩
    · rcases ids id owns with same | fresh
      · exact grows id (consistent.known other old found id same)
      · exact fresh.2
    · exact grows id (consistent.known other task at_ id owns)
  · intro other
    rw [background, consistent.background, tasks]
    simp only [getElem?_set_iff found]
    constructor
    · rintro (⟨rfl, pending⟩ | ⟨different, task, at_, pending⟩)
      · exact ⟨new, Or.inl ⟨rfl, rfl⟩, pending⟩
      · exact ⟨task, Or.inr ⟨different, at_⟩, pending⟩
    · rintro ⟨task, ⟨rfl, rfl⟩ | ⟨different, at_⟩, pending⟩
      · exact Or.inl ⟨rfl, pending⟩
      · exact Or.inr ⟨different, task, at_, pending⟩

theorem Consistent.pending (consistent : Consistent cap s) (found : s.tasks[index]? = some old) :
    index ∈ s.background ↔ old.isPending = true := by
  rw [consistent.background]
  constructor
  · rintro ⟨task, at_, pending⟩
    rw [found, Option.some.injEq] at at_
    rwa [at_]
  · exact fun pending => ⟨old, found, pending⟩

theorem Consistent.keepsPending (consistent : Consistent cap s)
    (found : s.tasks[index]? = some old) (same : new.isPending = old.isPending) (other : Nat) :
    other ∈ s.background ↔
      (other = index ∧ new.isPending = true) ∨ (other ≠ index ∧ other ∈ s.background) := by
  by_cases equal : other = index
  · rw [equal, consistent.pending found, same]
    simp
  · simp [equal]

theorem Consistent.keepsRegistry (consistent : Consistent cap s)
    (found : s.tasks[index]? = some old) (key : Text) :
    key ∈ s.registry ↔
      old.own.registered = some key ∨ (key ∈ s.registry ∧ old.own.registered ≠ some key) := by
  constructor
  · intro present
    by_cases registered : old.own.registered = some key
    · exact Or.inl registered
    · exact Or.inr ⟨present, registered⟩
  · rintro (registered | ⟨present, -⟩)
    · exact (consistent.registry key).mpr ⟨index, old, found, registered⟩
    · exact present

/-- The task goes on with what it has. -/
theorem Consistent.goOn (consistent : Consistent cap s) (found : s.tasks[index]? = some old)
    (follows : new.Follows) (own : new.own = old.own) (pending : new.isPending = old.isPending) :
    Consistent cap (s.setTask index new) := by
  apply consistent.setTask found follows rfl
  · rw [own]
    rfl
  · exact consistent.bounded
  · intro key
    rw [own]
    exact consistent.keepsRegistry found key
  · intro id owns
    rw [own] at owns
    exact Or.inl owns
  · exact fun _ member => member
  · exact consistent.keepsPending found pending

theorem Consistent.endTask (consistent : Consistent cap s) (found : s.tasks[index]? = some old)
    (free : old.own.IsFree) (pending : old.isPending = old.isBackground) :
    Consistent cap (s.endTask index old) := by
  apply consistent.setTask found _ rfl
  · rw [free.2]
    rfl
  · exact consistent.bounded
  · intro key
    rw [free.1]
    simp [Service.endTask, Service.setTask]
  · intro id owns
    cases owns
  · exact fun _ member => member
  · apply consistent.keepsPending found
    rw [pending]
    cases old.isBackground <;> rfl
  · constructor
    · cases background : old.isBackground with
      | true => simp
      | false => simp
    · intro key registered
      cases registered

theorem Consistent.addTask (consistent : Consistent cap s) (follows : new.Follows)
    (free : new.own.IsFree) (tasks : s'.tasks = s.tasks ++ [new])
    (slots : s'.slots = s.slots) (registry : s'.registry = s.registry) (ids : s'.ids = s.ids)
    (fresh : ∀ id, new.own.id = some id → id ∈ s.ids ∧
      ∀ task ∈ s.tasks, task.own.id ≠ some id)
    (background : ∀ other, other ∈ s'.background ↔
      (other = s.tasks.length ∧ new.isPending = true) ∨ other ∈ s.background) :
    Consistent cap s' := by
  have found : ∀ (index : Nat) (task : Task), s'.tasks[index]? = some task ↔
      s.tasks[index]? = some task ∨ (index = s.tasks.length ∧ task = new) := by
    intro index task
    rw [tasks]
    rcases Nat.lt_trichotomy index s.tasks.length with before | rfl | after
    · have different : index ≠ s.tasks.length := Nat.ne_of_lt before
      rw [List.getElem?_append_left before]
      simp [different]
    · simp [eq_comm]
    · have different : index ≠ s.tasks.length := Nat.ne_of_gt after
      have absent : s.tasks[index]? = none := List.getElem?_eq_none (Nat.le_of_lt after)
      have absent' : (s.tasks ++ [new])[index]? = none := by
        apply List.getElem?_eq_none
        rw [List.length_append, List.length_singleton]
        omega
      simp [absent, absent', different]
  constructor
  · intro task member
    rw [tasks] at member
    rcases List.mem_append.mp member with before | added
    · exact consistent.follows task before
    · rw [List.mem_singleton.mp added]
      exact follows
  · rw [slots, tasks, List.countP_append, consistent.slots]
    simp [free.2]
  · rw [slots]
    exact consistent.bounded
  · intro key
    rw [registry, consistent.registry]
    simp only [found]
    constructor
    · rintro ⟨index, task, at_, registered⟩
      exact ⟨index, task, Or.inl at_, registered⟩
    · rintro ⟨index, task, at_ | ⟨-, rfl⟩, registered⟩
      · exact ⟨index, task, at_, registered⟩
      · rw [free.1] at registered
        cases registered
  · intro index other task task' at_ at_' id owns owns'
    rcases (found index task).mp at_ with before | ⟨rfl, rfl⟩
    · rcases (found other task').mp at_' with before' | ⟨rfl, rfl⟩
      · exact consistent.distinct index other task task' before before' id owns owns'
      · exact absurd owns ((fresh id owns').2 task (List.mem_of_getElem? before))
    · rcases (found other task').mp at_' with before' | ⟨rfl, rfl⟩
      · exact absurd owns' ((fresh id owns).2 task' (List.mem_of_getElem? before'))
      · rfl
  · intro index task at_ id owns
    rw [ids]
    rcases (found index task).mp at_ with before | ⟨-, rfl⟩
    · exact consistent.known index task before id owns
    · exact (fresh id owns).1
  · intro other
    rw [background, consistent.background]
    simp only [found]
    constructor
    · rintro (⟨rfl, pending⟩ | ⟨task, at_, pending⟩)
      · exact ⟨new, Or.inr ⟨rfl, rfl⟩, pending⟩
      · exact ⟨task, Or.inl at_, pending⟩
    · rintro ⟨task, at_ | ⟨rfl, rfl⟩, pending⟩
      · exact Or.inr ⟨task, at_, pending⟩
      · exact Or.inl ⟨rfl, pending⟩

theorem Consistent.spawn (consistent : Consistent cap s) (found : s.tasks[index]? = some old)
    (free : old.own.IsFree) (pending : old.isPending = old.isBackground) {job : Job}
    (owns : old.own.id = some job.ref.id) :
    Consistent cap ((s.endTask index old).spawn job) := by
  have ended := consistent.endTask found free pending
  have follows : Task.Follows
      { isBackground := true, stage := .spawned job, own := { id := some job.ref.id } } :=
    ⟨⟨rfl, rfl⟩, fun _ registered => by cases registered⟩
  have tasks : ((s.endTask index old).spawn job).tasks = (s.endTask index old).tasks ++
      [{ isBackground := true, stage := .spawned job, own := { id := some job.ref.id } }] := rfl
  apply ended.addTask follows ⟨rfl, rfl⟩ tasks rfl rfl rfl
  · intro id fresh
    cases fresh
    refine ⟨consistent.known index old found _ owns, ?_⟩
    intro task member owns'
    obtain ⟨other, at_⟩ := List.mem_iff_getElem?.mp member
    rcases (getElem?_set_iff found).mp at_ with ⟨-, rfl⟩ | ⟨different, at_⟩
    · cases owns'
    · exact different (consistent.distinct other index task old at_ found _ owns' owns)
  · intro other
    change other ∈ List.cons _ _ ↔ _
    rw [List.mem_cons]
    simp [Task.isPending]

/-! ### One step -/

variable {isBackground : Bool} {own : Own}

theorem Own.named_observe {event : RunEvent} (permits : own.Permits event.op)
    (named : ∀ key, own.registered = some key → own.id.map Uuid.str = some key) :
    ∀ key, (own.observe event).registered = some key →
      (own.observe event).id.map Uuid.str = some key := by
  rcases event with ⟨op, outcome⟩
  cases outcome with
  | raised _ _ _ => cases op <;> exact named
  | returned answer =>
      cases op with
      | register key =>
          intro other equal
          cases equal
          exact permits.2
      | unregister _ =>
          intro other equal
          cases equal
      | refresh =>
          have nothing : own = {} := permits
          intro other equal
          rw [nothing] at equal
          cases equal
      | _ => exact named

/-- A task performs one operation, with what the operation needs. -/
theorem Consistent.perform (consistent : Consistent cap s) {op : Op}
    {resume : Except Exc op.Answer → Run (Option Job)}
    (found : s.tasks[index]? = some ⟨isBackground, .running (.perform op resume), own⟩)
    (outcome : Outcome effects op) (allowed : s.allows cap op outcome = true) :
    Consistent cap ((s.perform op outcome).setTask index
      ⟨isBackground, .running (resume outcome.result), own.observe ⟨op, outcome⟩⟩) := by
  have before := consistent.follows _ (List.mem_of_getElem? found)
  have parts := before.program outcome (by trivial)
  have permits : own.Permits op := parts.1
  have follows : Task.Follows
      ⟨isBackground, .running (resume outcome.result), own.observe ⟨op, outcome⟩⟩ :=
    ⟨parts.2, Own.named_observe permits before.named⟩
  have quiet : s.perform op outcome = s → own.observe ⟨op, outcome⟩ = own →
      Consistent cap ((s.perform op outcome).setTask index
        ⟨isBackground, .running (resume outcome.result), own.observe ⟨op, outcome⟩⟩) := by
    intro shared kept
    rw [shared]
    exact consistent.goOn found follows kept rfl
  have registry : ∀ key, key ∈ s.registry ↔ own.registered = some key ∨
      (key ∈ s.registry ∧ own.registered ≠ some key) := consistent.keepsRegistry found
  cases outcome with
  | raised _ _ _ => apply quiet <;> cases op <;> rfl
  | returned answer =>
      cases op with
      | acquire =>
          have free : own.holding = false := permits
          have room : s.slots < cap := by simpa [Service.allows] using allowed
          apply consistent.setTask found follows rfl
          · change s.slots + 1 + own.holding.toNat = s.slots + 1
            rw [free]
            rfl
          · exact room
          · exact registry
          · exact fun _ owns => Or.inl owns
          · exact fun _ member => member
          · exact consistent.keepsPending found rfl
      | release =>
          have holding : own.holding = true := permits
          have positive : 0 < s.slots := by
            rw [consistent.slots]
            exact List.countP_pos_iff.mpr ⟨_, List.mem_of_getElem? found, holding⟩
          have bounded := consistent.bounded
          apply consistent.setTask found follows rfl
          · change s.slots - 1 + own.holding.toNat = s.slots + 0
            rw [holding, Bool.toNat_true]
            omega
          · change s.slots - 1 ≤ cap
            omega
          · exact registry
          · exact fun _ owns => Or.inl owns
          · exact fun _ member => member
          · exact consistent.keepsPending found rfl
      | register key =>
          have unregistered : own.registered = none := permits.1
          apply consistent.setTask found follows rfl
          · rfl
          · exact consistent.bounded
          · intro other
            change other ∈ s.registry.insert key ↔ some key = some other ∨ _ ∧ own.registered ≠ _
            rw [unregistered]
            simp [eq_comm]
          · exact fun _ owns => Or.inl owns
          · exact fun _ member => member
          · exact consistent.keepsPending found rfl
      | unregister key =>
          have registered : own.registered = some key := permits
          apply consistent.setTask found follows rfl
          · rfl
          · exact consistent.bounded
          · intro other
            change other ∈ s.registry.filter (· != key) ↔ none = some other ∨ _ ∧ own.registered ≠ _
            rw [registered, List.mem_filter, bne_iff_ne, ne_comm]
            simp
          · exact fun _ owns => Or.inl owns
          · exact fun _ member => member
          · exact consistent.keepsPending found rfl
      | refresh =>
          have nothing : own = {} := permits
          have fresh : answer ∉ s.ids := by simpa [Service.allows] using allowed
          apply consistent.setTask found follows rfl
          · rfl
          · exact consistent.bounded
          · exact registry
          · intro id owns
            cases owns
            exact Or.inr ⟨fresh, List.mem_cons_self⟩
          · exact fun _ member => List.mem_cons_of_mem _ member
          · exact consistent.keepsPending found rfl
      | _ => exact quiet rfl rfl

theorem Consistent.advance (consistent : Consistent cap s) {rest : Run (Option Job)}
    (found : s.tasks[index]? = some ⟨isBackground, .running rest, own⟩)
    (outcome : (op : Op) → Outcome effects op) :
    Consistent cap (s.advance cap index ⟨isBackground, .running rest, own⟩ outcome rest) := by
  have before := (consistent.follows _ (List.mem_of_getElem? found)).program
  cases rest with
  | perform op resume =>
      by_cases allowed : s.allows cap op (outcome op) = true
      · rw [Service.advance, allowed]
        exact consistent.perform found (outcome op) allowed
      · have refused : s.allows cap op (outcome op) = false := by simpa using allowed
        rw [Service.advance, refused]
        exact consistent
  | raise exc =>
      have ended : Own.Ended (.error exc) own := before
      exact consistent.endTask found ended.1 rfl
  | ret job =>
      have ended : Own.Ended (.ok job) own := before
      cases job with
      | none => exact consistent.endTask found ended.1 rfl
      | some job =>
          have owns : own = { id := some job.ref.id } := ended.2 job rfl
          exact consistent.spawn found ended.1 rfl (by rw [owns])

/-- A handler of a request starts with nothing. -/
theorem Consistent.start (consistent : Consistent cap s) {handler : Run (Option Job)}
    (meets : handler.Meets discipline {} Own.Ended) :
    Consistent cap (s.addTask { stage := .running handler }) := by
  have follows : Task.Follows { stage := .running handler } :=
    ⟨meets, fun _ registered => by cases registered⟩
  have tasks : (s.addTask { stage := .running handler }).tasks =
      s.tasks ++ [{ stage := .running handler }] := rfl
  apply consistent.addTask follows ⟨rfl, rfl⟩ tasks rfl rfl rfl
  · intro id owns
    cases owns
  · intro other
    simp [Service.addTask, Task.isPending]

theorem Consistent.runCallback (consistent : Consistent cap s)
    (found : s.tasks[index]? = some ⟨isBackground, .callback, own⟩) :
    Consistent cap (s.runCallback index ⟨isBackground, .callback, own⟩) := by
  have before := consistent.follows _ (List.mem_of_getElem? found)
  have nothing : own = {} := before.program.1
  have follows : Task.Follows ⟨isBackground, .ended, own⟩ := ⟨nothing, before.named⟩
  have registry := consistent.keepsRegistry found
  apply consistent.setTask found follows rfl
  · rfl
  · exact consistent.bounded
  · exact registry
  · exact fun _ owns => Or.inl owns
  · exact fun _ member => member
  · intro other
    change other ∈ s.background.filter (· != index) ↔ _
    rw [List.mem_filter, bne_iff_ne]
    simp [Task.isPending, and_comm]

theorem Consistent.step (consistent : Consistent cap s) (move : Move) :
    Consistent cap (s.step cap move) := by
  cases move with
  | invoke request => exact consistent.start (Own.meets_invoke request)
  | invokeAsync request => exact consistent.start (Own.meets_invokeAsync request)
  | advance index outcome =>
      simp only [Service.step]
      split
      case h_1 found => exact consistent.advance found outcome
      case h_2 => exact consistent
  | begin index =>
      simp only [Service.step]
      split
      case h_1 isBackground job own found =>
        have before := consistent.follows _ (List.mem_of_getElem? found)
        have owns : own = { id := some job.ref.id } := before.program.1
        have follows : Task.Follows ⟨isBackground, .running do
            runBackground job
            return none, own⟩ := by
          refine ⟨?_, before.named⟩
          change Program.Meets discipline _ own Own.Ended
          rw [owns]
          exact Own.meets_background job
        apply consistent.goOn found follows rfl
        exact before.program.2
      case h_2 => exact consistent
  | cancelSpawned index =>
      simp only [Service.step]
      split
      case h_1 isBackground job own found =>
        have before := (consistent.follows _ (List.mem_of_getElem? found)).program
        have owns : own = { id := some job.ref.id } := before.1
        have free : own.IsFree := by
          rw [owns]
          exact ⟨rfl, rfl⟩
        exact consistent.endTask found free before.2.symm
      case h_2 => exact consistent
  | callback index =>
      simp only [Service.step]
      split
      case h_1 found => exact consistent.runCallback found
      case h_2 => exact consistent

theorem consistent_start : Consistent cap {} := by
  constructor <;> simp

end Invariant

/-! ### Every interleaving -/

/-- What is true of the shared resources in a state. -/
structure Conserved (cap : Nat) (s : Service) : Prop where
  routed : s.tasks.countP Task.inRoute ≤ cap
  running : ∀ task ∈ s.tasks, ∀ update, task.next = some (.execute update) →
    update.status = .running → task.own.holding = true
  registry : ∀ key, key ∈ s.registry ↔ ∃ task ∈ s.tasks, task.own.registered = some key
  ids : ∀ task ∈ s.tasks, ∀ key, task.own.registered = some key →
    task.own.id.map Uuid.str = some key
  background : ∀ index : Nat, index ∈ s.background ↔
    ∃ task : Task, s.tasks[index]? = some task ∧ task.isPending = true
  slots : s.slots = s.tasks.countP (·.own.holding)
  /-- Done callbacks may still be due. -/
  ended : (∀ task ∈ s.tasks, task.hasEnded = true) → s.slots = 0 ∧ s.registry = []
  settled : (∀ task ∈ s.tasks, task.hasEnded = true ∧ task.isPending = false) →
    s.slots = 0 ∧ s.registry = [] ∧ s.background = []

namespace Task.Follows

variable {task : Task}

theorem permits (follows : task.Follows) {op : Op} (next : task.next = some op)
    (outcome : Outcome effects op) : task.own.Permits op := by
  rcases task with ⟨isBackground, stage, own⟩
  cases stage with
  | running rest =>
      cases rest with
      | perform other resume =>
          cases next
          exact (follows.program outcome (by trivial)).1
      | _ => cases next
  | _ => cases next

theorem nothing (follows : task.Follows) (ended : task.hasEnded = true) : task.own = {} := by
  rcases task with ⟨isBackground, stage, own⟩
  cases stage with
  | callback => exact follows.program.1
  | ended => exact follows.program
  | _ => cases ended

theorem routed (follows : task.Follows) (inRoute : task.inRoute = true) :
    task.own.holding = true := by
  unfold Task.inRoute at inRoute
  cases next : task.next with
  | none =>
      rw [next] at inRoute
      cases inRoute
  | some op =>
      rw [next] at inRoute
      cases op with
      | route call => exact follows.permits next (.returned Value.none)
      | _ => cases inRoute

end Task.Follows

theorem Consistent.conserved {cap : Nat} {s : Service} (consistent : Consistent cap s) :
    Conserved cap s := by
  have freed : (∀ task ∈ s.tasks, task.hasEnded = true) → s.slots = 0 ∧ s.registry = [] := by
    intro ended
    constructor
    · rw [consistent.slots, List.countP_eq_zero]
      intro task member
      rw [(consistent.follows task member).nothing (ended task member)]
      simp
    · rw [List.eq_nil_iff_forall_not_mem]
      intro key present
      obtain ⟨index, task, found, registered⟩ := (consistent.registry key).mp present
      have member := List.mem_of_getElem? found
      rw [(consistent.follows task member).nothing (ended task member)] at registered
      cases registered
  constructor
  · have holders : s.tasks.countP Task.inRoute ≤ s.tasks.countP (·.own.holding) :=
      List.countP_mono_left fun task member inRoute =>
        (consistent.follows task member).routed inRoute
    have counted := consistent.slots
    have bounded := consistent.bounded
    omega
  · intro task member update next running
    exact (consistent.follows task member).permits next (.returned ()) running
  · intro key
    rw [consistent.registry]
    constructor
    · rintro ⟨index, task, found, registered⟩
      exact ⟨task, List.mem_of_getElem? found, registered⟩
    · rintro ⟨task, member, registered⟩
      obtain ⟨index, found⟩ := List.mem_iff_getElem?.mp member
      exact ⟨index, task, found, registered⟩
  · exact fun task member => (consistent.follows task member).named
  · exact consistent.background
  · exact consistent.slots
  · exact freed
  · intro settled
    have parts := freed fun task member => (settled task member).1
    refine ⟨parts.1, parts.2, ?_⟩
    rw [List.eq_nil_iff_forall_not_mem]
    intro index present
    obtain ⟨task, found, pending⟩ := (consistent.background index).mp present
    rw [(settled task (List.mem_of_getElem? found)).2] at pending
    cases pending

/-- However the runs of any number of requests are interleaved, and wherever
they fail or are cancelled. -/
theorem run_resources_conserved (cap : Nat) (moves : List Move) :
    EachState (Service.step cap) (Conserved cap) {} moves := by
  have each : EachStep (Service.step cap) (fun _ _ => True) {} moves :=
    fun _ _ _ _ => trivial
  have reached : EachState (Service.step cap) (Consistent cap) {} moves :=
    each.invariant consistent_start fun _ move consistent _ => consistent.step move
  exact reached.mono fun _ consistent => consistent.conserved

/-- One request reaches the router, another has just come. -/
example :
    let outcome := undisturbed Uuid.zero (fun _ => none) .none []
    let start := [.invoke exampleRequest, .invokeAsync exampleRequest].foldl (Service.step 1) {}
    let inRoute := (List.replicate 10 (.advance 0 outcome)).foldl (Service.step 1) start
    inRoute.tasks.map Task.inRoute = [true, false] ∧ inRoute.slots = 1 ∧
      inRoute.registry = [Uuid.zero.str] := by
  decide +kernel

end GrafuxMcp.Execution
