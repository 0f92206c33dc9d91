import GrafuxMcp.Foundation.AllRuns
import GrafuxMcp.Lifecycle.ServerState

/-! # Interleaved connects and disconnects

Any number of calls for one server, interleaved at their operations, while nothing
fails. The test of a connect, its registration and its status write are apart, so
another call may come between them. -/

namespace GrafuxMcp.Lifecycle

open GrafuxMcp Program

/-! ### One call -/

/-- What a call has changed and not finished, and what it has staged. -/
structure Own where
  /-- The client that it has taken from the map and not disconnected yet. -/
  inHand : Option ClientId := none
  /-- It has changed the map or the status, and its last status is not committed. -/
  owes : Bool := false
  transaction : List Statement := []

namespace Own

variable (own : Own)

/-- After a commit of its last status a call owes nothing more. -/
def owesAfter : RunEvent → Bool
  | ⟨.store _ _, _⟩ | ⟨.pop _, _⟩ => true
  | ⟨.commit, _⟩ =>
      match writtenStatus own.transaction with
      | none => own.owes
      | some status => status == .connecting
  | _ => own.owes

def inHandAfter : RunEvent → Option ClientId
  | ⟨.pop _, .returned client⟩ => client
  | ⟨.hasSession _, .returned false⟩ | ⟨.dropSession _, _⟩ => none
  | _ => own.inHand

def observe (event : RunEvent) : Own where
  inHand := own.inHandAfter event
  owes := own.owesAfter event
  transaction := observeTransaction own.transaction event

/-- What the operations of a call need. -/
def Permits (server : MCPServer) : Op → Prop
  | .store key _ => key = serverId server
  | .pop key => key = serverId server ∧ own.inHand = none
  | .hasSession client | .dropSession client => own.inHand = some client
  | _ => True

structure IsFree : Prop where
  inHand : own.inHand = none
  owes : own.owes = false

end Own

/-! ### Interleaved calls -/

structure Task where
  rest : Run Unit
  own : Own := {}

def Task.hasEnded (task : Task) : Bool :=
  match task.rest with
  | .perform _ _ => false
  | .ret _ | .raise _ => true

/-- The calls share the world. -/
structure Calls where
  world : World := {}
  /-- The clients whose connect has completed; they are registered in the same turn. -/
  connected : List ClientId := []
  /-- The clients whose disconnect has come to its end. -/
  disconnected : List ClientId := []
  tasks : List Task := []

inductive Move where
  | start (call : Call)
  /-- The task performs its next operation. -/
  | advance (task : Nat) (outcome : (op : Op) → Outcome effects op)

namespace Calls

variable (server : MCPServer) (s : Calls)

/-- What a move performs, for a task with this much of its own. -/
def performed : Move → Option (Own × RunEvent)
  | .start _ => none
  | .advance index outcome =>
      match s.tasks[index]? with
      | some ⟨.perform op _, own⟩ => some (own, ⟨op, outcome op⟩)
      | _ => none

def connectedAfter : RunEvent → List ClientId
  | ⟨.store _ client, _⟩ => client :: s.connected
  | _ => s.connected

def disconnectedAfter : RunEvent → List ClientId
  | ⟨.hasSession client, .returned false⟩ | ⟨.dropSession client, _⟩ => client :: s.disconnected
  | _ => s.disconnected

def perform (index : Nat) (own : Own) (event : RunEvent) (rest : Run Unit) : Calls where
  world := s.world.observe own.transaction event
  connected := s.connectedAfter event
  disconnected := s.disconnectedAfter event
  tasks := s.tasks.set index ⟨rest, own.observe event⟩

def step : Move → Calls
  | .start call => { s with tasks := s.tasks ++ [{ rest := call.program server }] }
  | .advance index outcome =>
      match s.tasks[index]? with
      | some ⟨.perform op resume, own⟩ =>
          s.perform index own ⟨op, outcome op⟩ (resume (outcome op).result)
      | _ => s

/-- Every operation succeeds. -/
def Succeeds (move : Move) : Prop :=
  ∀ performed ∈ s.performed move, View.Works ⟨s.world, performed.1.transaction⟩ performed.2

/-- A client is registered only where none is, and the last status of a call agrees with
the map when it is committed. -/
def OperationInOrder (own : Own) : Op → Prop
  | .store key _ => s.world.active.get key = none
  | .commit => server.serverType ≠ .localPlugin →
      ∀ status ∈ writtenStatus own.transaction, status ≠ .connecting →
        (status = .active ↔ (s.world.active.get (serverId server)).isSome = true)
  | _ => True

instance (own : Own) (op : Op) : Decidable (s.OperationInOrder server own op) := by
  unfold OperationInOrder
  split <;> infer_instance

def InOrder (move : Move) : Prop :=
  ∀ performed ∈ s.performed move, s.OperationInOrder server performed.1 performed.2.op

instance (move : Move) : Decidable (s.Succeeds move) :=
  inferInstanceAs (Decidable (∀ performed ∈ s.performed move,
    View.Works ⟨s.world, performed.1.transaction⟩ performed.2))

instance (move : Move) : Decidable (s.InOrder server move) :=
  inferInstanceAs (Decidable (∀ performed ∈ s.performed move,
    s.OperationInOrder server performed.1 performed.2.op))

def IsQuiescent : Prop :=
  ∀ task ∈ s.tasks, task.hasEnded = true

/-- The client is registered, or its disconnect has ended. -/
def Accounted (client : ClientId) : Prop :=
  s.world.active.get (serverId server) = some client ∨ client ∈ s.disconnected

/-- No client is lost: one that is neither registered nor disconnected is in the hands of
a disconnect. When no call is left, the status says whether a client is registered. -/
structure NoneLeaked : Prop where
  accounted : ∀ client ∈ s.connected, s.Accounted server client ∨
    ∃ task ∈ s.tasks, task.hasEnded = false ∧ task.own.inHand = some client
  settled : s.IsQuiescent → server.serverType ≠ .localPlugin →
    (s.world.rows.status = .active ↔ (s.world.active.get (serverId server)).isSome = true)

end Calls

/-! ### The discipline of one call -/

namespace LeakedClients

/-- A call that succeeds performs an operation only with what the operation needs. -/
def discipline (server : MCPServer) : Contract effects Own where
  observe := Own.observe
  assume _ event := event.outcome.exception?.isNone = true
  guarantee own event := own.Permits server event.op

variable {server : MCPServer} {own : Own}

theorem meets_perform {op : Op} {post : Except Exc op.Answer → Own → Prop}
    (permits : own.Permits server op)
    (returned : ∀ answer, post (.ok answer) (own.observe ⟨op, .returned answer⟩)) :
    (perform op).Meets (discipline server) own post := by
  apply meets_call
  intro outcome works
  cases outcome with
  | returned answer => exact ⟨permits, returned answer⟩
  | raised exc applied possible => cases works

theorem meets_writeHealth (status : String) (error : Option String) :
    (writeHealth server status error).Meets (discipline server) own fun result own' =>
      result.isOk = true ∧ own' = own := by
  apply meets_bind.mpr
  apply meets_perform (by trivial)
  intro now
  apply meets_perform (by trivial)
  exact fun _ => ⟨rfl, rfl⟩

/-- The last status of a call is committed. -/
theorem meets_finish (status : ServerStatus)
    (written : writtenStatus own.transaction = some status) (last : status ≠ .connecting)
    (free : own.inHand = none) (text : String)
    (error : Option String) :
    (do
      perform .commit
      writeHealth server text error : Run Unit).Meets (discipline server) own fun result own' =>
        result.isOk = true ∧ own'.IsFree := by
  apply meets_bind.mpr
  apply meets_perform (by trivial)
  intro _
  have free' : (own.observe ⟨.commit, .returned ()⟩).IsFree := by
    constructor
    · exact free
    · simp [Own.observe, Own.owesAfter, written, last]
  refine (meets_writeHealth text error).mono ?_
  rintro result own' ⟨ok, rfl⟩
  exact ⟨ok, free'⟩

theorem meets_recordConnected (capabilities : List (String × Value)) (free : own.inHand = none) :
    (recordConnected server capabilities).Meets (discipline server) own fun result own' =>
      result.isOk = true ∧ own'.IsFree := by
  apply meets_bind.mpr
  apply meets_perform (by trivial)
  intro now
  apply meets_bind.mpr
  apply meets_perform (by trivial)
  intro _
  apply meets_bind.mpr
  apply meets_perform (by trivial)
  intro id
  have written (connection : MCPConnection) :
      writtenStatus (own.transaction ++ [.updateStatus .active] ++ [.insert id connection]) =
        some .active := (writtenStatus_append_insert _ _ _).trans (writtenStatus_append _ _)
  exact meets_finish .active (by exact written _) (by decide) (by exact free) _ _

theorem meets_recordError (error : String) (free : own.inHand = none) :
    (recordError server error).Meets (discipline server) own fun result own' =>
      result.isOk = true ∧ own'.IsFree := by
  apply meets_bind.mpr
  apply meets_perform (by trivial)
  intro _
  have written : writtenStatus (own.transaction ++ [.updateStatus .error]) = some .error :=
    writtenStatus_append _ _
  exact meets_finish .error (by exact written) (by decide) (by exact free) _ _

theorem meets_clientConnect (client : ClientId) (endpointUrl : String) :
    (MCPClientWrapper.connect client endpointUrl).Meets (discipline server) own
      fun result own' => result.isOk = true ∧ own' = own := by
  apply meets_tryCatch.mpr
  apply meets_bind.mpr
  apply meets_perform (by trivial)
  intro _
  apply meets_bind.mpr
  apply meets_perform (by trivial)
  intro _
  apply meets_bind.mpr
  apply meets_perform (by trivial)
  intro _
  apply meets_bind.mpr
  apply meets_perform (by trivial)
  intro capabilities
  apply meets_bind.mpr
  apply meets_perform (by trivial)
  intro _
  exact ⟨rfl, rfl⟩

theorem meets_openConnection (free : own.inHand = none) (endpointUrl : String) :
    (openConnection server endpointUrl).Meets (discipline server) own fun result own' =>
      result.isOk = true ∧ own'.IsFree := by
  apply meets_bind.mpr
  apply meets_perform (by trivial)
  intro client
  apply meets_bind.mpr
  refine (meets_clientConnect client endpointUrl).mono ?_
  rintro result _ ⟨ok, rfl⟩
  cases result with
  | error exc => cases ok
  | ok capabilities =>
      apply meets_bind.mpr
      apply meets_perform (by rfl)
      intro _
      apply meets_bind.mpr
      apply meets_perform (by trivial)
      intro _
      apply meets_bind.mpr
      refine (meets_recordConnected capabilities (by exact free)).mono ?_
      rintro result own' ⟨ok, free⟩
      cases result with
      | error exc => cases ok
      | ok _ => exact ⟨rfl, free⟩

theorem meets_connect :
    (Lifecycle.connect server).Meets (discipline server) {} fun _ own => own.IsFree := by
  apply meets_bind.mpr
  apply meets_perform (by trivial)
  intro answer
  cases answer with
  | true => exact ⟨rfl, rfl⟩
  | false =>
      apply meets_bind.mpr
      apply meets_perform (by trivial)
      intro _
      apply meets_bind.mpr
      apply meets_perform (by trivial)
      intro _
      dsimp only [andThen]
      split
      · apply meets_bind.mpr
        refine (meets_recordConnected [] (by rfl)).mono ?_
        rintro result own ⟨ok, free⟩
        cases result with
        | error exc => cases ok
        | ok _ => exact free
      · split
        · apply meets_bind.mpr
          refine (meets_recordError _ (by rfl)).mono ?_
          rintro result own ⟨ok, free⟩
          cases result with
          | error exc => cases ok
          | ok _ => exact free
        · apply meets_tryCatch.mpr
          refine (meets_openConnection (by rfl) _).mono ?_
          rintro result own ⟨ok, free⟩
          cases result with
          | error exc => cases ok
          | ok _ => exact free

theorem meets_disconnectClient (client : Option ClientId) (inHand : own.inHand = client) :
    (disconnectClient client).Meets (discipline server) own fun result own' =>
      result.isOk = true ∧ own'.inHand = none ∧ own'.transaction = own.transaction := by
  cases client with
  | none => exact ⟨rfl, inHand, rfl⟩
  | some client =>
      apply meets_tryCatch.mpr
      apply meets_bind.mpr
      apply meets_perform (by exact inHand)
      intro hasSession
      cases hasSession with
      | false => exact ⟨rfl, rfl, rfl⟩
      | true =>
          apply meets_tryFinally
          apply meets_tryCatch.mpr
          apply meets_bind.mpr
          apply meets_perform (by trivial)
          intro _
          apply meets_perform (by trivial)
          intro _
          apply meets_perform (by exact inHand)
          intro _
          exact ⟨rfl, rfl, rfl⟩

theorem meets_disconnect :
    (Lifecycle.disconnect server).Meets (discipline server) {} fun _ own => own.IsFree := by
  apply meets_bind.mpr
  apply meets_perform (by exact ⟨rfl, rfl⟩)
  intro client
  apply meets_bind.mpr
  refine (meets_disconnectClient client (by rfl)).mono ?_
  rintro result own ⟨ok, free, transaction⟩
  cases result with
  | error exc => cases ok
  | ok _ =>
      apply meets_bind.mpr
      apply meets_perform (by trivial)
      intro _
      have written : writtenStatus (own.transaction ++ [.updateStatus .inactive]) =
          some .inactive := writtenStatus_append _ _
      apply meets_bind.mpr
      apply meets_perform (by trivial)
      intro connection
      cases connection with
      | none =>
          refine (meets_finish .inactive (by exact written) (by decide) (by exact free) _ _).mono ?_
          exact fun _ _ ended => ended.2
      | some id =>
          apply meets_bind.mpr
          apply meets_perform (by trivial)
          intro now
          apply meets_bind.mpr
          apply meets_perform (by trivial)
          intro _
          have written' : writtenStatus (own.transaction ++ [.updateStatus .inactive] ++
              [.setDisconnected id now]) = some .inactive :=
            (writtenStatus_append_setDisconnected _ _ _).trans written
          refine (meets_finish .inactive (by exact written') (by decide) (by exact free) _ _).mono ?_
          exact fun _ _ ended => ended.2

theorem meets_program (call : Call) :
    (call.program server).Meets (discipline server) {} fun _ own => own.IsFree := by
  cases call with
  | connect =>
      apply meets_bind.mpr
      refine meets_connect.mono ?_
      intro result own free
      cases result with
      | ok _ => exact free
      | error _ => exact free
  | disconnect => exact meets_disconnect

/-! ### Every step -/

structure Inv (server : MCPServer) (s : Calls) : Prop where
  accounted : ∀ client ∈ s.connected, s.Accounted server client ∨
    ∃ task ∈ s.tasks, task.own.inHand = some client
  settled : (∀ task ∈ s.tasks, task.own.owes = false) → server.serverType ≠ .localPlugin →
    (s.world.rows.status = .active ↔ (s.world.active.get (serverId server)).isSome = true)
  disciplined : ∀ task ∈ s.tasks,
    task.rest.Meets (discipline server) task.own fun _ own => own.IsFree

variable {s : Calls}

theorem isFree_of_hasEnded {task : Task} (ended : task.hasEnded = true)
    (disciplined : task.rest.Meets (discipline server) task.own fun _ own => own.IsFree) :
    task.own.IsFree := by
  obtain ⟨rest, own⟩ := task
  cases rest with
  | ret _ => exact disciplined
  | raise _ => exact disciplined
  | perform _ _ => cases ended

theorem Inv.noneLeaked (inv : Inv server s) : s.NoneLeaked server := by
  constructor
  · intro client member
    rcases inv.accounted client member with accounted | ⟨task, running, inHand⟩
    · exact Or.inl accounted
    · refine Or.inr ⟨task, running, ?_, inHand⟩
      by_contra ended
      have free := isFree_of_hasEnded (by simpa using ended) (inv.disciplined task running)
      rw [free.inHand] at inHand
      cases inHand
  · intro quiescent
    apply inv.settled
    intro task member
    exact (isFree_of_hasEnded (quiescent task member) (inv.disciplined task member)).owes

theorem inv_start (inv : Inv server s) (call : Call) : Inv server (s.step server (.start call)) := by
  constructor
  · intro client member
    rcases inv.accounted client member with accounted | ⟨task, running, inHand⟩
    · exact Or.inl accounted
    · exact Or.inr ⟨task, List.mem_append_left _ running, inHand⟩
  · intro free
    exact inv.settled fun task member => free task (List.mem_append_left _ member)
  · intro task member
    rcases List.mem_append.mp member with old | new
    · exact inv.disciplined task old
    · rw [List.mem_singleton.mp new]
      exact meets_program call

section Advance

variable {index : Nat} {op : Op} {answer : op.Answer} {rest : Run Unit}

/-- A client does not get lost between the map, the call and the end of its
disconnect. -/
theorem accounted_perform {client : ClientId} (permits : own.Permits server op)
    (works : View.Works ⟨s.world, own.transaction⟩ ⟨op, .returned answer⟩)
    (inOrder : s.OperationInOrder server own op)
    (before : s.Accounted server client ∨ own.inHand = some client) :
    (s.perform index own ⟨op, .returned answer⟩ rest).Accounted server client ∨
      (own.observe ⟨op, .returned answer⟩).inHand = some client := by
  cases op with
  | store key stored =>
      rcases before with (registered | disconnected) | inHand
      · have named : key = serverId server := permits
        have vacant : s.world.active.get key = none := inOrder
        rw [← named, vacant] at registered
        cases registered
      · exact Or.inl (Or.inr disconnected)
      · exact Or.inr inHand
  | pop key =>
      rcases before with (registered | disconnected) | inHand
      · have taken : answer = s.world.active.get key := works.1
        have named : key = serverId server := permits.1
        rw [named, registered] at taken
        exact Or.inr taken
      · exact Or.inl (Or.inr disconnected)
      · rw [permits.2] at inHand
        cases inHand
  | hasSession asked =>
      cases answer with
      | true => exact before
      | false =>
          rcases before with (registered | disconnected) | inHand
          · exact Or.inl (Or.inl registered)
          · exact Or.inl (Or.inr (List.mem_cons_of_mem _ disconnected))
          · have asked : own.inHand = some asked := permits
            rw [asked, Option.some.injEq] at inHand
            rw [← inHand]
            exact Or.inl (Or.inr List.mem_cons_self)
  | dropSession asked =>
      rcases before with (registered | disconnected) | inHand
      · exact Or.inl (Or.inl registered)
      · exact Or.inl (Or.inr (List.mem_cons_of_mem _ disconnected))
      · have asked : own.inHand = some asked := permits
        rw [asked, Option.some.injEq] at inHand
        rw [← inHand]
        exact Or.inl (Or.inr List.mem_cons_self)
  | _ => exact before

theorem accounted_store {client : ClientId} (permits : own.Permits server op)
    (member : client ∈ s.connectedAfter ⟨op, .returned answer⟩) :
    client ∈ s.connected ∨
      (s.perform index own ⟨op, .returned answer⟩ rest).Accounted server client := by
  cases op with
  | store key stored =>
      rcases List.mem_cons.mp member with rfl | old
      · have named : key = serverId server := permits
        refine Or.inr (Or.inl ?_)
        have found : (s.world.active.set key client).get (serverId server) = some client := by
          rw [OrderedDict.get_set, if_pos named.symm]
        exact found
      · exact Or.inl old
  | _ => exact Or.inl member

/-- A call that owes nothing has left the status as it was or has committed the one that
agrees with the map. -/
theorem settled_perform (isRemote : server.serverType ≠ .localPlugin)
    (inOrder : s.OperationInOrder server own op)
    (free : (own.observe ⟨op, .returned answer⟩).owes = false)
    (before : own.owes = false →
      (s.world.rows.status = .active ↔ (s.world.active.get (serverId server)).isSome = true)) :
    let world := (s.perform index own ⟨op, .returned answer⟩ rest).world
    world.rows.status = .active ↔ (world.active.get (serverId server)).isSome = true := by
  cases op with
  | store key stored => cases free
  | pop key => cases free
  | commit =>
      have status : (s.world.rows.commit own.transaction).status =
          (writtenStatus own.transaction).getD s.world.rows.status :=
        ServerRows.status_commit _ _
      cases written : writtenStatus own.transaction with
      | none =>
          simp only [Own.observe, Own.owesAfter, written] at free
          rw [written, Option.getD_none] at status
          have unchanged := before free
          rw [← status] at unchanged
          exact unchanged
      | some last =>
          simp only [Own.observe, Own.owesAfter, written] at free
          rw [written, Option.getD_some] at status
          have agrees := inOrder isRemote last written (by simpa using free)
          rw [← status] at agrees
          exact agrees
  | _ => exact before free

theorem mem_or_mem_set {Item : Type} {items : List Item} {old new item : Item}
    (here : items[index]? = some old) (member : item ∈ items) :
    item = old ∨ item ∈ items.set index new := by
  obtain ⟨place, at_⟩ := List.mem_iff_getElem?.mp member
  by_cases same : place = index
  · rw [same, here, Option.some.injEq] at at_
    exact Or.inl at_.symm
  · refine Or.inr (List.mem_iff_getElem?.mpr ⟨place, ?_⟩)
    rw [List.getElem?_set_ne (Ne.symm same), at_]

theorem mem_set_self {Item : Type} {items : List Item} {old new : Item}
    (here : items[index]? = some old) : new ∈ items.set index new := by
  apply List.mem_iff_getElem?.mpr
  refine ⟨index, ?_⟩
  have inside : index < items.length := (List.getElem?_eq_some_iff.mp here).1
  rw [List.getElem?_set_self inside]

theorem inv_perform {resume : Except Exc op.Answer → Run Unit} (inv : Inv server s)
    (here : s.tasks[index]? = some ⟨.perform op resume, own⟩)
    (works : View.Works ⟨s.world, own.transaction⟩ ⟨op, .returned answer⟩)
    (inOrder : s.OperationInOrder server own op) :
    Inv server (s.perform index own ⟨op, .returned answer⟩ (resume (.ok answer))) := by
  have member : ⟨.perform op resume, own⟩ ∈ s.tasks := List.mem_iff_getElem?.mpr ⟨index, here⟩
  have disciplined : own.Permits server op ∧
      (resume (.ok answer)).Meets (discipline server) (own.observe ⟨op, .returned answer⟩)
        fun _ own => own.IsFree := inv.disciplined _ member (.returned answer) rfl
  let next := s.perform index own ⟨op, .returned answer⟩ (resume (.ok answer))
  constructor
  · intro client connected
    rcases accounted_store disciplined.1 connected with old | new
    · have carried (before : s.Accounted server client ∨ own.inHand = some client) :
          next.Accounted server client ∨ ∃ task ∈ next.tasks, task.own.inHand = some client := by
        rcases accounted_perform disciplined.1 works inOrder before with accounted | inHand
        · exact Or.inl accounted
        · exact Or.inr ⟨_, mem_set_self here, inHand⟩
      rcases inv.accounted client old with accounted | ⟨task, running, inHand⟩
      · exact carried (Or.inl accounted)
      · rcases mem_or_mem_set here running with same | other
        · rw [same] at inHand
          exact carried (Or.inr inHand)
        · exact Or.inr ⟨task, other, inHand⟩
    · exact Or.inl new
  · intro free isRemote
    apply settled_perform isRemote inOrder (free _ (mem_set_self here))
    intro owes
    apply inv.settled _ isRemote
    intro task running
    rcases mem_or_mem_set here running with same | other
    · rw [same]
      exact owes
    · exact free task other
  · intro task running
    rcases List.mem_or_eq_of_mem_set running with old | new
    · exact inv.disciplined task old
    · rw [new]
      exact disciplined.2

end Advance

theorem inv_step {move : Move} (inv : Inv server s) (succeeds : s.Succeeds move)
    (inOrder : s.InOrder server move) : Inv server (s.step server move) := by
  cases move with
  | start call => exact inv_start inv call
  | advance index outcome =>
      cases here : s.tasks[index]? with
      | none =>
          have same : s.step server (.advance index outcome) = s := by
            rw [Calls.step, here]
          rw [same]
          exact inv
      | some task =>
          obtain ⟨rest, own⟩ := task
          cases rest with
          | ret value =>
              have same : s.step server (.advance index outcome) = s := by
                rw [Calls.step, here]
              rw [same]
              exact inv
          | raise exc =>
              have same : s.step server (.advance index outcome) = s := by
                rw [Calls.step, here]
              rw [same]
              exact inv
          | perform op resume =>
              have performed : s.performed (.advance index outcome) =
                  some (own, ⟨op, outcome op⟩) := by
                rw [Calls.performed, here]
              have works := succeeds _ performed
              have ordered := inOrder _ performed
              have step : s.step server (.advance index outcome) =
                  s.perform index own ⟨op, outcome op⟩ (resume (outcome op).result) := by
                rw [Calls.step, here]
              rw [step]
              cases result : outcome op with
              | returned answer =>
                  rw [result] at works
                  exact inv_perform inv here works ordered
              | raised exc applied possible =>
                  rw [result] at works
                  cases works.2

end LeakedClients

/-- In every interleaving of connects and disconnects of a server that is new, in which
nothing fails and every step is in order, no client is leaked. -/
theorem no_client_leaked (server : MCPServer) (moves : List Move)
    (succeeds : EachStep (Calls.step server) Calls.Succeeds {} moves)
    (inOrder : EachStep (Calls.step server) (Calls.InOrder server) {} moves) :
    EachState (Calls.step server) (Calls.NoneLeaked server) {} moves := by
  have initially : LeakedClients.Inv server {} := by
    constructor
    · exact fun _ absurd => by cases absurd
    · simp [OrderedDict.empty, OrderedDict.get]
    · exact fun _ absurd => by cases absurd
  have steps : EachStep (Calls.step server)
      (fun s move => s.Succeeds move ∧ s.InOrder server move) {} moves :=
    fun before move after equal =>
      ⟨succeeds before move after equal, inOrder before move after equal⟩
  have reached := steps.invariant initially fun s move inv allowed =>
    LeakedClients.inv_step inv allowed.1 allowed.2
  exact reached.mono fun s inv => inv.noneLeaked

/-- The tasks perform their operations in the given order, and nothing fails. -/
def undisturbedMoves (server : MCPServer) : Calls → List Nat → List Move
  | _, [] => []
  | s, index :: schedule =>
      let transaction := (s.tasks[index]?.map (·.own.transaction)).getD []
      let move := Move.advance index (undisturbed ⟨s.world, transaction⟩ [])
      move :: undisturbedMoves server (s.step server move) schedule

/-- The calls start together and are scheduled so. -/
def exampleMoves (calls : List Call) (schedule : List Nat) : List Move :=
  let starts := calls.map Move.start
  starts ++ undisturbedMoves exampleServer (starts.foldl (Calls.step exampleServer) {}) schedule

/-- A connect and, when it has ended, a disconnect. -/
theorem no_client_leaked_disconnected :
    EachState (Calls.step exampleServer) (Calls.NoneLeaked exampleServer) {}
      (exampleMoves [.connect, .disconnect] (List.replicate 17 0 ++ List.replicate 12 1)) :=
  no_client_leaked exampleServer _ (by decide +kernel) (by decide +kernel)

/-- Two connects find the server inactive; the second registration drops the first
client. -/
theorem client_leaked :
    ¬ ∀ (server : MCPServer) (moves : List Move),
      EachStep (Calls.step server) Calls.Succeeds {} moves →
        EachState (Calls.step server) (Calls.NoneLeaked server) {} moves := by
  intro always
  have each := always exampleServer
    (exampleMoves [.connect, .connect] ([0, 1] ++ List.replicate 16 0 ++ List.replicate 16 1))
    (by decide +kernel)
  have noneLeaked := each _ [] (List.append_nil _).symm
  have accounted := noneLeaked.accounted 0 (by decide +kernel)
  revert accounted
  simp only [Calls.Accounted]
  decide +kernel

end GrafuxMcp.Lifecycle
