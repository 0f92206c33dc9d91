import GrafuxMcp.Lifecycle.ServerManager

/-! # The state behind the server manager

What the operations of a call read and change: the map of active connections, the rows
of the server, the contexts that are open and the clients that keep a session. The
statements of a transaction take effect when it is committed. -/

namespace GrafuxMcp.Lifecycle

open GrafuxMcp

/-! ### Rows -/

inductive Statement where
  | updateStatus (status : ServerStatus)
  | insert (id : Uuid) (connection : MCPConnection)
  | setDisconnected (id : Uuid) (disconnectedAt : Moment)

/-- The row of one server, and the rows of its connections with their ids. -/
structure ServerRows where
  status : ServerStatus := .inactive
  connections : List (Uuid × MCPConnection) := []

namespace ServerRows

variable (rows : ServerRows)

def apply : Statement → ServerRows
  | .updateStatus status => { rows with status := status }
  | .insert id connection => { rows with connections := rows.connections ++ [(id, connection)] }
  | .setDisconnected id disconnectedAt =>
      { rows with
        connections := rows.connections.map fun row =>
          if row.1 = id then
            (id, { row.2 with status := .disconnected, disconnectedAt := some disconnectedAt })
          else row }

def commit (transaction : List Statement) : ServerRows :=
  transaction.foldl apply rows

def isConnected (row : Uuid × MCPConnection) : Bool :=
  row.2.status == .connected

/-- The rows with the status `connected`. -/
def connected : List (Uuid × MCPConnection) :=
  rows.connections.filter isConnected

/-- A query for the newest connected row may answer so. Of rows of one moment it may
answer any. -/
def IsNewest : Option Uuid → Prop
  | none => rows.connected = []
  | some id => ∃ row ∈ rows.connected, row.1 = id ∧
      ∀ other ∈ rows.connected, other.2.connectedAt.instant ≤ row.2.connectedAt.instant

instance (answer : Option Uuid) : Decidable (rows.IsNewest answer) :=
  match answer with
  | none => decidable_of_iff (rows.connected.isEmpty = true) List.isEmpty_iff
  | some id => inferInstanceAs (Decidable (∃ row ∈ rows.connected, row.1 = id ∧
      ∀ other ∈ rows.connected, other.2.connectedAt.instant ≤ row.2.connectedAt.instant))

end ServerRows

/-- The status that a transaction writes. -/
def writtenStatus (transaction : List Statement) : Option ServerStatus :=
  transaction.foldl (fun status statement =>
    match statement with
    | .updateStatus written => some written
    | _ => status) none

theorem writtenStatus_append (transaction : List Statement) (status : ServerStatus) :
    writtenStatus (transaction ++ [.updateStatus status]) = some status := by
  rw [writtenStatus, List.foldl_append]
  rfl

theorem writtenStatus_append_insert (transaction : List Statement) (id : Uuid)
    (connection : MCPConnection) :
    writtenStatus (transaction ++ [.insert id connection]) = writtenStatus transaction := by
  rw [writtenStatus, List.foldl_append]
  rfl

theorem writtenStatus_append_setDisconnected (transaction : List Statement) (id : Uuid)
    (disconnectedAt : Moment) :
    writtenStatus (transaction ++ [.setDisconnected id disconnectedAt]) =
      writtenStatus transaction := by
  rw [writtenStatus, List.foldl_append]
  rfl

theorem status_foldl_apply (rows : ServerRows) (transaction : List Statement)
    (written : Option ServerStatus) (same : rows.status = written.getD status) :
    (transaction.foldl ServerRows.apply rows).status =
      (transaction.foldl (fun status statement =>
        match statement with
        | .updateStatus written => some written
        | _ => status) written).getD status := by
  induction transaction generalizing rows written with
  | nil => exact same
  | cons statement transaction induction =>
      rw [List.foldl_cons, List.foldl_cons]
      cases statement with
      | updateStatus next => exact induction _ (some next) rfl
      | insert id connection => exact induction _ written same
      | setDisconnected id disconnectedAt => exact induction _ written same

theorem ServerRows.status_commit (rows : ServerRows) (transaction : List Statement) :
    (rows.commit transaction).status = (writtenStatus transaction).getD rows.status :=
  status_foldl_apply rows transaction none rfl

/-! ### Calls -/

structure World where
  /-- `_active_connections` -/
  active : OrderedDict Text ClientId := .empty
  rows : ServerRows := {}
  /-- The clients that were ever made. -/
  clients : List ClientId := []
  contexts : List (ClientId × Context) := []
  /-- The clients whose `_session` is set. -/
  sessions : List ClientId := []

/-- The statements that are staged after an operation. A transaction is over with its
commit, whether that has taken effect or not. -/
def observeTransaction (transaction : List Statement) : RunEvent → List Statement
  | ⟨.updateStatus _ status, outcome⟩ =>
      if outcome.applied then transaction ++ [.updateStatus status] else transaction
  | ⟨.add connection, .returned id⟩ => transaction ++ [.insert id connection]
  | ⟨.setDisconnected id disconnectedAt, _⟩ => transaction ++ [.setDisconnected id disconnectedAt]
  | ⟨.commit, _⟩ => []
  | _ => transaction

/-- What an operation of a call with these staged statements changes. An `__aenter__`
that raises leaves nothing open. -/
def World.observe (world : World) (transaction : List Statement) : RunEvent → World
  | ⟨.store serverId client, _⟩ => { world with active := world.active.set serverId client }
  | ⟨.pop serverId, _⟩ => { world with active := world.active.pop serverId }
  | ⟨.commit, outcome⟩ =>
      if outcome.applied then { world with rows := world.rows.commit transaction } else world
  | ⟨.newClient _ _, .returned client⟩ => { world with clients := client :: world.clients }
  | ⟨.enter client context, .returned _⟩ =>
      { world with contexts := (client, context) :: world.contexts }
  | ⟨.leave client context, outcome⟩ =>
      if outcome.applied then
        { world with contexts := world.contexts.filter (· != (client, context)) }
      else world
  | ⟨.keepSession client, _⟩ => { world with sessions := client :: world.sessions }
  | ⟨.dropSession client, _⟩ => { world with sessions := world.sessions.filter (· != client) }
  | _ => world

/-- The world as a call with its own database session sees it. -/
structure View where
  world : World
  transaction : List Statement := []

namespace View

variable (view : View)

def observe (event : RunEvent) : View where
  world := view.world.observe view.transaction event
  transaction := observeTransaction view.transaction event

/-- The answers agree with the world. -/
def Faithful : RunEvent → Prop
  | ⟨.contains serverId, .returned answer⟩ => answer = (view.world.active.get serverId).isSome
  | ⟨.pop serverId, .returned client⟩ => client = view.world.active.get serverId
  | ⟨.selectConnected _, .returned id⟩ =>
      (view.world.rows.commit view.transaction).IsNewest id
  | ⟨.add _, .returned id⟩ => id ∉ view.world.rows.connections.map Prod.fst
  | ⟨.newClient _ _, .returned client⟩ => client ∉ view.world.clients
  | ⟨.hasSession client, .returned answer⟩ => answer = view.world.sessions.contains client
  | _ => True

instance (event : RunEvent) : Decidable (view.Faithful event) := by
  unfold Faithful
  split <;> infer_instance

/-- The operation succeeds. -/
def Works (event : RunEvent) : Prop :=
  view.Faithful event ∧ event.outcome.exception?.isNone = true

instance (event : RunEvent) : Decidable (view.Works event) :=
  inferInstanceAs (Decidable (_ ∧ _))

end View

/-! ### An example -/

/-- The ids of the first rows. -/
def exampleRowId (count : Nat) : Uuid :=
  [Uuid.zero, ⟨List.replicate 32 '1', rfl, rfl⟩].getD count ⟨List.replicate 32 '2', rfl, rfl⟩

/-- Surroundings in which nothing fails, as the call finds and changes them. -/
def undisturbed (view : View) : Environment effects := fun history op =>
  let view := history.foldl View.observe view
  match op with
  | .contains serverId => .returned (view.world.active.get serverId).isSome
  | .pop serverId => .returned (view.world.active.get serverId)
  | .now => .returned ⟨0, ""⟩
  | .selectConnected _ =>
      .returned ((view.world.rows.commit view.transaction).connected.getLast?.map Prod.fst)
  | .add _ => .returned (exampleRowId view.world.rows.connections.length)
  | .newClient _ _ => .returned view.world.clients.length
  | .hasSession client => .returned (view.world.sessions.contains client)
  | .initializeSession _ | .probe _ => .returned []
  | .store _ _ | .updateStatus _ _ | .setDisconnected _ _ | .commit | .importSdk | .enter _ _
  | .keepSession _ | .leave _ _ | .dropSession _ | .cacheSet _ _ _ => .returned ()

/-- The same, except that a call at `place` raises `exc` where it may, and takes no
effect. -/
def raisingAt (place : Op → Bool) (exc : Exc) (environment : Environment effects) :
    Environment effects := fun history op =>
  if raises : place op = true ∧ op.mayRaise exc = true then .raised exc false raises.2
  else environment history op

end GrafuxMcp.Lifecycle
