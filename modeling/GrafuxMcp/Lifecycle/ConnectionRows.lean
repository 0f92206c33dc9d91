import GrafuxMcp.Lifecycle.ServerState

/-! # Connection rows and the server status

While calls of connect and disconnect follow one another and nothing fails, a row with
the status `connected` should exist exactly while the server is ACTIVE. A local plugin
has no guard against a second connect, which adds a second row. -/

namespace GrafuxMcp.Lifecycle

open GrafuxMcp Program

/-! ### Histories -/

/-- A call and its surroundings. -/
abbrev CallRun := Call × Environment effects

def callTrace (server : MCPServer) (run : CallRun) : List RunEvent :=
  (run.1.program server).trace run.2

def afterCall (server : MCPServer) (world : World) (run : CallRun) : World :=
  ((callTrace server run).foldl View.observe ⟨world, []⟩).world

def CallWorks (server : MCPServer) (world : World) (run : CallRun) : Prop :=
  EachStep View.observe View.Works ⟨world, []⟩ (callTrace server run)

instance (server : MCPServer) (world : World) (run : CallRun) :
    Decidable (CallWorks server world run) :=
  inferInstanceAs (Decidable (EachStep _ _ _ _))

/-- Never more than one row is connected during the call, and after it one is exactly
when the status is ACTIVE. -/
structure Mirrors (server : MCPServer) (world : World) (run : CallRun) : Prop where
  single : EachState View.observe (fun view => view.world.rows.connected.length ≤ 1) ⟨world, []⟩
    (callTrace server run)
  mirrored : (afterCall server world run).rows.connected ≠ [] ↔
    (afterCall server world run).rows.status = .active

namespace ConnectionRows

/-- Nothing fails, and at most `bound` rows are connected after each step. -/
def working (bound : Nat) : Contract effects View where
  observe := View.observe
  assume := View.Works
  guarantee view event := (view.observe event).world.rows.connected.length ≤ bound

variable {server : MCPServer} {bound : Nat} {view : View}

theorem meets_returned {op : Op} {post : Except Exc op.Answer → View → Prop}
    (bounded : ∀ answer,
      (view.observe ⟨op, .returned answer⟩).world.rows.connected.length ≤ bound)
    (returned : ∀ answer, view.Faithful ⟨op, .returned answer⟩ →
      post (.ok answer) (view.observe ⟨op, .returned answer⟩)) :
    (perform op).Meets (working bound) view post := by
  apply meets_call
  rintro outcome ⟨faithful, works⟩
  cases outcome with
  | returned answer => exact ⟨bounded answer, returned answer faithful⟩
  | raised exc applied possible => cases works

theorem meets_perform {op : Op} {post : Except Exc op.Answer → View → Prop}
    (bounded : view.world.rows.connected.length ≤ bound)
    (sameRows : ∀ answer, (view.observe ⟨op, .returned answer⟩).world.rows = view.world.rows)
    (returned : ∀ answer, view.Faithful ⟨op, .returned answer⟩ →
      post (.ok answer) (view.observe ⟨op, .returned answer⟩)) :
    (perform op).Meets (working bound) view post := by
  apply meets_returned _ returned
  intro answer
  rw [sameRows answer]
  exact bounded

/-! ### The parts of the calls -/

/-- The call returns, and only contexts, sessions and made clients may have changed. -/
def Passes (view : View) {α : Type} (result : Except Exc α) (view' : View) : Prop :=
  result.isOk = true ∧ view'.transaction = view.transaction ∧
    view'.world.rows = view.world.rows ∧ view'.world.active = view.world.active

theorem meets_writeHealth (bounded : view.world.rows.connected.length ≤ bound) (status : String)
    (error : Option String) :
    (writeHealth server status error).Meets (working bound) view fun result view' =>
      result.isOk = true ∧ view' = view := by
  apply meets_bind.mpr
  apply meets_perform (by exact bounded) fun _ => rfl
  intro now _
  apply meets_perform (by exact bounded) fun _ => rfl
  exact fun _ _ => ⟨rfl, rfl⟩

theorem meets_clientConnect (bounded : view.world.rows.connected.length ≤ bound)
    (client : ClientId) (endpointUrl : String) :
    (MCPClientWrapper.connect client endpointUrl).Meets (working bound) view (Passes view) := by
  apply meets_tryCatch.mpr
  apply meets_bind.mpr
  apply meets_perform (by exact bounded) fun _ => rfl
  intro _ _
  apply meets_bind.mpr
  apply meets_perform (by exact bounded) fun _ => rfl
  intro _ _
  apply meets_bind.mpr
  apply meets_perform (by exact bounded) fun _ => rfl
  intro _ _
  apply meets_bind.mpr
  apply meets_perform (by exact bounded) fun _ => rfl
  intro capabilities _
  apply meets_bind.mpr
  apply meets_perform (by exact bounded) fun _ => rfl
  intro _ _
  exact ⟨rfl, rfl, rfl, rfl⟩

theorem meets_closeContexts (bounded : view.world.rows.connected.length ≤ bound)
    (client : ClientId) :
    (MCPClientWrapper.closeContexts client).Meets (working bound) view (Passes view) := by
  apply meets_tryCatch.mpr
  apply meets_bind.mpr
  apply meets_perform (by exact bounded) fun _ => rfl
  intro _ _
  apply meets_perform (by exact bounded) fun _ => rfl
  intro _ _
  exact ⟨rfl, rfl, rfl, rfl⟩

theorem meets_disconnectClient (bounded : view.world.rows.connected.length ≤ bound)
    (client : Option ClientId) :
    (disconnectClient client).Meets (working bound) view (Passes view) := by
  cases client with
  | none => exact ⟨rfl, rfl, rfl, rfl⟩
  | some client =>
      apply meets_tryCatch.mpr
      apply meets_bind.mpr
      apply meets_perform (by exact bounded) fun _ => rfl
      intro hasSession _
      cases hasSession with
      | false => exact ⟨rfl, rfl, rfl, rfl⟩
      | true =>
          apply meets_tryFinally
          refine (meets_closeContexts bounded client).mono ?_
          rintro result view' ⟨ok, transaction, rows, active⟩
          have bounded' : view'.world.rows.connected.length ≤ bound := by
            rw [rows]
            exact bounded
          apply meets_perform (by exact bounded') fun _ => rfl
          intro _ _
          cases result with
          | ok _ => exact ⟨rfl, transaction, rows, active⟩
          | error exc => cases ok

/-- The row that a connect adds. -/
def connectionRow (server : MCPServer) (now : Moment) (capabilities : List (String × Value)) :
    MCPConnection where
  serverId := server.id
  orgId := server.orgId
  status := .connected
  connectedAt := now
  metadata := [("capabilities", .dict capabilities)]

/-- The server is ACTIVE with one more connected row. -/
def Connected (view : View) (view' : View) : Prop :=
  view'.world.active = view.world.active ∧ view'.world.rows.status = .active ∧
    ∃ row, view'.world.rows.connected = view.world.rows.connected ++ [row]

theorem connected_append {rows : ServerRows} {row : Uuid × MCPConnection}
    (connected : row.2.status = .connected) :
    (ServerRows.mk .active (rows.connections ++ [row])).connected = rows.connected ++ [row] := by
  have kept : [row].filter ServerRows.isConnected = [row] := by
    simp [ServerRows.isConnected, connected]
  rw [ServerRows.connected, List.filter_append, kept]
  rfl

theorem meets_recordConnected (bounded : view.world.rows.connected.length + 1 ≤ bound)
    (empty : view.transaction = []) (capabilities : List (String × Value)) :
    (recordConnected server capabilities).Meets (working bound) view fun result view' =>
      result.isOk = true ∧ Connected view view' := by
  have bounded' : view.world.rows.connected.length ≤ bound := by omega
  apply meets_bind.mpr
  apply meets_perform (by exact bounded') fun _ => rfl
  intro now _
  apply meets_bind.mpr
  apply meets_perform (by exact bounded') fun _ => rfl
  intro _ _
  apply meets_bind.mpr
  apply meets_perform (by exact bounded') fun _ => rfl
  intro id _
  apply meets_bind.mpr
  let row : Uuid × MCPConnection := (id, connectionRow server now capabilities)
  let transaction := view.transaction ++ [.updateStatus .active] ++ [.insert id row.2]
  have rows : view.world.rows.commit transaction =
      ⟨.active, view.world.rows.connections ++ [row]⟩ := by
    simp only [transaction, empty]
    rfl
  have connected : (view.world.rows.commit transaction).connected =
      view.world.rows.connected ++ [row] := by
    rw [rows]
    exact connected_append rfl
  have bounded'' : (view.world.rows.commit transaction).connected.length ≤ bound := by
    rw [connected, List.length_append]
    exact bounded
  apply meets_returned (by exact fun _ => bounded'')
  intro _ _
  refine (meets_writeHealth bounded'' "connected" none).mono ?_
  rintro result view' ⟨ok, rfl⟩
  refine ⟨ok, rfl, ?_, row, connected⟩
  exact congrArg ServerRows.status rows

theorem meets_recordError (bounded : view.world.rows.connected.length ≤ bound)
    (empty : view.transaction = []) (error : String) :
    (recordError server error).Meets (working bound) view fun result view' =>
      result.isOk = true ∧ view'.world.active = view.world.active ∧
        view'.world.rows = { view.world.rows with status := .error } := by
  apply meets_bind.mpr
  apply meets_perform (by exact bounded) fun _ => rfl
  intro _ _
  apply meets_bind.mpr
  have rows : view.world.rows.commit (view.transaction ++ [.updateStatus .error]) =
      { view.world.rows with status := .error } := by
    rw [empty]
    rfl
  have bounded' : (view.world.rows.commit
      (view.transaction ++ [.updateStatus .error])).connected.length ≤ bound := by
    rw [rows]
    exact bounded
  apply meets_returned (by exact fun _ => bounded')
  intro _ _
  refine (meets_writeHealth bounded' "error" (some error)).mono ?_
  rintro result view' ⟨ok, rfl⟩
  exact ⟨ok, rfl, rows⟩

/-! ### The calls -/

/-- What a connect makes of the world. -/
inductive AfterConnect (server : MCPServer) (before after : World) : Prop where
  | alreadyConnected (registered : (before.active.get (serverId server)).isSome = true)
      (active : after.active = before.active) (rows : after.rows = before.rows)
  | localPlugin (unregistered : before.active.get (serverId server) = none)
      (isLocal : server.serverType = .localPlugin) (active : after.active = before.active)
      (status : after.rows.status = .active) (row : Uuid × MCPConnection)
      (connected : after.rows.connected = before.rows.connected ++ [row])
  | noEndpoint (unregistered : before.active.get (serverId server) = none)
      (isRemote : server.serverType ≠ .localPlugin) (active : after.active = before.active)
      (status : after.rows.status = .error)
      (connected : after.rows.connected = before.rows.connected)
  | registered (unregistered : before.active.get (serverId server) = none)
      (isRemote : server.serverType ≠ .localPlugin)
      (registered : (after.active.get (serverId server)).isSome = true)
      (status : after.rows.status = .active) (row : Uuid × MCPConnection)
      (connected : after.rows.connected = before.rows.connected ++ [row])

variable {before : World}

/-- A connect that is not refused may add a row. -/
def Bounded (bound : Nat) (server : MCPServer) (world : World) : Prop :=
  world.rows.connected.length ≤ bound ∧
    (world.active.get (serverId server) = none → world.rows.connected.length + 1 ≤ bound)

theorem meets_openConnection (unregistered : before.active.get (serverId server) = none)
    (isRemote : server.serverType ≠ .localPlugin)
    (connected : view.world.rows.connected = before.rows.connected)
    (empty : view.transaction = [])
    (bounded : before.rows.connected.length + 1 ≤ bound) (endpointUrl : String) :
    (openConnection server endpointUrl).Meets (working bound) view fun result view' =>
      result.isOk = true ∧ AfterConnect server before view'.world := by
  have bounded : view.world.rows.connected.length + 1 ≤ bound := by
    rw [connected]
    exact bounded
  have bounded' : view.world.rows.connected.length ≤ bound := by omega
  apply meets_bind.mpr
  apply meets_perform (by exact bounded') fun _ => rfl
  intro client _
  apply meets_bind.mpr
  refine (meets_clientConnect (by exact bounded') client endpointUrl).mono ?_
  rintro result view₁ ⟨ok, transaction, rows, active₁⟩
  cases result with
  | error exc => cases ok
  | ok capabilities =>
      have rows : view₁.world.rows = view.world.rows := rows
      have empty : view₁.transaction = [] := transaction.trans empty
      rw [← rows] at bounded bounded' connected
      apply meets_bind.mpr
      apply meets_perform (by exact bounded') fun _ => rfl
      intro _ _
      apply meets_bind.mpr
      apply meets_perform (by exact bounded') fun _ => rfl
      intro _ _
      apply meets_bind.mpr
      let stored : View := { view₁ with
        world := { view₁.world with active := view₁.world.active.set (serverId server) client } }
      have records : (recordConnected server capabilities).Meets (working bound) stored
          fun result view' => result.isOk = true ∧ Connected stored view' :=
        meets_recordConnected (by exact bounded) (by exact empty) capabilities
      refine records.mono ?_
      rintro result view₂ ⟨ok, active₂, status, row, connected₂⟩
      cases result with
      | error exc => cases ok
      | ok _ =>
          refine ⟨rfl, .registered unregistered isRemote ?_ status row (connected₂.trans ?_)⟩
          · have found : (view₁.world.active.set (serverId server) client).get (serverId server) =
                some client := by
              rw [OrderedDict.get_set, if_pos rfl]
            have active₂ : view₂.world.active =
              view₁.world.active.set (serverId server) client := active₂
            rw [active₂, found]
            rfl
          · rw [← connected]

theorem meets_connect (bounded : Bounded bound server before) :
    (Lifecycle.connect server).Meets (working bound) ⟨before, []⟩ fun _ view =>
      AfterConnect server before view.world := by
  apply meets_bind.mpr
  apply meets_perform bounded.1 fun _ => rfl
  intro answer faithful
  have faithful : answer = (before.active.get (serverId server)).isSome := faithful
  cases answer with
  | true => exact .alreadyConnected faithful.symm rfl rfl
  | false =>
      have unregistered : before.active.get (serverId server) = none := by
        rw [← Option.not_isSome_iff_eq_none, ← faithful]
        exact Bool.false_ne_true
      have room : before.rows.connected.length + 1 ≤ bound := bounded.2 unregistered
      apply meets_bind.mpr
      apply meets_perform bounded.1 fun _ => rfl
      intro _ _
      apply meets_bind.mpr
      apply meets_returned (by exact fun _ => bounded.1)
      intro _ _
      let connecting : View := ⟨{ before with
        rows := before.rows.commit [.updateStatus .connecting] }, []⟩
      by_cases isLocal : server.serverType = .localPlugin
      · have records : (recordConnected server []).Meets (working bound) connecting _ :=
          meets_recordConnected room rfl []
        dsimp only [andThen]
        rw [if_pos isLocal]
        apply meets_bind.mpr
        refine records.mono ?_
        rintro result view ⟨ok, active, status, row, connected⟩
        cases result with
        | error exc => cases ok
        | ok _ => exact .localPlugin unregistered isLocal active status row connected
      · dsimp only [andThen]
        rw [if_neg isLocal]
        cases server.endpointUrl.filter (!·.isEmpty) with
        | none =>
            have records : (recordError server "No endpoint URL configured").Meets (working bound)
                connecting _ := meets_recordError bounded.1 rfl _
            apply meets_bind.mpr
            refine records.mono ?_
            rintro result view ⟨ok, active, rows⟩
            have connected : view.world.rows.connected = before.rows.connected := by
              rw [rows]
              rfl
            have settled : AfterConnect server before view.world :=
              .noEndpoint unregistered isLocal active (congrArg ServerRows.status rows) connected
            cases result with
            | error exc => exact settled
            | ok _ => exact settled
        | some endpointUrl =>
            have opens : (openConnection server endpointUrl).Meets (working bound) connecting _ :=
              meets_openConnection unregistered isLocal rfl rfl room endpointUrl
            apply meets_tryCatch.mpr
            refine opens.mono ?_
            rintro result view ⟨ok, settled⟩
            cases result with
            | error exc => cases ok
            | ok _ => exact settled

/-- What a disconnect makes of a world with one connected row at most. -/
structure AfterDisconnect (server : MCPServer) (before after : World) : Prop where
  active : after.active = before.active.pop (serverId server)
  status : after.rows.status = .inactive
  connected : after.rows.connected = []

theorem eq_of_single {α : Type} {items : List α} {left right : α} (single : items.length ≤ 1)
    (leftMember : left ∈ items) (rightMember : right ∈ items) : left = right := by
  cases items with
  | nil => cases leftMember
  | cons item rest =>
      have empty : rest = [] := List.length_eq_zero_iff.mp (by simpa using single)
      subst empty
      rw [List.mem_singleton.mp leftMember, List.mem_singleton.mp rightMember]

theorem connected_setDisconnected {rows : ServerRows} {id : Uuid} {disconnectedAt : Moment}
    (newest : rows.IsNewest (some id)) (single : rows.connected.length ≤ 1) :
    (rows.apply (.setDisconnected id disconnectedAt)).connected = [] := by
  obtain ⟨row, member, rfl, -⟩ := newest
  have only (other : Uuid × MCPConnection) (member' : other ∈ rows.connected) : other = row :=
    eq_of_single single member' member
  rw [ServerRows.connected, List.filter_eq_nil_iff]
  intro changed inside
  obtain ⟨other, present, rfl⟩ := List.mem_map.mp inside
  by_cases same : other.1 = row.1
  · simp [same, ServerRows.isConnected]
  · rw [if_neg same]
    intro connected
    have listed : other ∈ rows.connected := List.mem_filter.mpr ⟨present, connected⟩
    exact same (congrArg Prod.fst (only other listed))

/-- The end of a disconnect. -/
theorem meets_closed
    (connected : (view.world.rows.commit view.transaction).connected = []) :
    (do
      perform .commit
      writeHealth server "disconnected" : Run Unit).Meets (working bound) view fun _ view' =>
        view'.world.active = view.world.active ∧
          view'.world.rows = view.world.rows.commit view.transaction := by
  have bounded' : (view.world.rows.commit view.transaction).connected.length ≤ bound := by
    rw [connected]
    exact Nat.zero_le bound
  apply meets_bind.mpr
  apply meets_returned (by exact fun _ => bounded')
  intro _ _
  refine (meets_writeHealth (by exact bounded') "disconnected" none).mono ?_
  rintro result view' ⟨-, rfl⟩
  exact ⟨rfl, rfl⟩

theorem meets_disconnect (single : before.rows.connected.length ≤ 1)
    (bounded : before.rows.connected.length ≤ bound) :
    (Lifecycle.disconnect server).Meets (working bound) ⟨before, []⟩ fun _ view =>
      AfterDisconnect server before view.world := by
  apply meets_bind.mpr
  apply meets_perform bounded fun _ => rfl
  intro client _
  apply meets_bind.mpr
  refine (meets_disconnectClient (by exact bounded) client).mono ?_
  rintro result ⟨world, transaction⟩ ⟨ok, empty, rows, active⟩
  have rows : world.rows = before.rows := rows
  have empty : transaction = [] := empty
  have active : world.active = before.active.pop (serverId server) := active
  rw [← rows] at single bounded
  subst empty
  cases result with
  | error exc => cases ok
  | ok _ =>
      apply meets_bind.mpr
      apply meets_perform (by exact bounded) fun _ => rfl
      intro _ _
      apply meets_bind.mpr
      apply meets_perform (by exact bounded) fun _ => rfl
      intro connection faithful
      let inactive : ServerRows := { world.rows with status := .inactive }
      have newest : inactive.IsNewest connection := faithful
      cases connection with
      | none =>
          have closed : inactive.connected = [] := newest
          refine (meets_closed (by exact closed)).mono ?_
          rintro result view ⟨active', rows'⟩
          exact ⟨active'.trans active, congrArg ServerRows.status rows',
            (congrArg ServerRows.connected rows').trans closed⟩
      | some id =>
          apply meets_bind.mpr
          apply meets_perform (by exact bounded) fun _ => rfl
          intro now _
          apply meets_bind.mpr
          apply meets_perform (by exact bounded) fun _ => rfl
          intro _ _
          have closed : (inactive.apply (.setDisconnected id now)).connected = [] :=
            connected_setDisconnected newest single
          refine (meets_closed (by exact closed)).mono ?_
          rintro result view ⟨active', rows'⟩
          exact ⟨active'.trans active, congrArg ServerRows.status rows',
            (congrArg ServerRows.connected rows').trans closed⟩

/-! ### Histories -/

variable {after world : World} {run : CallRun}

def After (server : MCPServer) (before after : World) : Call → Prop
  | .connect => AfterConnect server before after
  | .disconnect => AfterDisconnect server before after

theorem meets_program (call : Call) (single : before.rows.connected.length ≤ 1)
    (bounded : before.rows.connected.length ≤ bound)
    (room : call = .connect → before.active.get (serverId server) = none →
      before.rows.connected.length + 1 ≤ bound) :
    (call.program server).Meets (working bound) ⟨before, []⟩ fun _ view =>
      After server before view.world call := by
  cases call with
  | connect =>
      apply meets_bind.mpr
      refine (meets_connect ⟨bounded, room rfl⟩).mono ?_
      intro result view after
      cases result with
      | ok _ => exact after
      | error _ => exact after
  | disconnect => exact meets_disconnect single bounded

theorem after_call (single : world.rows.connected.length ≤ 1) (works : CallWorks server world run) :
    After server world (afterCall server world run) run.1 :=
  ((meets_program run.1 single (Nat.le_succ _) fun _ _ => Nat.le_refl _).sound run.2 works).2

/-- While no connect adds a second row, the rows mirror the status, and so does the map
for a remote server. -/
structure Consistent (server : MCPServer) (world : World) : Prop where
  single : world.rows.connected.length ≤ 1
  mirrored : world.rows.connected ≠ [] ↔ world.rows.status = .active
  remote : server.serverType ≠ .localPlugin →
    ((world.active.get (serverId server)).isSome = true ↔ world.rows.status = .active)
  unregistered : server.serverType = .localPlugin → world.active.get (serverId server) = none

/-- No connect of a local plugin finds a connected row. -/
def Free (server : MCPServer) (world : World) (call : Call) : Prop :=
  server.serverType = .localPlugin → call = .connect → world.rows.connected = []

theorem Consistent.connected_eq_nil (holds : Consistent server world)
    (free : Free server world .connect)
    (unregistered : world.active.get (serverId server) = none) : world.rows.connected = [] := by
  by_cases isLocal : server.serverType = .localPlugin
  · exact free isLocal rfl
  · have inactive : world.rows.status ≠ .active := by
      intro active
      have registered := (holds.remote isLocal).mpr active
      rw [unregistered] at registered
      cases registered
    by_contra connected
    exact inactive (holds.mirrored.mp connected)

theorem Consistent.after_connect (holds : Consistent server before)
    (free : Free server before .connect) (connects : AfterConnect server before after) :
    Consistent server after := by
  cases connects with
  | alreadyConnected registered active rows =>
      constructor
      · rw [rows]
        exact holds.single
      · rw [rows]
        exact holds.mirrored
      · rw [rows, active]
        exact holds.remote
      · rw [active]
        exact holds.unregistered
  | localPlugin unregistered isLocal active status row connected =>
      rw [holds.connected_eq_nil free unregistered] at connected
      constructor
      · simp [connected]
      · simp [connected, status]
      · exact fun isRemote => absurd isLocal isRemote
      · rw [active]
        exact holds.unregistered
  | noEndpoint unregistered isRemote active status connected =>
      rw [holds.connected_eq_nil free unregistered] at connected
      constructor
      · simp [connected]
      · simp [connected, status]
      · intro _
        simp [active, unregistered, status]
      · exact fun isLocal => absurd isLocal isRemote
  | registered unregistered isRemote registered status row connected =>
      rw [holds.connected_eq_nil free unregistered] at connected
      constructor
      · simp [connected]
      · simp [connected, status]
      · intro _
        simp [registered, status]
      · exact fun isLocal => absurd isLocal isRemote

theorem consistent_after_disconnect (disconnects : AfterDisconnect server before after) :
    Consistent server after := by
  have gone : after.active.get (serverId server) = none := by
    rw [disconnects.active]
    exact OrderedDict.get_pop_self
  constructor
  · simp [disconnects.connected]
  · simp [disconnects.connected, disconnects.status]
  · intro _
    simp [gone, disconnects.status]
  · exact fun _ => gone

theorem Consistent.after_call (holds : Consistent server world) (free : Free server world run.1)
    (works : CallWorks server world run) :
    Consistent server (afterCall server world run) := by
  have after := ConnectionRows.after_call holds.single works
  cases call : run.1 with
  | connect =>
      rw [call] at after free
      exact holds.after_connect free after
  | disconnect =>
      rw [call] at after
      exact consistent_after_disconnect after

theorem Consistent.mirrors (holds : Consistent server world) (free : Free server world run.1)
    (works : CallWorks server world run) : Mirrors server world run := by
  have room : run.1 = .connect → world.active.get (serverId server) = none →
      world.rows.connected.length + 1 ≤ 1 := by
    intro connects unregistered
    rw [connects] at free
    simp [holds.connected_eq_nil free unregistered]
  have steps := ((meets_program run.1 holds.single holds.single room).sound run.2 works).1
  constructor
  · exact steps.invariant holds.single fun _ _ _ bounded => bounded
  · exact (holds.after_call free works).mirrored

theorem single_after (mirrors : Mirrors server world run) :
    (afterCall server world run).rows.connected.length ≤ 1 :=
  mirrors.single _ [] (List.append_nil _).symm

/-- The calls do not connect twice in a row. -/
def Alternates (calls : List Call) : Prop :=
  calls.IsChain fun first second => first = .connect → second = .disconnect

theorem mirrors_of_alternates {history : List CallRun} (holds : Consistent server world)
    (free : ∀ run ∈ history.head?, Free server world run.1)
    (works : EachStep (afterCall server) (CallWorks server) world history)
    (alternates : server.serverType = .localPlugin → Alternates (history.map Prod.fst)) :
    EachStep (afterCall server) (Mirrors server) world history := by
  induction history generalizing world with
  | nil => exact eachStep_nil _
  | cons run rest induction =>
      obtain ⟨runWorks, restWorks⟩ := (eachStep_cons _ _).mp works
      have runFree : Free server world run.1 := free run rfl
      have after := ConnectionRows.after_call holds.single runWorks
      refine (eachStep_cons _ _).mpr ⟨holds.mirrors runFree runWorks, ?_⟩
      apply induction (holds.after_call runFree runWorks)
      · intro next isNext isLocal connects
        cases rest with
        | nil => cases isNext
        | cons other rest =>
            cases isNext
            cases call : run.1 with
            | connect =>
                have chain := (List.isChain_cons_cons.mp (alternates isLocal)).1 call
                rw [connects] at chain
                cases chain
            | disconnect =>
                rw [call] at after
                exact after.connected
      · exact restWorks
      · intro isLocal
        exact (alternates isLocal).of_cons

/-- A connect of a local plugin adds a row whatever the status is. -/
theorem AfterConnect.adds_row (connects : AfterConnect server before after)
    (isLocal : server.serverType = .localPlugin)
    (unregistered : before.active.get (serverId server) = none) :
    after.active = before.active ∧
      after.rows.connected.length = before.rows.connected.length + 1 := by
  cases connects with
  | alreadyConnected registered =>
      rw [unregistered] at registered
      cases registered
  | localPlugin _ _ active _ row connected => exact ⟨active, by simp [connected]⟩
  | noEndpoint _ isRemote => exact absurd isLocal isRemote
  | registered _ isRemote => exact absurd isLocal isRemote

theorem alternates_of_mirrors {history : List CallRun} (isLocal : server.serverType = .localPlugin)
    (single : world.rows.connected.length ≤ 1)
    (unregistered : world.active.get (serverId server) = none)
    (works : EachStep (afterCall server) (CallWorks server) world history)
    (mirrors : EachStep (afterCall server) (Mirrors server) world history) :
    Alternates (history.map Prod.fst) := by
  induction history generalizing world with
  | nil => exact .nil
  | cons run rest induction =>
      obtain ⟨runWorks, restWorks⟩ := (eachStep_cons _ _).mp works
      obtain ⟨runMirrors, restMirrors⟩ := (eachStep_cons _ _).mp mirrors
      have after := after_call single runWorks
      have single' := single_after runMirrors
      have unregistered' : (afterCall server world run).active.get (serverId server) = none := by
        cases call : run.1 with
        | connect =>
            rw [call] at after
            rw [(after.adds_row isLocal unregistered).1, unregistered]
        | disconnect =>
            rw [call] at after
            rw [after.active]
            exact OrderedDict.get_pop_self
      have chain := induction single' unregistered' restWorks restMirrors
      cases rest with
      | nil => exact .singleton _
      | cons next rest =>
          refine List.isChain_cons_cons.mpr ⟨?_, chain⟩
          intro connects
          have nextWorks := ((eachStep_cons _ _).mp restWorks).1
          have nextMirrors := ((eachStep_cons _ _).mp restMirrors).1
          have afterNext := after_call single' nextWorks
          cases call : next.1 with
          | disconnect => rfl
          | connect =>
              rw [connects] at after
              rw [call] at afterNext
              have first := (after.adds_row isLocal unregistered).2
              have second := (afterNext.adds_row isLocal unregistered').2
              have single := single_after nextMirrors
              omega

end ConnectionRows

/-- The rows of a server that is new mirror its status if and only if no connect of a
local plugin follows another. -/
theorem rows_mirror_status_iff (server : MCPServer) (history : List CallRun)
    (works : EachStep (afterCall server) (CallWorks server) {} history) :
    EachStep (afterCall server) (Mirrors server) {} history ↔
      (server.serverType = .localPlugin →
        ConnectionRows.Alternates (history.map Prod.fst)) := by
  constructor
  · intro mirrors isLocal
    exact ConnectionRows.alternates_of_mirrors isLocal (by exact Nat.zero_le 1) rfl works mirrors
  · intro alternates
    have initially : ConnectionRows.Consistent server {} := by
      constructor
      · exact Nat.zero_le 1
      · simp [ServerRows.connected]
      · intro _
        simp [OrderedDict.empty, OrderedDict.get]
      · exact fun _ => rfl
    exact ConnectionRows.mirrors_of_alternates initially (fun _ _ _ _ => rfl) works alternates

/-- The calls one after another, each in surroundings in which nothing fails. -/
def undisturbedCalls (server : MCPServer) : World → List Call → List CallRun
  | _, [] => []
  | world, call :: calls =>
      let run := (call, undisturbed ⟨world, []⟩)
      run :: undisturbedCalls server (afterCall server world run) calls

def examplePlugin : MCPServer :=
  { exampleServer with serverType := .localPlugin, endpointUrl := none }

theorem rows_mirror_status_reconnected :
    EachStep (afterCall examplePlugin) (Mirrors examplePlugin) {}
      (undisturbedCalls examplePlugin {} [.connect, .disconnect, .connect]) :=
  (rows_mirror_status_iff examplePlugin _ (by decide)).mpr fun _ =>
    .cons_cons (fun _ => rfl) (.cons_cons (fun absurd => by cases absurd) (.singleton _))

/-- A second connect of a local plugin adds a second row. -/
theorem local_plugin_connected_twice :
    ¬ ∀ (server : MCPServer) (history : List CallRun),
      EachStep (afterCall server) (CallWorks server) {} history →
        EachStep (afterCall server) (Mirrors server) {} history := by
  intro always
  have works : EachStep (afterCall examplePlugin) (CallWorks examplePlugin) {}
      (undisturbedCalls examplePlugin {} [.connect, .connect]) := by decide
  have mirrors := always examplePlugin _ works
  have alternates := ConnectionRows.alternates_of_mirrors rfl (by exact Nat.zero_le 1) rfl works
    mirrors
  have disconnects := (List.isChain_cons_cons.mp alternates).1 rfl
  cases disconnects

end GrafuxMcp.Lifecycle
