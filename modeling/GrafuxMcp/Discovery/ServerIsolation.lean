import GrafuxMcp.Discovery.UpsertTools

/-! # Isolated servers

A failure of one server should not be felt by the others. The session is not rolled back
in the `except` of the loop, so a rejected statement rejects all later ones. -/

namespace GrafuxMcp.DiscoveryService

open GrafuxMcp Program

/-! ### The property -/

/-- The rows of one server. -/
def World.rowsOf (world : World) (serverId : Uuid) : List ToolRow :=
  world.committed.rows.filter fun row => row.serverId = serverId

/-- For this server the two ends are the same. -/
structure AgreeOn (serverId : Uuid) (left right : World) : Prop where
  rows : left.rowsOf serverId = right.rowsOf serverId
  capabilities : left.cache (MCPKeys.serverCapabilities serverId.str) =
    right.cache (MCPKeys.serverCapabilities serverId.str)

/-- No transaction is open. -/
def World.IsFresh (world : World) : Prop :=
  world.staged = none ∧ world.aborted = false

section Property

variable (surroundings : Surroundings) (servers : List MCPServer)

/-- A run of a program on the session. -/
def IsRun {α : Type} (program : Discovery α) (environment : Environment effects)
    (before : World) : Prop :=
  EachStep (World.observe surroundings) (fun world => world.Fits surroundings servers) before
    (program.trace environment)

/-- The world after a run. -/
def after {α : Type} (program : Discovery α) (environment : Environment effects)
    (before : World) : World :=
  (program.trace environment).foldl (World.observe surroundings) before

/-- From every table and cache `discover` returns, and each server that succeeds when it
is discovered alone ends as if it had been discovered alone. -/
def Isolates : Prop :=
  ∀ orgId (before : World) environment, before.IsFresh →
    IsRun surroundings servers (discover orgId none) environment before →
      ((discover orgId none).result environment).toOption.isSome = true ∧
        ∀ server ∈ servers, ∀ alone,
          IsRun surroundings servers (discoverServer server) alone before →
            ((discoverServer server).result alone).toOption.isSome = true →
              AgreeOn server.id (after surroundings (discover orgId none) environment before)
                (after surroundings (discoverServer server) alone before)

end Property

/-! ### The condition -/

namespace Surroundings

variable (surroundings : Surroundings)

/-- These tools come to the two statements. -/
def Upserts (server : MCPServer) (tools : List DiscoveredTool) : Prop :=
  server.serverType ≠ .localPlugin ∧ tools ≠ [] ∧
    ∃ client, surroundings.client server.id.str = some client ∧
      surroundings.listing client = some tools

/-- One of the statements is rejected. -/
def Rejects (server : MCPServer) (tools : List DiscoveredTool) : Prop :=
  surroundings.rejectsUpdate server.id = true ∨ surroundings.rejectsInsert server.id = true ∨
    ¬ (tools.map DiscoveredTool.name).Nodup

/-- The server leaves the transaction aborted. -/
def Aborts (server : MCPServer) : Prop :=
  ∃ tools, surroundings.Upserts server tools ∧ surroundings.Rejects server tools

/-- The server has tools to store, and alone it stores them. -/
def Stores (server : MCPServer) : Prop :=
  ∃ tools, surroundings.Upserts server tools ∧ ¬ surroundings.Rejects server tools ∧
    surroundings.refuses (MCPKeys.serverCapabilities server.id.str) = false

end Surroundings

/-! ### One server -/

section Server

variable {surroundings : Surroundings} {world : World} {server : MCPServer}
  {tools : List DiscoveredTool}

/-- The capabilities of a server are stored, if at all. -/
def World.keep (world : World) (serverId : Text) : Option Value → World
  | none => world
  | some value =>
      { world with
        cache := Function.update world.cache (MCPKeys.serverCapabilities serverId) (some value) }

/-- Storing does the same in every world. -/
theorem World.store_eq (surroundings : Surroundings) (serverId : Text) (tools : List String) :
    ∃ stored value, (∀ world : World,
        world.store surroundings serverId tools = (world.keep serverId stored, value)) ∧
      value.isSome = !surroundings.refuses (MCPKeys.serverCapabilities serverId) ∧
      stored.isSome = !surroundings.refuses (MCPKeys.serverCapabilities serverId) := by
  cases refused : surroundings.refuses (MCPKeys.serverCapabilities serverId) with
  | true =>
      refine ⟨none, none, ?_, rfl, rfl⟩
      intro world
      rw [World.store, refused, if_pos rfl]
      rfl
  | false =>
      refine ⟨some (capabilities serverId tools), some (), ?_, rfl, rfl⟩
      intro world
      rw [World.store, refused]
      rfl

section Remote

variable {client : ClientId} (remote : server.serverType ≠ .localPlugin)
  (found : surroundings.client server.id.str = some client)
include remote found

theorem World.serve_of_listing_none (listed : surroundings.listing client = none) :
    world.serve surroundings server = (world, none) := by
  rw [World.serve, if_neg remote, found]
  dsimp only
  rw [listed]

variable (listed : surroundings.listing client = some tools) {next : World}
include listed

theorem World.serve_of_upsert_none
    (raises : world.upsert surroundings server.id server.orgId tools = (next, none)) :
    world.serve surroundings server = (next, none) := by
  rw [World.serve, if_neg remote, found]
  dsimp only
  rw [listed]
  dsimp only
  rw [raises]

theorem World.serve_of_upsert_some {count : Nat}
    (returns : world.upsert surroundings server.id server.orgId tools = (next, some count)) :
    world.serve surroundings server =
      ((next.store surroundings server.id.str (tools.map DiscoveredTool.name)).1,
        (next.store surroundings server.id.str (tools.map DiscoveredTool.name)).2.map
          fun _ => count) := by
  rw [World.serve, if_neg remote, found]
  dsimp only
  rw [listed]
  dsimp only
  rw [returns]

end Remote

/-- Without statements a server does the same in every world. -/
theorem World.serve_of_not_upserts (no : ∀ tools, ¬ surroundings.Upserts server tools) :
    ∃ stored value, ∀ world : World,
      world.serve surroundings server = (world.keep server.id.str stored, value) := by
  by_cases isLocal : server.serverType = .localPlugin
  · rcases World.store_eq surroundings server.id.str surroundings.localTools with
      ⟨stored, value, same, _⟩
    refine ⟨stored, value.map fun _ => surroundings.localTools.length, ?_⟩
    intro world
    rw [World.serve, if_pos isLocal, same world]
  · cases found : surroundings.client server.id.str with
    | none =>
        refine ⟨none, some 0, ?_⟩
        intro world
        rw [World.serve, if_neg isLocal, found]
        rfl
    | some client =>
        cases listed : surroundings.listing client with
        | none =>
            exact ⟨none, none, fun world => World.serve_of_listing_none isLocal found listed⟩
        | some tools =>
            have empty : tools = [] := by
              by_contra filled
              exact no tools ⟨isLocal, filled, client, found, listed⟩
            rcases World.store_eq surroundings server.id.str (tools.map DiscoveredTool.name) with
              ⟨stored, value, same, _⟩
            refine ⟨stored, value.map fun _ => 0, ?_⟩
            intro world
            have returns : world.upsert surroundings server.id server.orgId tools =
                (world, some 0) := by
              rw [empty]
              rfl
            rw [World.serve_of_upsert_some isLocal found listed returns, same world]

/-- A rejected statement ends the call and aborts the transaction. -/
theorem World.serve_rejected (upserts : surroundings.Upserts server tools)
    (rejected : world.aborted = true ∨ surroundings.Rejects server tools) :
    ∃ staged, world.serve surroundings server =
      ({ world with staged := staged, aborted := true }, none) := by
  have stops : ∃ staged, world.upsert surroundings server.id server.orgId tools =
      ({ world with staged := staged, aborted := true }, none) := by
    have filled : ¬ tools.isEmpty = true := fun empty => upserts.2.1 (List.isEmpty_iff.mp empty)
    rw [World.upsert, if_neg filled]
    by_cases update : (world.aborted || surroundings.rejectsUpdate server.id) = true
    · rw [if_pos update]
      exact ⟨world.staged, rfl⟩
    · rw [if_neg update]
      refine ⟨some (world.tools.markMissing server.id (tools.map DiscoveredTool.name)
        surroundings.now), ?_⟩
      unfold World.insert
      split
      case h_1 accepted inserted =>
        rw [Bool.or_eq_true, not_or] at update
        rcases rejected with aborted | update' | insert | repeated
        · exact absurd aborted update.1
        · exact absurd update' update.2
        · rw [accepted] at insert
          cases insert
        · unfold World.inserted ToolTable.insertTools at inserted
          rw [dif_neg repeated] at inserted
          cases inserted
      case h_2 => rfl
  rcases stops with ⟨staged, stops⟩
  rcases upserts with ⟨remote, _, client, found, listed⟩
  exact ⟨staged, World.serve_of_upsert_none remote found listed stops⟩

/-- Accepted statements are committed. -/
theorem World.serve_accepted (upserts : surroundings.Upserts server tools)
    (accepted : ¬ surroundings.Rejects server tools) :
    ∃ stored value, (∀ world : World, world.aborted = false → ∃ table : ToolTable,
        table.rows = upsertedRows server.id server.orgId tools surroundings.now
          (surroundings.newId server.id) world.tools.rows ∧
        world.serve surroundings server =
          (World.keep { world with committed := table, staged := none } server.id.str stored,
            value)) ∧
      value.isSome = !surroundings.refuses (MCPKeys.serverCapabilities server.id.str) ∧
      stored.isSome = !surroundings.refuses (MCPKeys.serverCapabilities server.id.str) := by
  simp only [Surroundings.Rejects, not_or, not_not] at accepted
  rcases accepted with ⟨update, insert, distinct⟩
  have filled : ¬ tools.isEmpty = true := fun empty => upserts.2.1 (List.isEmpty_iff.mp empty)
  rcases World.store_eq surroundings server.id.str (tools.map DiscoveredTool.name) with
    ⟨stored, value, same, returns, keeps⟩
  refine ⟨stored, value.map fun _ => tools.length, ?_, by rw [Option.isSome_map, returns], keeps⟩
  intro world opened
  have open' : ¬ (world.aborted || surroundings.rejectsUpdate server.id) = true := by
    rw [opened, Bool.false_or]
    exact update
  have inserted : ∃ table, (world.marked surroundings server.id tools).inserted surroundings
      server.id server.orgId tools = some table := by
    unfold World.inserted ToolTable.insertTools
    rw [dif_pos distinct]
    exact ⟨_, rfl⟩
  rcases inserted with ⟨table, inserted⟩
  refine ⟨table, ?_, ?_⟩
  · unfold World.inserted ToolTable.insertTools at inserted
    rw [dif_pos distinct] at inserted
    rw [← Option.some.inj inserted]
    rfl
  · have returns : world.upsert surroundings server.id server.orgId tools =
        ({ world with committed := table, staged := none }, some tools.length) := by
      rw [World.upsert, if_neg filled, if_neg open', World.insert, inserted,
        eq_false_of_ne_true insert]
      rfl
    rcases upserts with ⟨remote, _, client, found, listed⟩
    rw [World.serve_of_upsert_some remote found listed returns, same]

/-! ### What one server changes -/

@[simp]
theorem World.rowsOf_keep (stored : Option Value) (serverId : Text) (other : Uuid) :
    (world.keep serverId stored).rowsOf other = world.rowsOf other := by
  cases stored <;> rfl

@[simp]
theorem World.aborted_keep (stored : Option Value) (serverId : Text) :
    (world.keep serverId stored).aborted = world.aborted := by
  cases stored <;> rfl

@[simp]
theorem World.staged_keep (stored : Option Value) (serverId : Text) :
    (world.keep serverId stored).staged = world.staged := by
  cases stored <;> rfl

theorem serverCapabilities_ne {left right : Uuid} (apart : left ≠ right) :
    MCPKeys.serverCapabilities left.str ≠ MCPKeys.serverCapabilities right.str :=
  fun same => apart (Uuid.str_injective (List.append_cancel_left same))

theorem AgreeOn.keep {serverId : Uuid} {left right : World} (agree : AgreeOn serverId left right)
    (stored : Option Value) :
    AgreeOn serverId (left.keep serverId.str stored) (right.keep serverId.str stored) := by
  cases stored with
  | none => exact agree
  | some value =>
      refine ⟨agree.rows, ?_⟩
      simp [World.keep]

theorem agreeOn_keep {serverId other : Uuid} (apart : other ≠ serverId) (world : World)
    (stored : Option Value) : AgreeOn other (world.keep serverId.str stored) world := by
  cases stored with
  | none => exact ⟨rfl, rfl⟩
  | some value =>
      exact ⟨rfl, Function.update_of_ne (serverCapabilities_ne apart) _ _⟩

theorem AgreeOn.trans {serverId : Uuid} {left middle right : World}
    (first : AgreeOn serverId left middle) (second : AgreeOn serverId middle right) :
    AgreeOn serverId left right :=
  ⟨first.rows.trans second.rows, first.capabilities.trans second.capabilities⟩

/-- A transaction that is not aborted has no open statements. -/
def World.IsSettled (world : World) : Prop :=
  world.aborted = false → world.staged = none

theorem World.tools_eq_committed (settled : world.IsSettled) (opened : world.aborted = false) :
    world.tools = world.committed := by
  rw [World.tools, settled opened]
  rfl

/-- The statements about one server touch no other. -/
theorem filter_upsertedRows_other {serverId orgId other : Uuid} (apart : other ≠ serverId)
    (now : Nat) (newId : String → Uuid) (rows : List ToolRow) :
    (upsertedRows serverId orgId tools now newId rows).filter (fun row => row.serverId = other) =
      rows.filter fun row => row.serverId = other := by
  have split : ∀ rows : List ToolRow, (rows.filter fun row => row.serverId = other) =
      (rows.filter fun row => row.serverId ≠ serverId).filter fun row => row.serverId = other := by
    intro rows
    rw [List.filter_filter]
    apply List.filter_congr
    intro row _
    by_cases same : row.serverId = other
    · simp [same, apart]
    · simp [same]
  rw [split, filter_upsertedRows, ← split]

/-- The rows of the server depend on its rows alone. -/
theorem filter_upsertedRows_own (serverId orgId : Uuid) (now : Nat) (newId : String → Uuid)
    (rows : List ToolRow) :
    (upsertedRows serverId orgId tools now newId rows).filter
        (fun row => row.serverId = serverId) =
      upsertedRows serverId orgId tools now newId
        (rows.filter fun row => row.serverId = serverId) := by
  have within : ∀ row ∈ newRows serverId orgId tools now newId,
      decide (row.key.1 = serverId) = true := by
    intro row member
    rcases mem_newRows member with ⟨tool, _, built⟩
    rw [built]
    exact decide_eq_true rfl
  calc (upsertedRows serverId orgId tools now newId rows).filter
        (fun row => row.serverId = serverId)
      = upsertRows ToolRow.key takeExcluded (newRows serverId orgId tools now newId)
          ((updateWhere (isMissing serverId (tools.map DiscoveredTool.name)) (setUnavailable now)
            rows).filter fun row => row.serverId = serverId) :=
        filter_upsertRows key_takeExcluded (fun key => decide (key.1 = serverId)) within
    _ = upsertedRows serverId orgId tools now newId
          (rows.filter fun row => row.serverId = serverId) := by
        rw [upsertedRows]
        congr 1
        exact filter_updateWhere fun _ => rfl

theorem Surroundings.Upserts.unique {others : List DiscoveredTool}
    (first : surroundings.Upserts server tools) (second : surroundings.Upserts server others) :
    tools = others := by
  rcases first with ⟨_, _, client, found, listed⟩
  rcases second with ⟨_, _, other, found', listed'⟩
  rw [found] at found'
  rw [← Option.some.inj found', listed] at listed'
  exact Option.some.inj listed'

variable (surroundings) in
/-- What another server has stays, and the session is settled again. -/
theorem World.serve_other (settled : world.IsSettled) (server : MCPServer) :
    (world.serve surroundings server).1.IsSettled ∧
      ((world.serve surroundings server).1.aborted = true ↔
        world.aborted = true ∨ surroundings.Aborts server) ∧
      ∀ other ≠ server.id, AgreeOn other (world.serve surroundings server).1 world := by
  by_cases upserts : ∃ tools, surroundings.Upserts server tools
  · rcases upserts with ⟨tools, upserts⟩
    have only : surroundings.Aborts server ↔ surroundings.Rejects server tools := by
      constructor
      · rintro ⟨others, comes, rejects⟩
        rw [upserts.unique comes]
        exact rejects
      · exact fun rejects => ⟨tools, upserts, rejects⟩
    rw [only]
    by_cases rejected : world.aborted = true ∨ surroundings.Rejects server tools
    · rcases World.serve_rejected upserts rejected with ⟨staged, served⟩
      rw [served]
      exact ⟨nofun, ⟨fun _ => rejected, fun _ => rfl⟩, fun _ _ => ⟨rfl, rfl⟩⟩
    · rw [not_or] at rejected
      have opened := eq_false_of_ne_true rejected.1
      rcases World.serve_accepted upserts rejected.2 with ⟨stored, value, accepted, _⟩
      rcases accepted world opened with ⟨table, rows, served⟩
      rw [served]
      refine ⟨fun _ => by simp, by simp [rejected], ?_⟩
      intro other apart
      apply (agreeOn_keep apart _ stored).trans
      refine ⟨?_, rfl⟩
      rw [World.tools_eq_committed settled opened] at rows
      simp only [World.rowsOf]
      rw [rows, filter_upsertedRows_other apart]
  · rw [not_exists] at upserts
    rcases World.serve_of_not_upserts upserts with ⟨stored, value, same⟩
    rw [same world]
    refine ⟨?_, ?_, fun other apart => agreeOn_keep apart world stored⟩
    · intro opened
      rw [World.aborted_keep] at opened
      rw [World.staged_keep, settled opened]
    · have noAbort : ¬ surroundings.Aborts server :=
        fun ⟨tools, comes, _⟩ => upserts tools comes
      simp [noAbort]

/-- A server that succeeds alone ends as it does alone, unless its statements come to an
aborted transaction. -/
theorem World.serve_own {lone : World} (settled : world.IsSettled) (fresh : lone.IsFresh)
    (agree : AgreeOn server.id world lone)
    (spared : ¬ (world.aborted = true ∧ surroundings.Stores server))
    (succeeds : (lone.serve surroundings server).2.isSome = true) :
    AgreeOn server.id (world.serve surroundings server).1 (lone.serve surroundings server).1 := by
  by_cases upserts : ∃ tools, surroundings.Upserts server tools
  · rcases upserts with ⟨tools, upserts⟩
    have accepts : ¬ surroundings.Rejects server tools := by
      intro rejects
      have rejected : ∃ staged, lone.serve surroundings server =
          ({ lone with staged := staged, aborted := true }, none) :=
        World.serve_rejected upserts (Or.inr rejects)
      rcases rejected with ⟨_, served⟩
      rw [served] at succeeds
      cases succeeds
    rcases World.serve_accepted upserts accepts with ⟨stored, value, accepted, returns, _⟩
    rcases accepted lone fresh.2 with ⟨loneTable, loneRows, loneServed⟩
    have stores : surroundings.Stores server := by
      rw [loneServed, returns, Bool.not_eq_true'] at succeeds
      exact ⟨tools, upserts, accepts, succeeds⟩
    have opened : world.aborted = false := by
      apply eq_false_of_ne_true
      exact fun aborted => spared ⟨aborted, stores⟩
    rcases accepted world opened with ⟨table, rows, served⟩
    rw [served, loneServed]
    apply AgreeOn.keep
    refine ⟨?_, agree.capabilities⟩
    rw [World.tools_eq_committed settled opened] at rows
    rw [World.tools_eq_committed (fun _ => fresh.1) fresh.2] at loneRows
    have same := agree.rows
    simp only [World.rowsOf] at same ⊢
    rw [rows, loneRows, filter_upsertedRows_own, filter_upsertedRows_own, same]
  · rw [not_exists] at upserts
    rcases World.serve_of_not_upserts upserts with ⟨stored, value, same⟩
    rw [same world, same lone]
    exact agree.keep stored

/-- From a fresh world a server that stores tools succeeds, with capabilities. -/
theorem World.serve_stores (fresh : world.IsFresh) (stores : surroundings.Stores server) :
    (world.serve surroundings server).2.isSome = true ∧
      ((world.serve surroundings server).1.cache
        (MCPKeys.serverCapabilities server.id.str)).isSome = true := by
  rcases stores with ⟨tools, upserts, accepts, cached⟩
  rcases World.serve_accepted upserts accepts with ⟨stored, value, accepted, returns, keeps⟩
  rcases accepted world fresh.2 with ⟨table, _, served⟩
  rw [cached] at returns keeps
  rw [served]
  refine ⟨returns, ?_⟩
  cases stored with
  | none => cases keeps
  | some payload => simp [World.keep]

/-- In an aborted transaction it does nothing. -/
theorem World.serve_stores_aborted (aborted : world.aborted = true)
    (stores : surroundings.Stores server) :
    (world.serve surroundings server).1.cache = world.cache := by
  rcases stores with ⟨tools, upserts, _⟩
  rcases World.serve_rejected upserts (Or.inl aborted) with ⟨_, served⟩
  rw [served]

end Server

/-! ### All servers -/

section Servers

variable {surroundings : Surroundings} {servers : List MCPServer} {world : World}

/-- The loop over the servers. -/
def World.serveAll (surroundings : Surroundings) (world : World) (servers : List MCPServer) :
    World :=
  servers.foldl (fun world server => (world.serve surroundings server).1) world

variable (surroundings servers world) in
theorem ends_discoverEach (found : List MCPServer) (total : Nat) :
    ∃ count, Ends surroundings found world (discoverEach servers total) (some count)
      (world.serveAll surroundings servers) := by
  induction servers generalizing world total with
  | nil => exact ⟨total, endsAs_pure total⟩
  | cons server servers induction =>
      have served := ends_discoverServer surroundings found world server
      have counted : ∃ count, Ends surroundings found world
          (MonadExcept.tryCatch (discoverServer server) fun exc : Exc =>
            if exc.isException then pure 0 else throw exc) (some count)
          (world.serve surroundings server).1 := by
        cases value : (world.serve surroundings server).2 with
        | some count =>
            rw [value] at served
            exact ⟨count, served.catch_some⟩
        | none =>
            rw [value] at served
            refine ⟨0, served.catch_none ?_⟩
            intro exc logged
            rw [if_pos logged]
            exact endsAs_pure 0
      rcases counted with ⟨count, counted⟩
      rcases induction (world.serve surroundings server).1 (total + count) with
        ⟨result, rest⟩
      exact ⟨result, counted.bind rest⟩

variable (surroundings servers world) in
theorem ends_discover (orgId : Uuid) :
    ∃ count, Ends surroundings servers world (discover orgId none) (some count)
      (world.serveAll surroundings servers) := by
  rcases ends_discoverEach surroundings servers world servers 0 with ⟨count, each⟩
  have selected : Ends surroundings servers world (perform (.selectActive orgId)) (some servers)
      world := ends_accepted rfl (fun _ same => same) rfl
  have deleted : Ends surroundings servers (world.serveAll surroundings servers)
      (perform (.cacheDelete (MCPKeys.orgTools orgId.str))) (some ())
      (world.serveAll surroundings servers) := ends_accepted rfl (fun _ _ => rfl) rfl
  exact ⟨count, selected.bind (each.bind (deleted.bind (endsAs_pure count)))⟩

variable (surroundings) in
/-- What the loop leaves of a server that is not in the list, and whether it leaves the
transaction aborted. -/
theorem World.serveAll_other (settled : world.IsSettled) (servers : List MCPServer) :
    (world.serveAll surroundings servers).IsSettled ∧
      ((world.serveAll surroundings servers).aborted = true ↔
        world.aborted = true ∨ ∃ server ∈ servers, surroundings.Aborts server) ∧
      ∀ other, other ∉ servers.map MCPServer.id →
        AgreeOn other (world.serveAll surroundings servers) world := by
  induction servers generalizing world with
  | nil => exact ⟨settled, by simp [World.serveAll], fun _ _ => ⟨rfl, rfl⟩⟩
  | cons server servers induction =>
      have first := World.serve_other surroundings settled server
      have rest := induction first.1
      refine ⟨rest.1, ?_, ?_⟩
      · simp only [List.exists_mem_cons_iff]
        rw [← or_assoc, ← first.2.1]
        exact rest.2.1
      · intro other apart
        rw [List.map_cons, List.mem_cons, not_or] at apart
        exact (rest.2.2 other apart.2).trans (first.2.2 other apart.1)

variable (surroundings) in
/-- What the loop leaves of one of its servers is what that server leaves of the world in
front of it. -/
theorem World.serveAll_at (fresh : world.IsFresh) {before later : List MCPServer}
    {server : MCPServer} (distinct : ((before ++ server :: later).map MCPServer.id).Nodup) :
    (world.serveAll surroundings before).IsSettled ∧
      ((world.serveAll surroundings before).aborted = true ↔
        ∃ earlier ∈ before, surroundings.Aborts earlier) ∧
      AgreeOn server.id (world.serveAll surroundings before) world ∧
      AgreeOn server.id (world.serveAll surroundings (before ++ server :: later))
        ((world.serveAll surroundings before).serve surroundings server).1 := by
  rw [List.map_append, List.map_cons, List.nodup_middle, List.nodup_cons, List.mem_append,
    not_or] at distinct
  have front := World.serveAll_other surroundings (fun _ => fresh.1) before
  have own := World.serve_other surroundings front.1 server
  refine ⟨front.1, ?_, front.2.2 _ distinct.1.1, ?_⟩
  · rw [front.2.1, fresh.2]
    simp
  · have split : world.serveAll surroundings (before ++ server :: later) =
        ((world.serveAll surroundings before).serve surroundings server).1.serveAll surroundings
          later := by
      rw [World.serveAll, List.foldl_append]
      rfl
    rw [split]
    exact (World.serveAll_other surroundings own.1 later).2.2 _ distinct.1.2

theorem fits_possible (world : World) (op : Op) :
    ∃ outcome, world.Fits surroundings servers ⟨op, outcome⟩ := by
  cases accepts : world.accepts surroundings op with
  | true =>
      have answers : ∃ answer, World.IsAnswer surroundings servers op answer := by
        cases op with
        | listTools client => exact Option.isSome_iff_exists.mp accepts
        | selectServer orgId serverId => exact ⟨none, trivial⟩
        | selectActive orgId => exact ⟨servers, rfl⟩
        | listLocalTools => exact ⟨_, rfl⟩
        | getClient serverId => exact ⟨_, rfl⟩
        | _ => exact ⟨(), trivial⟩
      rcases answers with ⟨answer, answers⟩
      exact ⟨.returned answer, accepts, answers⟩
  | false =>
      have raises : op.mayRaise ⟨.RuntimeError, ""⟩ = true := by
        cases op with
        | listLocalTools => cases accepts
        | getClient serverId => cases accepts
        | _ => rfl
      exact ⟨.raised ⟨.RuntimeError, ""⟩ false raises, accepts, rfl⟩

variable (surroundings servers) in
theorem exists_run {α : Type} (program : Discovery α) (world : World) :
    ∃ environment, IsRun surroundings servers program environment world :=
  ⟨allowing (serving surroundings servers) fits_possible world,
    run_allowing fits_possible program []⟩

/-- The world after a run of `discover`, and that it returns. -/
theorem after_discover {orgId : Uuid} {environment : Environment effects}
    (run : IsRun surroundings servers (discover orgId none) environment world) :
    ((discover orgId none).result environment).toOption.isSome = true ∧
      after surroundings (discover orgId none) environment world =
        world.serveAll surroundings servers := by
  rcases ends_discover surroundings servers world orgId with ⟨count, ends⟩
  have both := ends.run_eq run
  refine ⟨?_, both.2⟩
  rw [both.1]
  rfl

theorem after_discoverServer {server : MCPServer} {environment : Environment effects}
    (run : IsRun surroundings servers (discoverServer server) environment world) :
    ((discoverServer server).result environment).toOption =
        (world.serve surroundings server).2 ∧
      after surroundings (discoverServer server) environment world =
        (world.serve surroundings server).1 :=
  (ends_discoverServer surroundings servers world server).run_eq run

theorem isolates_of_pairwise (distinct : (servers.map MCPServer.id).Nodup)
    (apart : servers.Pairwise fun earlier later =>
      surroundings.Aborts earlier → ¬ surroundings.Stores later) :
    Isolates surroundings servers := by
  intro orgId before environment fresh run
  refine ⟨(after_discover run).1, ?_⟩
  intro server member alone lone succeeds
  rw [(after_discover run).2, (after_discoverServer lone).2]
  rw [(after_discoverServer lone).1] at succeeds
  rcases List.append_of_mem member with ⟨front, later, split⟩
  rw [split] at distinct apart ⊢
  rcases World.serveAll_at surroundings fresh distinct with
    ⟨settled, aborted, agree, ends⟩
  apply ends.trans
  apply World.serve_own settled fresh agree _ succeeds
  rintro ⟨stopped, stores⟩
  rcases aborted.mp stopped with ⟨earlier, inside, aborts⟩
  exact (List.pairwise_append.mp apart).2.2 earlier inside server List.mem_cons_self aborts stores

def emptyWorld : World where
  committed := { rows := [], unique := List.nodup_nil }

/-- Behind a server that leaves the transaction aborted nothing is stored. -/
theorem not_isolates {front later : List MCPServer} {server earlier : MCPServer}
    (distinct : ((front ++ server :: later).map MCPServer.id).Nodup) (inside : earlier ∈ front)
    (aborts : surroundings.Aborts earlier) (stores : surroundings.Stores server) :
    ¬ Isolates surroundings (front ++ server :: later) := by
  intro isolates
  have fresh : emptyWorld.IsFresh := ⟨rfl, rfl⟩
  rcases exists_run surroundings (front ++ server :: later)
    (discover .zero none) emptyWorld with ⟨environment, run⟩
  rcases exists_run surroundings (front ++ server :: later)
    (discoverServer server) emptyWorld with ⟨alone, lone⟩
  have succeeds := World.serve_stores fresh stores
  have agree := (isolates .zero emptyWorld environment fresh run).2 server
    (List.mem_append_right _ List.mem_cons_self) alone lone
    (by rw [(after_discoverServer lone).1]; exact succeeds.1)
  rw [(after_discover run).2, (after_discoverServer lone).2] at agree
  rcases World.serveAll_at surroundings fresh distinct with
    ⟨_, aborted, untouched, ends⟩
  have nothing : (emptyWorld.serveAll surroundings (front ++ server :: later)).cache
      (MCPKeys.serverCapabilities server.id.str) = none := by
    rw [ends.capabilities,
      World.serve_stores_aborted (aborted.mpr ⟨earlier, inside, aborts⟩) stores,
      untouched.capabilities]
    rfl
  rw [← agree.capabilities, nothing] at succeeds
  cases succeeds.2

/-- The servers are isolated exactly when no server that leaves the transaction aborted
comes before one that has tools to store. -/
theorem isolates_iff (distinct : (servers.map MCPServer.id).Nodup) :
    Isolates surroundings servers ↔
      servers.Pairwise fun earlier later =>
        surroundings.Aborts earlier → ¬ surroundings.Stores later := by
  constructor
  · intro isolates
    rw [List.pairwise_iff_forall_sublist]
    intro earlier later inside aborts stores
    rcases List.cons_sublist_iff.mp inside with ⟨front, back, split, first, rest⟩
    rcases List.append_of_mem (List.singleton_sublist.mp rest) with ⟨between, last, splitBack⟩
    rw [splitBack, ← List.append_assoc] at split
    rw [split] at distinct isolates
    exact not_isolates distinct (List.mem_append_left _ first) aborts stores isolates
  · exact isolates_of_pairwise distinct

end Servers

/-! ### Two servers -/

def idOf (digit : Char) (hex : isHexDigit digit = true) : Uuid where
  digits := List.replicate 32 digit
  length_digits := List.length_replicate
  hex_digits := List.all_eq_true.mpr fun _ member => (List.eq_of_mem_replicate member) ▸ hex

def remoteServer (id : Uuid) : MCPServer where
  id := id
  orgId := .zero
  name := "remote"
  slug := "remote"
  serverType := .remoteHttp
  transport := "http"
  endpointUrl := none
  config := []
  status := .active

def repeating : MCPServer :=
  remoteServer (idOf '1' rfl)

def regular : MCPServer :=
  remoteServer (idOf '2' rfl)

/-- The first of the two repeats a name. -/
def twoListings : Surroundings where
  client serverId := if serverId = repeating.id.str then some 1 else some 2
  listing client :=
    if client = 1 then some [{ name := "add" }, { name := "add" }] else some [{ name := "mul" }]
  newId serverId _ := serverId

theorem repeating_aborts : twoListings.Aborts repeating := by
  refine ⟨[{ name := "add" }, { name := "add" }], ⟨nofun, nofun, 1, ?_, ?_⟩, ?_⟩
  · rfl
  · rfl
  · exact Or.inr (Or.inr (by decide))

theorem regular_stores : twoListings.Stores regular := by
  refine ⟨[{ name := "mul" }], ⟨nofun, nofun, 2, ?_, ?_⟩, ?_, ?_⟩
  · rfl
  · rfl
  · rintro (update | insert | repeated)
    · cases update
    · cases insert
    · exact repeated (List.nodup_singleton _)
  · rfl

theorem regular_first_isolated : Isolates twoListings [regular, repeating] := by
  apply (isolates_iff (by decide)).mpr
  rw [List.pairwise_pair]
  rintro ⟨others, comes, rejects⟩
  rcases regular_stores with ⟨tools, upserts, accepts, _⟩
  rw [upserts.unique comes] at accepts
  exact absurd rejects accepts

/-- Behind the listing with a repeated name the other server loses its tools. -/
theorem repeated_names_felt :
    ¬ ∀ surroundings servers, (servers.map MCPServer.id).Nodup →
      Isolates surroundings servers := by
  intro every
  have distinct : ([repeating, regular].map MCPServer.id).Nodup := by decide
  have felt : ¬ Isolates twoListings ([repeating] ++ regular :: []) :=
    not_isolates distinct List.mem_cons_self repeating_aborts regular_stores
  exact felt (every twoListings [repeating, regular] distinct)

end GrafuxMcp.DiscoveryService
