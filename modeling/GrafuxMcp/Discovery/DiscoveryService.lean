import GrafuxMcp.Cache.Keys
import GrafuxMcp.Foundation.KeyedRows
import GrafuxMcp.Foundation.AllRuns
import GrafuxMcp.Models.Database
import Mathlib.Logic.Function.Basic

/-! # Tool discovery

`DiscoveryService` of `app/services/discovery_service.py` with `upsert_tools` of
`app/core/registry/tool_registry.py`, over one database session that all servers share. -/

namespace GrafuxMcp.DiscoveryService

open GrafuxMcp

/-! ### Tools -/

/-- The dictionary of a discovered tool, with the keys that are looked up. A value that
no column takes makes the statement fail. -/
structure DiscoveredTool where
  name : String
  description : Option String := none
  /-- `input_schema`, as the SDK names it. -/
  sdkSchema : Option (List (String × Value)) := none
  inputSchema : Option (List (String × Value)) := none
  toolType : Option String := none
  category : Option String := none

namespace DiscoveredTool

variable (tool : DiscoveredTool)

def storedDescription : String :=
  tool.description.getD ""

/-- The first schema that is not empty. -/
def storedSchema : List (String × Value) :=
  match tool.sdkSchema, tool.inputSchema with
  | some (field :: fields), _ => field :: fields
  | _, some schema => schema
  | _, none => []

end DiscoveredTool

/-- A row of `mcp_tools` with its `updated_at`. -/
structure ToolRow extends MCPTool where
  updatedAt : Nat

/-- The columns of `ix_mcp_tools_org_server_name`. -/
abbrev ToolKey := Uuid × Uuid × String

def ToolRow.key (row : ToolRow) : ToolKey :=
  (row.serverId, row.orgId, row.name)

/-- The table with its unique index. -/
structure ToolTable where
  rows : List ToolRow
  unique : (rows.map ToolRow.key).Nodup

/-! ### Statements -/

/-- A tool of the server that is not among the names. -/
def isMissing (serverId : Uuid) (names : List String) (row : ToolRow) : Bool :=
  row.serverId = serverId && row.name ∉ names

/-- `updated_at` has an `onupdate`. -/
def setUnavailable (now : Nat) (row : ToolRow) : ToolRow :=
  { row with status := .unavailable, updatedAt := now }

def newRow (serverId orgId : Uuid) (now : Nat) (id : Uuid) (tool : DiscoveredTool) : ToolRow where
  id := id
  serverId := serverId
  orgId := orgId
  projectId := none
  name := tool.name
  description := tool.storedDescription
  inputSchema := tool.storedSchema
  toolType := tool.toolType.getD "generic"
  category := tool.category
  status := .available
  updatedAt := now

/-- The `set_` of the conflict, without an `onupdate`. -/
def takeExcluded (row excluded : ToolRow) : ToolRow :=
  { row with
    description := excluded.description
    inputSchema := excluded.inputSchema
    status := .available }

/-- The rows that the `INSERT` proposes, with their ids by name. -/
def newRows (serverId orgId : Uuid) (tools : List DiscoveredTool) (now : Nat)
    (newId : String → Uuid) : List ToolRow :=
  tools.map fun tool => newRow serverId orgId now (newId tool.name) tool

theorem key_setUnavailable (now : Nat) (row : ToolRow) : (setUnavailable now row).key = row.key :=
  rfl

theorem key_takeExcluded (row excluded : ToolRow) : (takeExcluded row excluded).key = row.key :=
  rfl

theorem nodup_newRows {tools : List DiscoveredTool} (distinct : (tools.map DiscoveredTool.name).Nodup)
    (serverId orgId : Uuid) (now : Nat) (newId : String → Uuid) :
    ((newRows serverId orgId tools now newId).map ToolRow.key).Nodup := by
  have keys : (newRows serverId orgId tools now newId).map ToolRow.key =
      (tools.map DiscoveredTool.name).map fun name => (serverId, orgId, name) := by
    rw [newRows, List.map_map, List.map_map]
    rfl
  rw [keys]
  apply distinct.map
  intro first second same
  exact (Prod.mk.inj (Prod.mk.inj same).2).2

namespace ToolTable

variable (table : ToolTable)

/-- The `UPDATE` of `upsert_tools`. -/
def markMissing (serverId : Uuid) (names : List String) (now : Nat) : ToolTable where
  rows := updateWhere (isMissing serverId names) (setUnavailable now) table.rows
  unique := by
    rw [map_updateWhere fun row _ _ => key_setUnavailable now row]
    exact table.unique

/-- The `INSERT ... ON CONFLICT` of `upsert_tools`. It is rejected when it would come to
one row a second time. -/
def insertTools (serverId orgId : Uuid) (tools : List DiscoveredTool) (now : Nat)
    (newId : String → Uuid) : Option ToolTable :=
  if distinct : (tools.map DiscoveredTool.name).Nodup then
    some {
      rows := upsertRows ToolRow.key takeExcluded (newRows serverId orgId tools now newId) table.rows
      unique := nodup_upsertRows key_takeExcluded (nodup_newRows distinct serverId orgId now newId)
        table.unique }
  else none

end ToolTable

/-! ### Operations -/

/-- The identity of a `MCPClientWrapper`. -/
abbrev ClientId := Nat

inductive Op where
  | selectServer (orgId serverId : Uuid)
  /-- The active servers of the org. -/
  | selectActive (orgId : Uuid)
  /-- The names of `list_local_tools()`. -/
  | listLocalTools
  | getClient (serverId : Text)
  | listTools (client : ClientId)
  | markMissing (serverId : Uuid) (names : List String)
  | insertTools (serverId orgId : Uuid) (tools : List DiscoveredTool)
  | commit
  | cacheSet (key : Text) (value : Value) (ttl : Nat)
  | cacheDelete (key : Text)

@[reducible] def Op.Answer : Op → Type
  | .selectServer _ _ => Option MCPServer
  | .selectActive _ => List MCPServer
  | .listLocalTools => List String
  | .getClient _ => Option ClientId
  | .listTools _ => List DiscoveredTool
  | _ => Unit

/-- What is awaited may raise any `Exception` or be cancelled. -/
def Op.mayRaise : Op → Exc → Bool
  | .listLocalTools, _ | .getClient _, _ => false
  | _, exc => exc.isException || exc.isCancelled

@[reducible] def effects : Interface where
  Op := Op
  Answer := Op.Answer
  Exc := Exc
  mayRaise := Op.mayRaise

abbrev Discovery (α : Type) := Program effects α

abbrev DiscoveryEvent := Event effects

@[reducible] def perform (op : Op) : Discovery op.Answer :=
  Program.call (I := effects) op

/-! ### Discovery -/

def upsertTools (serverId orgId : Uuid) (tools : List DiscoveredTool) : Discovery Nat := do
  if tools.isEmpty then
    return 0
  else
    perform (.markMissing serverId (tools.map DiscoveredTool.name))
    perform (.insertTools serverId orgId tools)
    perform .commit
    return tools.length

def ttlCapabilities : Nat := 600

/-- The payload of `store_capabilities`. -/
def capabilities (serverId : Text) (tools : List String) : Value :=
  .dict [("server_id", .str (String.ofList serverId)), ("tools", .list (tools.map .str)),
    ("resources", .list []), ("prompts", .list [])]

def storeCapabilities (serverId : Text) (tools : List String) : Discovery Unit :=
  perform (.cacheSet (MCPKeys.serverCapabilities serverId) (capabilities serverId tools)
    ttlCapabilities)

def discoverServer (server : MCPServer) : Discovery Nat := do
  if server.serverType = .localPlugin then
    let tools ← perform .listLocalTools
    storeCapabilities server.id.str tools
    return tools.length
  else
    match ← perform (.getClient server.id.str) with
    | none => return 0
    | some client =>
        let tools ← perform (.listTools client)
        let count ← upsertTools server.id server.orgId tools
        storeCapabilities server.id.str (tools.map DiscoveredTool.name)
        return count

/-- The loop over the servers; a failure is logged. -/
def discoverEach : List MCPServer → Nat → Discovery Nat
  | [], total => return total
  | server :: servers, total => do
      let count ← tryCatch (discoverServer server) fun exc =>
        if exc.isException then return 0 else throw exc
      discoverEach servers (total + count)

def discover (orgId : Uuid) (serverId : Option Uuid) : Discovery Nat := do
  let servers ←
    match serverId with
    | some serverId => Option.toList <$> perform (.selectServer orgId serverId)
    | none => perform (.selectActive orgId)
  let total ← discoverEach servers 0
  perform (.cacheDelete (MCPKeys.orgTools orgId.str))
  return total

/-! ### The session -/

/-- How the surroundings answer. -/
structure Surroundings where
  localTools : List String := []
  client : Text → Option ClientId
  /-- What `list_tools()` gives; `none` when it raises. -/
  listing : ClientId → Option (List DiscoveredTool)
  /-- The servers for which the `UPDATE` is rejected. -/
  rejectsUpdate : Uuid → Bool := fun _ => false
  rejectsInsert : Uuid → Bool := fun _ => false
  /-- The keys that the cache refuses. -/
  refuses : Text → Bool := fun _ => false
  /-- `uuid.uuid4()` for the row of this server and name. -/
  newId : Uuid → String → Uuid
  /-- `now()` of the database. -/
  now : Nat := 0

/-- The tool table as it is committed and as the open transaction sees it, and the
capability cache. -/
structure World where
  committed : ToolTable
  staged : Option ToolTable := none
  /-- A statement failed: PostgreSQL rejects all others until a rollback. -/
  aborted : Bool := false
  cache : Text → Option Value := fun _ => none

namespace World

variable (surroundings : Surroundings) (world : World)

def tools : ToolTable :=
  world.staged.getD world.committed

/-- The table after the `INSERT`. -/
def inserted (serverId orgId : Uuid) (tools : List DiscoveredTool) : Option ToolTable :=
  world.tools.insertTools serverId orgId tools surroundings.now (surroundings.newId serverId)

def observe : DiscoveryEvent → World
  | ⟨.markMissing serverId names, .returned _⟩ =>
      { world with staged := some (world.tools.markMissing serverId names surroundings.now) }
  | ⟨.insertTools serverId orgId tools, .returned _⟩ =>
      { world with staged := world.inserted surroundings serverId orgId tools }
  | ⟨.markMissing _ _, .raised _ _ _⟩ | ⟨.insertTools _ _ _, .raised _ _ _⟩ =>
      { world with aborted := true }
  | ⟨.commit, .returned _⟩ => { world with committed := world.tools, staged := none }
  | ⟨.cacheSet key value _, .returned _⟩ =>
      { world with cache := Function.update world.cache key (some value) }
  | _ => world

/-- The call returns. -/
def accepts : Op → Bool
  | .listTools client => (surroundings.listing client).isSome
  | .markMissing serverId _ => !world.aborted && !surroundings.rejectsUpdate serverId
  | .insertTools serverId orgId tools => !world.aborted && !surroundings.rejectsInsert serverId &&
      (world.inserted surroundings serverId orgId tools).isSome
  | .commit => !world.aborted
  | .cacheSet key _ _ => !surroundings.refuses key
  | _ => true

def IsAnswer (servers : List MCPServer) : (op : Op) → op.Answer → Prop
  | .selectActive _, found => found = servers
  | .listLocalTools, tools => tools = surroundings.localTools
  | .getClient serverId, client => client = surroundings.client serverId
  | .listTools client, tools => surroundings.listing client = some tools
  | _, _ => True

/-- What is not accepted raises an `Exception`. -/
def Fits (servers : List MCPServer) : DiscoveryEvent → Prop
  | ⟨op, .returned answer⟩ =>
      world.accepts surroundings op = true ∧ IsAnswer surroundings servers op answer
  | ⟨op, .raised exc _ _⟩ => world.accepts surroundings op = false ∧ exc.isException = true

end World

def serving (surroundings : Surroundings) (servers : List MCPServer) : Contract effects World where
  observe := World.observe surroundings
  assume world := World.Fits surroundings world servers
  guarantee _ _ := True

/-! ### What the calls come to -/

namespace World

variable (surroundings : Surroundings) (world : World)

/-- A statement was rejected. -/
def failed : World :=
  { world with aborted := true }

/-- After the `UPDATE`. -/
def marked (serverId : Uuid) (tools : List DiscoveredTool) : World :=
  { world with
    staged := some
      (world.tools.markMissing serverId (tools.map DiscoveredTool.name) surroundings.now) }

/-- The `INSERT` and the commit. -/
def insert (serverId orgId : Uuid) (tools : List DiscoveredTool) : World × Option Nat :=
  match surroundings.rejectsInsert serverId, world.inserted surroundings serverId orgId tools with
  | false, some table => ({ world with committed := table, staged := none }, some tools.length)
  | _, _ => (world.failed, none)

/-- `upsert_tools`: the world after it and its value, if it returns. -/
def upsert (serverId orgId : Uuid) (tools : List DiscoveredTool) : World × Option Nat :=
  if tools.isEmpty then (world, some 0)
  else if world.aborted || surroundings.rejectsUpdate serverId then (world.failed, none)
  else (world.marked surroundings serverId tools).insert surroundings serverId orgId tools

/-- `store_capabilities` -/
def store (serverId : Text) (tools : List String) : World × Option Unit :=
  if surroundings.refuses (MCPKeys.serverCapabilities serverId) then (world, none)
  else
    ({ world with
      cache := Function.update world.cache (MCPKeys.serverCapabilities serverId)
        (some (capabilities serverId tools)) }, some ())

/-- `_discover_server` -/
def serve (server : MCPServer) : World × Option Nat :=
  if server.serverType = .localPlugin then
    let stored := world.store surroundings server.id.str surroundings.localTools
    (stored.1, stored.2.map fun _ => surroundings.localTools.length)
  else
    match surroundings.client server.id.str with
    | none => (world, some 0)
    | some client =>
        match surroundings.listing client with
        | none => (world, none)
        | some tools =>
            match world.upsert surroundings server.id server.orgId tools with
            | (world, none) => (world, none)
            | (world, some count) =>
                let stored := world.store surroundings server.id.str (tools.map DiscoveredTool.name)
                (stored.1, stored.2.map fun _ => count)

end World

section Ends

open Program

variable {surroundings : Surroundings} {servers : List MCPServer} {world last : World}
  {α : Type}

/-- The program ends in this world, and has this value or raises an `Exception`. -/
abbrev Ends (surroundings : Surroundings) (servers : List MCPServer) (world : World)
    (program : Discovery α) (value : Option α) (last : World) : Prop :=
  EndsAs (serving surroundings servers) (fun exc => exc.isException = true) world program value
    last

theorem ends_accepted {op : Op} {value : op.Answer} (accepts : world.accepts surroundings op = true)
    (only : ∀ answer, World.IsAnswer surroundings servers op answer → answer = value)
    (returned : world.observe surroundings ⟨op, .returned value⟩ = last) :
    Ends surroundings servers world (perform op) (some value) last := by
  apply meets_call
  intro outcome fits
  refine ⟨trivial, ?_⟩
  cases outcome with
  | returned answer =>
      rw [only answer fits.2]
      exact ⟨returned, rfl, nofun⟩
  | raised exc applied possible =>
      rw [fits.1] at accepts
      cases accepts

theorem ends_refused {op : Op} (refuses : world.accepts surroundings op = false)
    (raised : ∀ exc applied possible,
      world.observe surroundings ⟨op, .raised exc applied possible⟩ = last) :
    Ends surroundings servers world (perform op) none last := by
  apply meets_call
  intro outcome fits
  refine ⟨trivial, ?_⟩
  cases outcome with
  | returned answer =>
      rw [fits.1] at refuses
      cases refuses
  | raised exc applied possible =>
      refine ⟨raised exc applied possible, rfl, ?_⟩
      intro other equal
      cases equal
      exact fits.2

theorem ends_insert (opened : world.aborted = false) (serverId orgId : Uuid)
    (tools : List DiscoveredTool) :
    Ends surroundings servers world
      (do
        perform (.insertTools serverId orgId tools)
        perform .commit
        return tools.length)
      (world.insert surroundings serverId orgId tools).2
      (world.insert surroundings serverId orgId tools).1 := by
  unfold World.insert
  cases refuses : surroundings.rejectsInsert serverId with
  | true =>
      have insert : Ends surroundings servers world
          (perform (.insertTools serverId orgId tools)) none world.failed :=
        ends_refused (by simp [World.accepts, refuses]) fun _ _ _ => rfl
      exact insert.bind_none
  | false =>
      cases inserted : world.inserted surroundings serverId orgId tools with
      | none =>
          have insert : Ends surroundings servers world
              (perform (.insertTools serverId orgId tools)) none world.failed :=
            ends_refused (by simp [World.accepts, inserted]) fun _ _ _ => rfl
          exact insert.bind_none
      | some table =>
          have staged : world.observe surroundings
              ⟨.insertTools serverId orgId tools, .returned ()⟩ =
                { world with staged := some table } := by
            rw [← inserted]
            rfl
          have insert : Ends surroundings servers world
              (perform (.insertTools serverId orgId tools)) (some ())
              { world with staged := some table } :=
            ends_accepted (by simp [World.accepts, opened, refuses, inserted]) (fun _ _ => rfl)
              staged
          have commit : Ends surroundings servers { world with staged := some table }
              (perform .commit) (some ()) { world with committed := table, staged := none } :=
            ends_accepted (by simp [World.accepts, opened]) (fun _ _ => rfl) rfl
          exact insert.bind (commit.bind (endsAs_pure _))

variable (surroundings servers world) in
theorem ends_upsertTools (serverId orgId : Uuid) (tools : List DiscoveredTool) :
    Ends surroundings servers world (upsertTools serverId orgId tools)
      (world.upsert surroundings serverId orgId tools).2
      (world.upsert surroundings serverId orgId tools).1 := by
  unfold upsertTools World.upsert
  cases empty : tools.isEmpty with
  | true => exact endsAs_pure 0
  | false =>
      simp only [Bool.false_eq_true, if_false]
      have accepts : world.accepts surroundings
          (.markMissing serverId (tools.map DiscoveredTool.name)) =
            !(world.aborted || surroundings.rejectsUpdate serverId) := (Bool.not_or _ _).symm
      cases rejected : world.aborted || surroundings.rejectsUpdate serverId with
      | true =>
          rw [rejected] at accepts
          have update : Ends surroundings servers world
              (perform (.markMissing serverId (tools.map DiscoveredTool.name))) none world.failed :=
            ends_refused accepts fun _ _ _ => rfl
          exact update.bind_none
      | false =>
          rw [rejected] at accepts
          have update : Ends surroundings servers world
              (perform (.markMissing serverId (tools.map DiscoveredTool.name))) (some ())
              (world.marked surroundings serverId tools) :=
            ends_accepted accepts (fun _ _ => rfl) rfl
          have opened : (world.marked surroundings serverId tools).aborted = false :=
            (Bool.or_eq_false_iff.mp rejected).1
          exact update.bind (ends_insert opened serverId orgId tools)

variable (surroundings servers world) in
theorem ends_storeCapabilities (serverId : Text) (tools : List String) :
    Ends surroundings servers world (storeCapabilities serverId tools)
      (world.store surroundings serverId tools).2 (world.store surroundings serverId tools).1 := by
  have accepts : world.accepts surroundings (.cacheSet (MCPKeys.serverCapabilities serverId)
      (capabilities serverId tools) ttlCapabilities) =
        !surroundings.refuses (MCPKeys.serverCapabilities serverId) := rfl
  unfold World.store
  cases refused : surroundings.refuses (MCPKeys.serverCapabilities serverId) with
  | true =>
      rw [refused] at accepts
      simp only [if_true]
      exact ends_refused accepts fun _ _ _ => rfl
  | false =>
      rw [refused] at accepts
      have stored : Ends surroundings servers world (storeCapabilities serverId tools) (some ()) _ :=
        ends_accepted accepts (fun _ _ => rfl) rfl
      exact stored

/-- The capabilities are stored last. -/
theorem ends_finish (serverId : Text) (tools : List String) (count : Nat) :
    Ends surroundings servers world
      (do
        storeCapabilities serverId tools
        return count)
      ((world.store surroundings serverId tools).2.map fun _ => count)
      (world.store surroundings serverId tools).1 := by
  have stored := ends_storeCapabilities surroundings servers world serverId tools
  cases value : (world.store surroundings serverId tools).2 with
  | none =>
      rw [value] at stored
      exact stored.bind_none
  | some _ =>
      rw [value] at stored
      exact stored.bind (endsAs_pure _)

variable (surroundings servers world) in
theorem ends_discoverServer (server : MCPServer) :
    Ends surroundings servers world (discoverServer server)
      (world.serve surroundings server).2 (world.serve surroundings server).1 := by
  unfold discoverServer World.serve
  by_cases isLocal : server.serverType = .localPlugin
  · rw [if_pos isLocal, if_pos isLocal]
    have listed : Ends surroundings servers world (perform .listLocalTools)
        (some surroundings.localTools) world := ends_accepted rfl (fun _ same => same) rfl
    exact listed.bind (ends_finish _ _ _)
  · rw [if_neg isLocal, if_neg isLocal]
    have asked : Ends surroundings servers world (perform (.getClient server.id.str))
        (some (surroundings.client server.id.str)) world :=
      ends_accepted rfl (fun _ same => same) rfl
    apply asked.bind
    cases surroundings.client server.id.str with
    | none => exact endsAs_pure 0
    | some client =>
        dsimp only
        cases answer : surroundings.listing client with
        | none =>
            have listed : Ends surroundings servers world (perform (.listTools client)) none world :=
              ends_refused (by simp [World.accepts, answer]) fun _ _ _ => rfl
            exact listed.bind_none
        | some tools =>
            have listed : Ends surroundings servers world (perform (.listTools client))
                (some tools) world :=
              ends_accepted (by simp [World.accepts, answer])
                (fun _ same => (Option.some.inj (answer.symm.trans same)).symm) rfl
            dsimp only
            apply listed.bind
            have upserted := ends_upsertTools surroundings servers world server.id server.orgId
              tools
            cases done : world.upsert surroundings server.id server.orgId tools with
            | mk after value =>
                rw [done] at upserted
                cases value with
                | none => exact upserted.bind_none
                | some count => exact upserted.bind (ends_finish _ _ _)

end Ends

end GrafuxMcp.DiscoveryService
