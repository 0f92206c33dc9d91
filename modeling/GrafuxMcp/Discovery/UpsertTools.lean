import GrafuxMcp.Discovery.DiscoveryService

/-! # Upserted tools

After `upsert_tools` the available tools of a server should be those of its listing. An
empty listing ends it at once, and the `UPDATE` asks for the server but not for the org. -/

namespace GrafuxMcp.DiscoveryService

open GrafuxMcp Program

/-! ### The property -/

/-- What no statement changes. -/
def ToolRow.identity (row : ToolRow) : MCPTool :=
  { row.toMCPTool with description := "", inputSchema := [], status := .available }

section Property

variable (serverId orgId : Uuid) (tools : List DiscoveredTool)

def IsListed (row : ToolRow) : Prop :=
  row.orgId = orgId ∧ row.name ∈ tools.map DiscoveredTool.name

/-- The table has come from `before` to `after` as the listing says. That no row is there
twice is known of every table. -/
structure Realises (before after : ToolTable) : Prop where
  available : ∀ row ∈ after.rows, row.serverId = serverId → row.orgId = orgId →
    (row.status = .available ↔ row.name ∈ tools.map DiscoveredTool.name)
  listed : ∀ tool ∈ tools, ∃ row ∈ after.rows, row.key = (serverId, orgId, tool.name) ∧
    row.description = tool.storedDescription ∧ row.inputSchema = tool.storedSchema
  unavailable : ∀ row ∈ after.rows, row.serverId = serverId → ¬ IsListed orgId tools row →
    row.status = .unavailable
  noneLost : ∀ row ∈ before.rows, ∃ later ∈ after.rows, later.identity = row.identity
  noneAdded : ∀ row ∈ after.rows, (∃ earlier ∈ before.rows, earlier.identity = row.identity) ∨
    row.serverId = serverId ∧ IsListed orgId tools row ∧ row.key ∉ before.rows.map ToolRow.key
  others : (after.rows.filter fun row => row.serverId ≠ serverId) =
    before.rows.filter fun row => row.serverId ≠ serverId

/-- A call of `upsert_tools` that returns. -/
def Upserts (surroundings : Surroundings) (before after : World) : Prop :=
  ∃ environment : Environment effects,
    EachStep (World.observe surroundings) (fun world => world.Fits surroundings []) before
        ((upsertTools serverId orgId tools).trace environment) ∧
      ((upsertTools serverId orgId tools).result environment).toOption.isSome = true ∧
      ((upsertTools serverId orgId tools).trace environment).foldl
        (World.observe surroundings) before = after

/-- The call has realised the listing, and the same call again changes no tool. -/
structure MatchesListing (before after : World) : Prop where
  realises : Realises serverId orgId tools before.tools after.tools
  again : ∀ surroundings last, Upserts serverId orgId tools surroundings after last →
    last.tools.rows.map ToolRow.toMCPTool = after.tools.rows.map ToolRow.toMCPTool

/-! ### The condition -/

/-- An empty listing has nothing to take away, and no tool of the server in another org
that is still there has a listed name. -/
structure NothingMissed (table : ToolTable) : Prop where
  empty : tools = [] → ∀ row ∈ table.rows, row.serverId = serverId → row.status = .unavailable
  foreign : ∀ row ∈ table.rows, row.serverId = serverId → row.orgId ≠ orgId →
    row.name ∈ tools.map DiscoveredTool.name → row.status = .unavailable

end Property

/-! ### The table after the call -/

section Table

variable {serverId orgId : Uuid} {tools : List DiscoveredTool} {now : Nat} {newId : String → Uuid}
  {table upserted : ToolTable} {row : ToolRow}

/-- The rows of a table after both statements. -/
def upsertedRows (serverId orgId : Uuid) (tools : List DiscoveredTool) (now : Nat)
    (newId : String → Uuid) (rows : List ToolRow) : List ToolRow :=
  upsertRows ToolRow.key takeExcluded (newRows serverId orgId tools now newId)
    (updateWhere (isMissing serverId (tools.map DiscoveredTool.name)) (setUnavailable now) rows)

theorem mem_newRows (member : row ∈ newRows serverId orgId tools now newId) :
    ∃ tool ∈ tools, row = newRow serverId orgId now (newId tool.name) tool := by
  rcases List.mem_map.mp member with ⟨tool, inside, equal⟩
  exact ⟨tool, inside, equal.symm⟩

theorem isMissing_iff {names : List String} :
    isMissing serverId names row = true ↔ row.serverId = serverId ∧ row.name ∉ names := by
  simp [isMissing]

/-- A row after the statements: it has what the listing says, or it is a missing one that
was marked, or neither statement was about it. -/
inductive Upserted (serverId orgId : Uuid) (tools : List DiscoveredTool) (now : Nat)
    (rows : List ToolRow) (row : ToolRow) : Prop
  | listed {tool} (member : tool ∈ tools) (key : row.key = (serverId, orgId, tool.name))
      (status : row.status = .available) (description : row.description = tool.storedDescription)
      (schema : row.inputSchema = tool.storedSchema)
      (origin : (∃ old ∈ rows, old.identity = row.identity) ∨ row.key ∉ rows.map ToolRow.key)
  | missing {old} (member : old ∈ rows) (server : old.serverId = serverId)
      (name : old.name ∉ tools.map DiscoveredTool.name) (equal : row = setUnavailable now old)
  | other (member : row ∈ rows) (spared : row.serverId = serverId →
      row.orgId ≠ orgId ∧ row.name ∈ tools.map DiscoveredTool.name)

theorem mem_keys_newRows {key : ToolKey} :
    key ∈ (newRows serverId orgId tools now newId).map ToolRow.key ↔
      ∃ tool ∈ tools, key = (serverId, orgId, tool.name) := by
  rw [newRows, List.map_map]
  simp only [List.mem_map, Function.comp_apply]
  constructor
  · rintro ⟨tool, member, equal⟩
    exact ⟨tool, member, equal.symm⟩
  · rintro ⟨tool, member, equal⟩
    exact ⟨tool, member, equal.symm⟩

theorem upserted_of_mem {rows : List ToolRow}
    (member : row ∈ upsertedRows serverId orgId tools now newId rows) :
    Upserted serverId orgId tools now rows row := by
  rcases mem_upsertRows member with ⟨marked, inside, equal⟩ | ⟨added, free⟩
  · rcases mem_updateWhere inside with ⟨old, before, origin⟩
    have same : old.identity = marked.identity := by
      rcases origin with ⟨_, change⟩ | ⟨_, stays⟩
      · rw [change]
        rfl
      · rw [stays]
    rcases mergeInto_cases ToolRow.key takeExcluded (newRows serverId orgId tools now newId)
      marked with ⟨unlisted, stays⟩ | ⟨excluded, fresh, key, merged⟩
    · rw [stays] at equal
      rw [equal]
      rcases origin with ⟨missing, change⟩ | ⟨present, kept⟩
      · have parts := isMissing_iff.mp missing
        exact .missing before parts.1 parts.2 change
      · rw [kept] at unlisted ⊢
        apply Upserted.other before
        intro server
        have name : old.name ∈ tools.map DiscoveredTool.name := by
          by_contra absent
          rw [isMissing_iff.mpr ⟨server, absent⟩] at present
          cases present
        refine ⟨?_, name⟩
        intro org
        rcases List.mem_map.mp name with ⟨tool, listed, named⟩
        apply unlisted
        rw [mem_keys_newRows]
        refine ⟨tool, listed, ?_⟩
        rw [ToolRow.key, server, org, named]
    · rw [merged] at equal
      rcases mem_newRows fresh with ⟨tool, listed, built⟩
      have named : marked.key = (serverId, orgId, tool.name) := by
        rw [← key, built]
        rfl
      rw [equal, built]
      exact .listed listed named rfl rfl rfl (Or.inl ⟨old, before, same⟩)
  · rcases mem_newRows added with ⟨tool, listed, built⟩
    rw [map_updateWhere fun row _ _ => key_setUnavailable now row] at free
    have named : row.key = (serverId, orgId, tool.name) := by
      rw [built]
      rfl
    refine .listed listed named ?_ ?_ ?_ (Or.inr free)
    · rw [built]
      rfl
    · rw [built]
      rfl
    · rw [built]
      rfl

/-- Each listed tool has its row. -/
theorem exists_listed {rows : List ToolRow} (distinct : (tools.map DiscoveredTool.name).Nodup)
    {tool : DiscoveredTool} (member : tool ∈ tools) :
    ∃ row ∈ upsertedRows serverId orgId tools now newId rows,
      row.key = (serverId, orgId, tool.name) ∧ row.description = tool.storedDescription ∧
        row.inputSchema = tool.storedSchema := by
  let new := newRow serverId orgId now (newId tool.name) tool
  have fresh : new ∈ newRows serverId orgId tools now newId := List.mem_map_of_mem member
  by_cases present : new.key ∈ (updateWhere (isMissing serverId (tools.map DiscoveredTool.name))
    (setUnavailable now) rows).map ToolRow.key
  · rcases List.mem_map.mp present with ⟨old, inside, same⟩
    have merged := mergeInto_of_mem takeExcluded
      (nodup_newRows distinct serverId orgId now newId) fresh same.symm
    have result := mem_upsertRows_of_old ToolRow.key takeExcluded
      (newRows serverId orgId tools now newId) inside
    rw [merged] at result
    exact ⟨_, result, same, rfl, rfl⟩
  · exact ⟨new, mem_upsertRows_of_new fresh present, rfl, rfl, rfl⟩

theorem identity_mergeInto (new : List ToolRow) (row : ToolRow) :
    (mergeInto ToolRow.key takeExcluded new row).identity = row.identity := by
  rcases mergeInto_cases ToolRow.key takeExcluded new row with ⟨_, stays⟩ | ⟨_, _, _, merged⟩
  · rw [stays]
  · rw [merged]
    rfl

theorem exists_identity {rows : List ToolRow} (member : row ∈ rows) :
    ∃ later ∈ upsertedRows serverId orgId tools now newId rows, later.identity = row.identity := by
  have marked : ∃ between ∈ updateWhere (isMissing serverId (tools.map DiscoveredTool.name))
      (setUnavailable now) rows, between.identity = row.identity := by
    cases missing : isMissing serverId (tools.map DiscoveredTool.name) row with
    | true => exact ⟨_, mem_updateWhere_of_wanted member missing, rfl⟩
    | false => exact ⟨row, mem_updateWhere_of_not_wanted member missing, rfl⟩
  rcases marked with ⟨between, inside, same⟩
  refine ⟨_, mem_upsertRows_of_old ToolRow.key takeExcluded
    (newRows serverId orgId tools now newId) inside, ?_⟩
  rw [identity_mergeInto, same]

/-- The rows of other servers. -/
theorem filter_upsertedRows (rows : List ToolRow) :
    ((upsertedRows serverId orgId tools now newId rows).filter
        fun row => row.serverId ≠ serverId) = rows.filter fun row => row.serverId ≠ serverId := by
  have apart : ∀ row ∈ newRows serverId orgId tools now newId,
      decide (row.key.1 ≠ serverId) = false := by
    intro row member
    rcases mem_newRows member with ⟨tool, _, built⟩
    rw [built]
    simp [ToolRow.key, newRow]
  calc (upsertedRows serverId orgId tools now newId rows).filter (fun row => row.serverId ≠ serverId)
      = (updateWhere (isMissing serverId (tools.map DiscoveredTool.name)) (setUnavailable now)
          rows).filter (fun row => row.serverId ≠ serverId) :=
        filter_upsertRows_of_apart key_takeExcluded (fun key => decide (key.1 ≠ serverId)) apart
    _ = updateWhere (isMissing serverId (tools.map DiscoveredTool.name)) (setUnavailable now)
          (rows.filter fun row => row.serverId ≠ serverId) := filter_updateWhere fun _ => rfl
    _ = rows.filter fun row => row.serverId ≠ serverId := by
        apply updateWhere_eq_self
        intro row member
        have other := (List.mem_filter.mp member).2
        cases missing : isMissing serverId (tools.map DiscoveredTool.name) row with
        | true => exact absurd (isMissing_iff.mp missing).1 (of_decide_eq_true other)
        | false => rfl

theorem takeExcluded_eq_self {excluded : ToolRow} (status : row.status = .available)
    (description : row.description = excluded.description)
    (schema : row.inputSchema = excluded.inputSchema) : takeExcluded row excluded = row := by
  rw [takeExcluded, ← description, ← schema, ← status]

/-- The statements change no tool of a table that they have made. -/
theorem map_upsertedRows_again {rows again : List ToolRow} {later : Nat} {laterId : String → Uuid}
    (distinct : (tools.map DiscoveredTool.name).Nodup)
    (made : again = upsertedRows serverId orgId tools now newId rows) :
    (upsertedRows serverId orgId tools later laterId again).map ToolRow.toMCPTool =
      again.map ToolRow.toMCPTool := by
  have origin : ∀ row ∈ again, Upserted serverId orgId tools now rows row := by
    intro row member
    rw [made] at member
    exact upserted_of_mem member
  -- a missing tool is unavailable already
  have marks : (updateWhere (isMissing serverId (tools.map DiscoveredTool.name))
      (setUnavailable later) again).map ToolRow.toMCPTool = again.map ToolRow.toMCPTool := by
    apply map_updateWhere
    intro row member missing
    have parts := isMissing_iff.mp missing
    have status : row.status = .unavailable := by
      cases origin row member with
      | listed tool key =>
          have name : row.name = _ := (Prod.mk.inj (Prod.mk.inj key).2).2
          rw [name] at parts
          exact absurd (List.mem_map_of_mem tool) parts.2
      | missing _ _ _ equal =>
          rw [equal]
          rfl
      | other _ spared => exact absurd (spared parts.1).2 parts.2
    rw [setUnavailable, ← status]
  have keys : (updateWhere (isMissing serverId (tools.map DiscoveredTool.name))
      (setUnavailable later) again).map ToolRow.key = again.map ToolRow.key :=
    map_updateWhere fun row _ _ => key_setUnavailable later row
  rw [← marks]
  apply map_upsertRows_again
  · intro fresh member
    rcases mem_newRows member with ⟨tool, listed, built⟩
    rcases exists_listed distinct listed with ⟨row, inside, key, _⟩
    rw [keys, built, made]
    apply List.mem_map.mpr
    exact ⟨row, inside, key⟩
  · intro row member fresh new same
    rcases mem_newRows new with ⟨tool, listed, built⟩
    have named : row.key = (serverId, orgId, tool.name) := by
      rw [← same, built]
      rfl
    rcases mem_updateWhere member with ⟨old, inside, ⟨missing, change⟩ | ⟨_, stays⟩⟩
    · have parts := isMissing_iff.mp missing
      have name : old.name = tool.name := by
        rw [change, key_setUnavailable] at named
        exact (Prod.mk.inj (Prod.mk.inj named).2).2
      rw [name] at parts
      exact absurd (List.mem_map_of_mem listed) parts.2
    · rw [← stays] at inside
      cases origin row inside with
      | listed otherListed key status description schema =>
          have equal := List.inj_on_of_nodup_map distinct listed otherListed
            (Prod.mk.inj (Prod.mk.inj (named.symm.trans key)).2).2
          rw [takeExcluded_eq_self status]
          · rw [description, built, ← equal]
            rfl
          · rw [schema, built, ← equal]
            rfl
      | missing _ _ name equal =>
          rw [equal, key_setUnavailable] at named
          have same := (Prod.mk.inj (Prod.mk.inj named).2).2
          rw [same] at name
          exact absurd (List.mem_map_of_mem listed) name
      | other _ spared =>
          have parts := Prod.mk.inj named
          exact absurd (Prod.mk.inj parts.2).1 (spared parts.1).1

end Table

/-! ### The call -/

section Call

variable {serverId orgId : Uuid} {tools : List DiscoveredTool} {surroundings : Surroundings}
  {before after : World}

theorem World.tools_insert {world : World}
    (returns : (world.insert surroundings serverId orgId tools).2.isSome = true) :
    (world.insert surroundings serverId orgId tools).1.tools.rows =
      upsertRows ToolRow.key takeExcluded
        (newRows serverId orgId tools surroundings.now (surroundings.newId serverId))
        world.tools.rows := by
  unfold World.insert at returns ⊢
  split
  case h_1 table _ inserted =>
    unfold World.inserted ToolTable.insertTools at inserted
    split at inserted
    · rw [← Option.some.inj inserted]
      rfl
    · cases inserted
  case h_2 other =>
    split at returns
    case h_1 accepted inserted => exact absurd inserted (other _ accepted)
    case h_2 => cases returns

theorem World.tools_upsert {world : World}
    (returns : (world.upsert surroundings serverId orgId tools).2.isSome = true) :
    tools = [] ∧ (world.upsert surroundings serverId orgId tools).1.tools = world.tools ∨
      tools ≠ [] ∧ (world.upsert surroundings serverId orgId tools).1.tools.rows =
        upsertedRows serverId orgId tools surroundings.now (surroundings.newId serverId)
          world.tools.rows := by
  unfold World.upsert at returns ⊢
  split
  case isTrue empty => exact Or.inl ⟨List.isEmpty_iff.mp empty, rfl⟩
  case isFalse filled =>
    rw [if_neg filled] at returns
    have some : tools ≠ [] := fun empty => filled (List.isEmpty_iff.mpr empty)
    refine Or.inr ⟨some, ?_⟩
    split
    case isTrue rejected =>
      rw [if_pos rejected] at returns
      cases returns
    case isFalse accepted =>
      rw [if_neg accepted] at returns
      exact World.tools_insert returns

/-- A call that returns has left the table alone, or has made both statements and the
commit. -/
theorem Upserts.tools_eq (upserts : Upserts serverId orgId tools surroundings before after) :
    tools = [] ∧ after.tools = before.tools ∨
      tools ≠ [] ∧ after.tools.rows = upsertedRows serverId orgId tools surroundings.now
        (surroundings.newId serverId) before.tools.rows := by
  rcases upserts with ⟨environment, fits, returns, last⟩
  have ends := (ends_upsertTools surroundings [] before serverId orgId tools).run_eq fits
  have same : (before.upsert surroundings serverId orgId tools).1 = after :=
    ends.2.symm.trans last
  rw [ends.1] at returns
  rw [← same]
  exact World.tools_upsert returns

theorem Upserts.realises (distinct : (tools.map DiscoveredTool.name).Nodup)
    (upserts : Upserts serverId orgId tools surroundings before after)
    (missed : NothingMissed serverId orgId tools before.tools) :
    Realises serverId orgId tools before.tools after.tools := by
  rcases upserts.tools_eq with ⟨empty, same⟩ | ⟨_, made⟩
  · have unavailable := missed.empty empty
    rw [same, empty]
    exact {
      available := fun row member server _ => by simp [unavailable row member server]
      listed := fun tool member => by cases member
      unavailable := fun row member server _ => unavailable row member server
      noneLost := fun row member => ⟨row, member, rfl⟩
      noneAdded := fun row member => Or.inl ⟨row, member, rfl⟩
      others := rfl }
  · have origin : ∀ row ∈ after.tools.rows, Upserted serverId orgId tools surroundings.now
        before.tools.rows row := by
      intro row member
      rw [made] at member
      exact upserted_of_mem member
    have isListed : ∀ {row tool}, tool ∈ tools → row.key = (serverId, orgId, tool.name) →
        IsListed orgId tools row := by
      intro row tool member key
      have parts := Prod.mk.inj (Prod.mk.inj key).2
      exact ⟨parts.1, parts.2 ▸ List.mem_map_of_mem member⟩
    exact {
      available := by
        intro row member server org
        cases origin row member with
        | listed tool key status => exact ⟨fun _ => (isListed tool key).2, fun _ => status⟩
        | missing old _ name equal =>
            rw [equal]
            exact ⟨nofun, fun listed => absurd listed name⟩
        | other _ spared => exact absurd org (spared server).1
      listed := by
        intro tool member
        rw [made]
        exact exists_listed distinct member
      unavailable := by
        intro row member server unlisted
        cases origin row member with
        | listed tool key => exact absurd (isListed tool key) unlisted
        | missing _ _ _ equal =>
            rw [equal]
            rfl
        | other old spared =>
            exact missed.foreign row old server (spared server).1 (spared server).2
      noneLost := by
        intro row member
        rw [made]
        exact exists_identity member
      noneAdded := by
        intro row member
        cases origin row member with
        | listed tool key _ _ _ origin =>
            rcases origin with old | new
            · exact Or.inl old
            · exact Or.inr ⟨(Prod.mk.inj key).1, isListed tool key, new⟩
        | missing old _ _ equal =>
            refine Or.inl ⟨_, old, ?_⟩
            rw [equal]
            rfl
        | other old _ => exact Or.inl ⟨row, old, rfl⟩
      others := by
        rw [made]
        exact filter_upsertedRows _ }

theorem Upserts.again (distinct : (tools.map DiscoveredTool.name).Nodup)
    (upserts : Upserts serverId orgId tools surroundings before after) {later : Surroundings}
    {last : World} (repeats : Upserts serverId orgId tools later after last) :
    last.tools.rows.map ToolRow.toMCPTool = after.tools.rows.map ToolRow.toMCPTool := by
  rcases repeats.tools_eq with ⟨_, same⟩ | ⟨filled, made⟩
  · rw [same]
  · rcases upserts.tools_eq with ⟨empty, _⟩ | ⟨_, first⟩
    · exact absurd empty filled
    · rw [made]
      exact map_upsertedRows_again distinct first

theorem Realises.nothingMissed
    (upserts : Upserts serverId orgId tools surroundings before after)
    (realises : Realises serverId orgId tools before.tools after.tools) :
    NothingMissed serverId orgId tools before.tools := by
  constructor
  · intro empty row member server
    rcases upserts.tools_eq with ⟨_, same⟩ | ⟨filled, _⟩
    · rw [← same] at member
      apply realises.unavailable row member server
      rw [empty]
      exact fun listed => List.not_mem_nil listed.2
    · exact absurd empty filled
  · intro row member server foreign listed
    rcases upserts.tools_eq with ⟨empty, _⟩ | ⟨_, made⟩
    · rw [empty] at listed
      exact absurd listed List.not_mem_nil
    · have stays : row ∈ after.tools.rows := by
        have marked : row ∈ updateWhere (isMissing serverId (tools.map DiscoveredTool.name))
            (setUnavailable surroundings.now) before.tools.rows := by
          apply mem_updateWhere_of_not_wanted member
          cases missing : isMissing serverId (tools.map DiscoveredTool.name) row with
          | true => exact absurd listed (isMissing_iff.mp missing).2
          | false => rfl
        have merged := mem_upsertRows_of_old ToolRow.key takeExcluded
          (newRows serverId orgId tools surroundings.now (surroundings.newId serverId)) marked
        rw [mergeInto_of_notMem] at merged
        · rw [made]
          exact merged
        · rw [mem_keys_newRows]
          rintro ⟨tool, _, key⟩
          exact foreign (Prod.mk.inj (Prod.mk.inj key).2).1
      exact realises.unavailable row stays server fun same => foreign same.1

/-- A call that returns makes the table match the listing exactly when nothing is
missed. -/
theorem upsert_matches_iff (distinct : (tools.map DiscoveredTool.name).Nodup)
    (upserts : Upserts serverId orgId tools surroundings before after) :
    MatchesListing serverId orgId tools before after ↔
      NothingMissed serverId orgId tools before.tools := by
  constructor
  · intro listing
    exact listing.realises.nothingMissed upserts
  · intro missed
    exact ⟨upserts.realises distinct missed, fun _ _ repeats => upserts.again distinct repeats⟩

end Call

/-! ### Two calls -/

def availableTool (name : String) : MCPTool where
  id := .zero
  serverId := .zero
  orgId := .zero
  projectId := none
  name := name
  description := ""
  inputSchema := []
  toolType := "generic"
  category := none
  status := .available

/-- One available tool. -/
def oneTool : World where
  committed :=
    { rows := [{ toMCPTool := availableTool "old", updatedAt := 0 }]
      unique := List.nodup_singleton _ }

def sameIds : Surroundings where
  client _ := none
  listing _ := none
  newId _ _ := .zero

/-- Every operation returns. -/
def everyReturns : Environment effects := fun _ op =>
  match op with
  | .selectServer _ _ => .returned none
  | .selectActive _ => .returned []
  | .listLocalTools => .returned []
  | .getClient _ => .returned none
  | .listTools _ => .returned []
  | .markMissing _ _ | .insertTools _ _ _ | .commit | .cacheSet _ _ _ | .cacheDelete _ =>
      .returned ()

theorem upserts_newTool :
    Upserts .zero .zero [{ name := "new" }] sameIds oneTool
      (oneTool.upsert sameIds .zero .zero [{ name := "new" }]).1 := by
  refine ⟨everyReturns, ?_, rfl, rfl⟩
  refine (eachStep_cons _ _).mpr ⟨⟨rfl, trivial⟩, ?_⟩
  refine (eachStep_cons _ _).mpr ⟨⟨by decide, trivial⟩, ?_⟩
  exact (eachStep_cons _ _).mpr ⟨⟨rfl, trivial⟩, eachStep_nil _⟩

theorem upsert_matches_newTool :
    MatchesListing .zero .zero [{ name := "new" }] oneTool
      (oneTool.upsert sameIds .zero .zero [{ name := "new" }]).1 := by
  apply (upsert_matches_iff (by decide) upserts_newTool).mpr
  refine ⟨nofun, ?_⟩
  intro row member _ foreign
  rw [List.mem_singleton.mp member] at foreign
  exact absurd rfl foreign

/-- After an empty listing the tool is still available. -/
theorem vanished_tool_available :
    ¬ ∀ serverId orgId tools surroundings before after,
      (tools.map DiscoveredTool.name).Nodup →
        Upserts serverId orgId tools surroundings before after →
          MatchesListing serverId orgId tools before after := by
  intro every
  have upserts : Upserts .zero .zero [] sameIds oneTool oneTool :=
    ⟨everyReturns, eachStep_nil _, rfl, rfl⟩
  have listing := every .zero .zero [] sameIds oneTool oneTool List.nodup_nil upserts
  have status := listing.realises.unavailable _ (List.mem_singleton.mpr rfl) rfl nofun
  cases status

end GrafuxMcp.DiscoveryService
