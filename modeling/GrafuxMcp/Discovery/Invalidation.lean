import GrafuxMcp.Discovery.ListTools
import GrafuxMcp.Foundation.Trace

/-! # Invalidation of cached tool lists

`list_tools` fills one key for the org and one for each project.
`DiscoveryService.discover` and `unregister_server` delete the org's key.
-/

namespace GrafuxMcp.Discovery

open GrafuxMcp

/-- `db.delete(server)` with the cascades of its foreign keys. -/
def deleteServer (db : Database) (serverId : Uuid) : Database where
  servers := db.servers.filter fun server => server.id ≠ serverId
  tools := db.tools.filter fun tool => tool.serverId ≠ serverId
  orgTools := db.orgTools.filter fun row =>
    !db.tools.any fun tool => tool.id = row.toolId ∧ tool.serverId = serverId
  projectTools := db.projectTools.filter fun row =>
    !db.tools.any fun tool => tool.id = row.toolId ∧ tool.serverId = serverId
  servers_nodup := db.servers_nodup.sublist (List.filter_sublist.map _)
  tools_nodup := db.tools_nodup.sublist (List.filter_sublist.map _)
  orgTools_nodup := db.orgTools_nodup.sublist (List.filter_sublist.map _)
  projectTools_nodup := db.projectTools_nodup.sublist (List.filter_sublist.map _)
  server_exists := by
    intro tool member
    obtain ⟨stored, kept⟩ := List.mem_filter.mp member
    obtain ⟨server, storedServer, serves⟩ := db.server_exists tool stored
    refine ⟨server, List.mem_filter.mpr ⟨storedServer, ?_⟩, serves⟩
    rw [serves]
    exact kept

namespace Invalidation

/-- One call of an org. `list` has no category filter. `discover` leaves the
tool table alone or changes it to whatever the servers listed. -/
inductive Operation
  | list (orgId : Text) (projectId : Option Uuid) (includeLocal : Bool)
  | discover (org : Uuid) (change : Option Database)
  | unregister (orgId : Text) (serverId : Uuid)

/-- Calls run one after another, each some time after the one before. -/
structure Call where
  wait : Nat
  operation : Operation

/-- The cached lists remember how many changes of the tool table came before
they were read. -/
structure State where
  now : Nat
  db : Database
  changes : Nat
  cache : TtlCache Text (CachedTools Nat)

def initial (db : Database) : State := ⟨0, db, 0, .empty⟩

/-- The server of the org that `get_server` finds. -/
def findServer (db : Database) (orgId : Text) (serverId : Uuid) :
    Option MCPServer :=
  match Uuid.parse orgId with
  | none => none
  | some org =>
      scalarOneOrNone (db.servers.filter fun server =>
        server.id = serverId ∧ server.orgId = org)

/-- Whether an operation changes the tool table. -/
def Operation.changesTools (db : Database) : Operation → Bool
  | .list _ _ _ => false
  | .discover _ change => change.isSome
  | .unregister orgId serverId =>
      (findServer db orgId serverId).isSome &&
        db.tools.any fun tool => tool.serverId = serverId

section

-- How the store matches a key against the pattern of `scan_iter`.
variable (globMatches : Text → Text → Bool)

/-- Whether an operation that changes the tools deletes a key:
`cache_delete` of one key, `cache_delete_pattern` of those that match. -/
def Operation.deletes : Operation → Text → Bool
  | .list _ _ _, _ => false
  | .discover org _, key => decide (key = MCPKeys.orgTools org.str)
  | .unregister orgId _, key => globMatches (MCPKeys.orgTools orgId) key

def step (localTools : List LocalTool) (state : State) (call : Call) : State :=
  let now := state.now + call.wait
  let changes :=
    if call.operation.changesTools state.db then state.changes + 1
    else state.changes
  match call.operation with
  | .list orgId projectId includeLocal =>
      { state with
        now
        cache := (listTools state.db.tools localTools state.changes orgId now
          ⟨projectId, none, includeLocal⟩ state.cache).2 }
  | .discover org change =>
      { now
        db := change.getD state.db
        changes
        cache := state.cache.delete (MCPKeys.orgTools org.str) }
  | .unregister orgId serverId =>
      match findServer state.db orgId serverId with
      | none => { state with now }
      | some _ =>
          { now
            db := deleteServer state.db serverId
            changes
            cache := state.cache.deleteAll
              (globMatches (MCPKeys.orgTools orgId)) }

/-- A list that a request takes from the cache was read after every change. -/
def AnswersFresh (state : State) (call : Call) : Prop :=
  match call.operation with
  | .list orgId projectId _ =>
      ∀ cached ∈ takeCached state.cache (state.now + call.wait)
        (cacheKey orgId projectId), cached.stamp = state.changes
  | _ => True

/-- An operation that changes the tools deletes every cached list. -/
def DeletesEveryList (state : State) (call : Call) : Prop :=
  call.operation.changesTools state.db = true →
    ∀ key cached,
      takeCached state.cache (state.now + call.wait) key = some cached →
        call.operation.deletes globMatches key = true

/-- Every list that can still be served was read after every change. -/
def Fresh (state : State) : Prop :=
  ∀ key cached, takeCached state.cache state.now key = some cached →
    cached.stamp = state.changes

variable {globMatches} {localTools : List LocalTool} {state : State}
  {call : Call}

/-- Waiting only takes lists away. -/
theorem Fresh.later (fresh : Fresh state) {wait : Nat} {key : Text}
    {cached : CachedTools Nat}
    (found : takeCached state.cache (state.now + wait) key = some cached) :
    cached.stamp = state.changes := by
  obtain ⟨read, nonempty⟩ := takeCached_eq_some found
  have readBefore := TtlCache.get_earlier read (Nat.le_add_right _ _)
  exact fresh key cached (takeCached_of_get readBefore nonempty)

theorem fresh_list {orgId : Text} {projectId : Option Uuid}
    {includeLocal : Bool} {wait : Nat} (fresh : Fresh state) :
    Fresh (step globMatches localTools state
      ⟨wait, .list orgId projectId includeLocal⟩) := by
  have kept : ∀ key cached, takeCached state.cache (state.now + wait) key =
      some cached → cached.stamp = state.changes :=
    fun key cached => fresh.later
  intro key cached found
  simp only [step, listTools] at found
  split at found
  · exact kept key cached found
  · split at found
    · exact kept key cached found
    · obtain ⟨read, nonempty⟩ := takeCached_eq_some found
      rcases TtlCache.get_setex read with ⟨-, written⟩ | earlier
      · rw [written]
        rfl
      · exact kept key cached (takeCached_of_get earlier nonempty)

/-- A deletion that covers every list when the tools change keeps what is left
fresh. -/
theorem fresh_of_deleted {operation : Operation} {wait : Nat}
    {db : Database} {cache : TtlCache Text (CachedTools Nat)}
    (fresh : Fresh state)
    (deletes : DeletesEveryList globMatches state ⟨wait, operation⟩)
    (left : ∀ key cached, cache.get (state.now + wait) key = some cached →
      operation.deletes globMatches key = false ∧
        state.cache.get (state.now + wait) key = some cached) :
    Fresh ⟨state.now + wait, db,
      if operation.changesTools state.db then state.changes + 1
      else state.changes, cache⟩ := by
  intro key cached found
  obtain ⟨read, nonempty⟩ := takeCached_eq_some found
  obtain ⟨notDeleted, before⟩ := left key cached read
  have foundBefore := takeCached_of_get before nonempty
  dsimp only
  split
  · next changes =>
      have deleted := deletes changes key cached foundBefore
      rw [notDeleted] at deleted
      cases deleted
  · exact fresh.later foundBefore

theorem fresh_step (fresh : Fresh state)
    (deletes : DeletesEveryList globMatches state call) :
    Fresh (step globMatches localTools state call) := by
  obtain ⟨wait, operation⟩ := call
  cases operation with
  | list orgId projectId includeLocal => exact fresh_list fresh
  | discover org change =>
      apply fresh_of_deleted fresh deletes
      intro key cached read
      obtain ⟨other, before⟩ := TtlCache.get_delete read
      exact ⟨decide_eq_false other, before⟩
  | unregister orgId serverId =>
      unfold step
      dsimp only
      cases findServer state.db orgId serverId with
      | none => exact fun key cached => fresh.later
      | some server =>
          apply fresh_of_deleted fresh deletes
          intro key cached read
          exact TtlCache.get_deleteAll read

theorem answersFresh (fresh : Fresh state) : AnswersFresh state call := by
  unfold AnswersFresh
  split
  · exact fun cached found => fresh.later found
  · trivial

end

end Invalidation

open Invalidation in
/-- In every history of an org's calls in which each call that changes the tools
deletes every cached list, no request is answered with a list that was read
before a change. -/
theorem invalidation_complete (globMatches : Text → Text → Bool)
    (localTools : List LocalTool) (db : Database) (history : List Call)
    (deletes : EachStep (step globMatches localTools)
      (DeletesEveryList globMatches) (initial db) history) :
    EachStep (step globMatches localTools) AnswersFresh (initial db) history := by
  have initially : Fresh (initial db) := by
    intro key cached found
    cases found
  exact deletes.of_invariant initially
    (fun _ _ fresh deletes => fresh_step fresh deletes)
    (fun _ _ fresh _ => answersFresh fresh)

/-- A pattern without special characters matches itself alone. -/
def MatchesLiterally (globMatches : Text → Text → Bool) : Prop :=
  ∀ pattern : Text, (∀ c ∈ pattern, c ∉ ['*', '?', '[', '\\']) →
    ∀ key, globMatches pattern key = true ↔ key = pattern

/-- The org's list is cached, discovery changes a tool and the list is asked
for again. -/
theorem invalidation_complete_org_list :
    EachStep (Invalidation.step (fun pattern key => key = pattern) [])
      Invalidation.AnswersFresh (Invalidation.initial exampleDatabase)
      [⟨0, .list Uuid.zero.str none true⟩,
        ⟨1000, .discover Uuid.zero (some exampleDatabase)⟩,
        ⟨1000, .list Uuid.zero.str none true⟩] := by
  apply invalidation_complete
  simp only [eachStep_cons]
  refine ⟨nofun, ?_, nofun, eachStep_nil _⟩
  intro _ key cached found
  have read : (TtlCache.setex .empty 0 (MCPKeys.orgTools Uuid.zero.str) ttlTools
      ⟨[toolData exampleTool], 0⟩).get 0 key = some cached :=
    TtlCache.get_earlier (takeCached_eq_some found).1 (Nat.zero_le 1000)
  rcases TtlCache.get_setex read with ⟨isOrgKey, -⟩ | impossible
  · exact decide_eq_true isOrgKey
  · cases impossible

/-- The list of a project survives the removal of the server and its tool. -/
theorem project_list_survives :
    ¬ ∀ globMatches, MatchesLiterally globMatches →
      ∀ (localTools : List LocalTool) (db : Database)
        (history : List Invalidation.Call),
      EachStep (Invalidation.step globMatches localTools)
        Invalidation.AnswersFresh (Invalidation.initial db) history := by
  intro always
  have literally : MatchesLiterally fun pattern key => key = pattern := by
    intro pattern _ key
    simp
  have fresh := always _ literally [] exampleDatabase
    [⟨0, .list Uuid.zero.str (some Uuid.zero) true⟩,
      ⟨1000, .unregister Uuid.zero.str exampleServer.id⟩,
      ⟨1000, .list Uuid.zero.str (some Uuid.zero) true⟩]
    [⟨0, .list Uuid.zero.str (some Uuid.zero) true⟩,
      ⟨1000, .unregister Uuid.zero.str exampleServer.id⟩]
    ⟨1000, .list Uuid.zero.str (some Uuid.zero) true⟩ [] rfl
    ⟨[toolData exampleTool], 0⟩ rfl
  cases fresh

end GrafuxMcp.Discovery
