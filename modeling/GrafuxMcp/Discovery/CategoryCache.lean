import GrafuxMcp.Discovery.ListTools
import GrafuxMcp.Foundation.Trace
import Mathlib.Data.List.Nodup

/-! # The cached tool list and categories

The query filters by org, project and category, the cache key names the org and
the project.
-/

namespace GrafuxMcp.Discovery

open GrafuxMcp

namespace CategoryCache

/-- A cache whose entries remember the request that stored them. -/
abbrev Cache := TtlCache Text (CachedTools ListRequest)

/-- One request of an org, at a time, over a database that does not change. -/
def serve (db : Database) (localTools : List LocalTool) (orgId : Text)
    (cache : Cache) (event : Nat × ListRequest) :
    Except Exc (List ListedTool) × Cache :=
  listTools db.tools localTools event.2 orgId event.1 event.2 cache

def observe (db : Database) (localTools : List LocalTool) (orgId : Text)
    (cache : Cache) (event : Nat × ListRequest) : Cache :=
  (serve db localTools orgId cache event).2

/-- The registered-tool part of the answer is what the uncached query gives. -/
def AgreesWithUncached (db : Database) (localTools : List LocalTool)
    (orgId : Text) (org : Uuid) (cache : Cache) (event : Nat × ListRequest) :
    Prop :=
  ∃ answer, (serve db localTools orgId cache event).1 = .ok answer ∧
    registeredPart answer = registeredTools db.tools org event.2

/-- A list found in the cache was stored by a request whose category admits the
same tools of the org and project. -/
def SameCategory (db : Database) (orgId : Text) (org : Uuid) (cache : Cache)
    (event : Nat × ListRequest) : Prop :=
  ∀ cached ∈ takeCached cache event.1 (cacheKey orgId event.2.projectId),
    ∀ tool ∈ db.tools, tool.orgId = org →
      inProject event.2.projectId tool = true →
        inCategory cached.stamp.category tool = inCategory event.2.category tool

variable {db : Database} {localTools : List LocalTool} {orgId : Text}
  {org : Uuid} {cache : Cache} {event : Nat × ListRequest}

instance (db : Database) (orgId : Text) (org : Uuid) (cache : Cache)
    (event : Nat × ListRequest) :
    Decidable (SameCategory db orgId org cache event) :=
  inferInstanceAs (Decidable (∀ _ ∈ _, ∀ _ ∈ _, _ → _ → _))

/-- What an entry holds: the answer to the request that stored it. -/
def Stored (db : Database) (orgId : Text) (org : Uuid) (key : Text)
    (cached : CachedTools ListRequest) : Prop :=
  key = cacheKey orgId cached.stamp.projectId ∧
    cached.tools = registeredTools db.tools org cached.stamp

theorem stores_observe (parsed : Uuid.parse orgId = some org)
    (stores : cache.Stores (Stored db orgId org)) :
    (observe db localTools orgId cache event).Stores (Stored db orgId org) := by
  unfold observe serve
  cases found : takeCached cache event.1 (cacheKey orgId event.2.projectId) with
  | some cached =>
      rw [listTools_cached found]
      exact stores
  | none =>
      rw [listTools_uncached parsed found]
      exact stores.setex _ ⟨rfl, rfl⟩

theorem toolData_injective {left right : MCPTool} (isLeft : left ∈ db.tools)
    (isRight : right ∈ db.tools) (same : toolData left = toolData right) :
    left = right := by
  have sameId : left.id = right.id :=
    Uuid.str_injective (congrArg ToolData.id same)
  exact List.inj_on_of_nodup_map db.tools_nodup isLeft isRight sameId

/-- Two selections of the same rows give the same dictionaries exactly if they
select the same rows. -/
theorem map_toolData_filter_iff (left right : MCPTool → Bool) :
    (db.tools.filter left).map toolData = (db.tools.filter right).map toolData ↔
      ∀ tool ∈ db.tools, left tool = right tool := by
  have selected : ∀ {left right : MCPTool → Bool},
      (db.tools.filter left).map toolData =
        (db.tools.filter right).map toolData →
      ∀ tool ∈ db.tools, left tool = true → right tool = true := by
    intro left right same tool member isLeft
    have listed : toolData tool ∈ (db.tools.filter right).map toolData := by
      rw [← same]
      exact List.mem_map_of_mem (List.mem_filter.mpr ⟨member, isLeft⟩)
    obtain ⟨other, isRight, sameData⟩ := List.mem_map.mp listed
    obtain ⟨otherMember, isRight⟩ := List.mem_filter.mp isRight
    rw [toolData_injective member otherMember sameData.symm]
    exact isRight
  constructor
  · intro same tool member
    rw [Bool.eq_iff_iff]
    exact ⟨selected same tool member, selected same.symm tool member⟩
  · intro agree
    rw [List.filter_congr agree]

theorem registeredTools_eq_iff {left right : ListRequest}
    (sameProject : left.projectId = right.projectId) :
    registeredTools db.tools org left = registeredTools db.tools org right ↔
      ∀ tool ∈ db.tools, tool.orgId = org →
        inProject right.projectId tool = true →
          inCategory left.category tool = inCategory right.category tool := by
  unfold registeredTools queryTools
  rw [map_toolData_filter_iff, sameProject]
  constructor
  · intro agree tool member isOrg isProject
    have same := agree tool member
    simpa [isOrg, isProject] using same
  · intro agree tool member
    by_cases isOrg : tool.orgId = org
    · cases isProject : inProject right.projectId tool with
      | false => simp
      | true => simp [isOrg, agree tool member isOrg isProject]
    · simp [isOrg]

theorem agrees_iff (parsed : Uuid.parse orgId = some org)
    (stores : cache.Stores (Stored db orgId org)) :
    AgreesWithUncached db localTools orgId org cache event ↔
      SameCategory db orgId org cache event := by
  unfold AgreesWithUncached SameCategory serve
  cases found : takeCached cache event.1 (cacheKey orgId event.2.projectId) with
  | none =>
      rw [listTools_uncached parsed found]
      simp [registeredPart_mergeLocal]
  | some cached =>
      obtain ⟨key, served⟩ := takeCached_stores stores found
      have sameProject := cacheKey_injective key.symm
      rw [listTools_cached found]
      simp only [Except.ok.injEq, exists_eq_left', registeredPart_mergeLocal,
        Option.mem_def, Option.some.injEq, forall_eq']
      rw [served]
      exact registeredTools_eq_iff sameProject

end CategoryCache

open CategoryCache in
/-- Over an unchanging database, every answer of a history of requests of an
org has the registered tools of the uncached query if and only if every list
found in the cache was stored under a category that admits the same tools. -/
theorem cached_list_agrees_iff (db : Database) (localTools : List LocalTool)
    (orgId : Text) (org : Uuid) (parsed : Uuid.parse orgId = some org)
    (history : List (Nat × ListRequest)) :
    EachStep (observe db localTools orgId)
        (AgreesWithUncached db localTools orgId org) .empty history ↔
      EachStep (observe db localTools orgId) (SameCategory db orgId org) .empty
        history :=
  EachStep.congr TtlCache.stores_empty
    (fun _ _ stores => stores_observe parsed stores)
    (fun _ _ stores => agrees_iff parsed stores)

/-- A list, the same list again and, a quarter of an hour later, one category
of it. -/
theorem cached_list_agrees_expired :
    EachStep (CategoryCache.observe exampleDatabase [] Uuid.zero.str)
      (CategoryCache.AgreesWithUncached exampleDatabase [] Uuid.zero.str
        Uuid.zero) .empty
      [(0, ⟨none, none, true⟩), (1000, ⟨none, none, false⟩),
        (900000, ⟨none, some "weather", true⟩)] :=
  (cached_list_agrees_iff exampleDatabase [] Uuid.zero.str Uuid.zero rfl _).mpr
    (by decide)

/-- The whole list is cached and then served for a category. -/
theorem category_served_whole_list :
    ¬ ∀ (db : Database) (localTools : List LocalTool) (orgId : Text) (org : Uuid),
      Uuid.parse orgId = some org → ∀ history : List (Nat × ListRequest),
        EachStep (CategoryCache.observe db localTools orgId)
          (CategoryCache.AgreesWithUncached db localTools orgId org) .empty
          history := by
  intro always
  obtain ⟨answer, answered, same⟩ := always exampleDatabase [] Uuid.zero.str
    Uuid.zero rfl [(0, ⟨none, none, true⟩), (1000, ⟨none, some "weather", true⟩)]
    [(0, ⟨none, none, true⟩)] (1000, ⟨none, some "weather", true⟩) [] rfl
  have served : [ListedTool.registered (toolData exampleTool)] = answer :=
    Except.ok.inj answered
  rw [← served] at same
  exact absurd (congrArg List.length same) (by decide)

end GrafuxMcp.Discovery
