import GrafuxMcp.Cache.Keys
import GrafuxMcp.Foundation.TtlCache
import GrafuxMcp.Models.Database

/-! # Listing tools

`list_tools` of `app/api/v1/discovery.py`. Times are in milliseconds, as Redis
counts them.
-/

namespace GrafuxMcp.Discovery

open GrafuxMcp

/-- The dictionary of a registered tool. -/
structure ToolData where
  id : Text
  serverId : Text
  orgId : Text
  projectId : Option Text
  name : String
  description : String
  inputSchema : List (String × Value)
  toolType : String
  category : Option String
  status : ToolStatus

def toolData (tool : MCPTool) : ToolData where
  id := tool.id.str
  serverId := tool.serverId.str
  orgId := tool.orgId.str
  projectId := tool.projectId.map (·.str)
  name := tool.name
  description := tool.description
  inputSchema := tool.inputSchema
  toolType := tool.toolType
  category := tool.category
  status := tool.status

/-- A dictionary of `list_local_tools()`. -/
structure LocalTool where
  name : String
  category : Option String

inductive ListedTool
  | registered (tool : ToolData)
  | local (tool : LocalTool)

def ListedTool.registered? : ListedTool → Option ToolData
  | .registered tool => some tool
  | .local _ => none

/-- The registered-tool part of an answer. -/
def registeredPart (answer : List ListedTool) : List ToolData :=
  answer.filterMap ListedTool.registered?

structure ListRequest where
  projectId : Option Uuid
  category : Option String
  includeLocal : Bool

/-- A cached list. The stamp is for the proofs: nothing reads it. -/
structure CachedTools (Stamp : Type) where
  tools : List ToolData
  stamp : Stamp

def ttlTools : Nat := 300 * 1000

def cacheKey (orgId : Text) (projectId : Option Uuid) : Text :=
  match projectId with
  | some projectId => MCPKeys.projectTools orgId projectId.str
  | none => MCPKeys.orgTools orgId

def inProject (projectId : Option Uuid) (tool : MCPTool) : Bool :=
  match projectId with
  | some projectId =>
      decide (tool.projectId = some projectId) || tool.projectId.isNone
  | none => true

/-- An empty category is no filter. -/
def inCategory (category : Option String) (tool : MCPTool) : Bool :=
  match category.filter (!·.isEmpty) with
  | some category => decide (tool.category = some category)
  | none => true

/-- The uncached query. -/
def queryTools (tools : List MCPTool) (orgId : Uuid) (request : ListRequest) :
    List MCPTool :=
  tools.filter fun tool => decide (tool.orgId = orgId) &&
    (inProject request.projectId tool && inCategory request.category tool)

def registeredTools (tools : List MCPTool) (orgId : Uuid)
    (request : ListRequest) : List ToolData :=
  (queryTools tools orgId request).map toolData

/-- `tools_data + local`, if local tools are asked for. -/
def mergeLocal (localTools : List LocalTool) (request : ListRequest)
    (toolsData : List ToolData) : List ListedTool :=
  let localTools :=
    match request.category.filter (!·.isEmpty) with
    | some category =>
        localTools.filter fun tool : LocalTool => tool.category = some category
    | none => localTools
  toolsData.map .registered ++
    if request.includeLocal then localTools.map .local else []

section

variable {Stamp : Type}

/-- What `if cached:` takes from the cache: a live list that is not empty. -/
def takeCached (cache : TtlCache Text (CachedTools Stamp)) (now : Nat)
    (key : Text) : Option (CachedTools Stamp) :=
  (cache.get now key).filter (!·.tools.isEmpty)

/-- The answer to a request at a time and the cache it leaves behind. -/
def listTools (tools : List MCPTool) (localTools : List LocalTool)
    (stamp : Stamp) (orgId : Text) (now : Nat) (request : ListRequest)
    (cache : TtlCache Text (CachedTools Stamp)) :
    Except Exc (List ListedTool) × TtlCache Text (CachedTools Stamp) :=
  let key := cacheKey orgId request.projectId
  match takeCached cache now key with
  | some cached => (.ok (mergeLocal localTools request cached.tools), cache)
  | none =>
      match Uuid.parse orgId with
      | none =>
          (.error ⟨.ValueError, "badly formed hexadecimal UUID string"⟩, cache)
      | some org =>
          let toolsData := registeredTools tools org request
          (.ok (mergeLocal localTools request toolsData),
            cache.setex now key ttlTools ⟨toolsData, stamp⟩)

variable {tools : List MCPTool} {localTools : List LocalTool} {stamp : Stamp}
  {orgId : Text} {now : Nat} {request : ListRequest}
  {cache : TtlCache Text (CachedTools Stamp)}

theorem listTools_cached {cached : CachedTools Stamp}
    (found : takeCached cache now (cacheKey orgId request.projectId) =
      some cached) :
    listTools tools localTools stamp orgId now request cache =
      (.ok (mergeLocal localTools request cached.tools), cache) := by
  simp only [listTools, found]

theorem listTools_uncached {org : Uuid} (parsed : Uuid.parse orgId = some org)
    (missed : takeCached cache now (cacheKey orgId request.projectId) = none) :
    listTools tools localTools stamp orgId now request cache =
      (.ok (mergeLocal localTools request (registeredTools tools org request)),
        cache.setex now (cacheKey orgId request.projectId) ttlTools
          ⟨registeredTools tools org request, stamp⟩) := by
  simp only [listTools, missed, parsed]

theorem takeCached_eq_some {key : Text} {cached : CachedTools Stamp}
    (found : takeCached cache now key = some cached) :
    cache.get now key = some cached ∧ cached.tools.isEmpty = false := by
  obtain ⟨read, nonempty⟩ := Option.filter_eq_some_iff.mp found
  exact ⟨read, by simpa using nonempty⟩

theorem takeCached_of_get {key : Text} {cached : CachedTools Stamp}
    (read : cache.get now key = some cached)
    (nonempty : cached.tools.isEmpty = false) :
    takeCached cache now key = some cached :=
  Option.filter_eq_some_iff.mpr ⟨read, by simp [nonempty]⟩

theorem takeCached_stores {P : Text → CachedTools Stamp → Prop} {key : Text}
    {cached : CachedTools Stamp} (stores : cache.Stores P)
    (found : takeCached cache now key = some cached) : P key cached :=
  stores.get (takeCached_eq_some found).1

end

theorem registeredPart_mergeLocal (localTools : List LocalTool)
    (request : ListRequest) (toolsData : List ToolData) :
    registeredPart (mergeLocal localTools request toolsData) = toolsData := by
  have locals : ∀ tools : List LocalTool,
      (tools.map ListedTool.local).filterMap ListedTool.registered? = [] := by
    intro tools
    simp [List.filterMap_map, Function.comp_def, ListedTool.registered?]
  have registereds : (toolsData.map ListedTool.registered).filterMap
      ListedTool.registered? = toolsData := by
    simp [List.filterMap_map, Function.comp_def, ListedTool.registered?]
  unfold registeredPart mergeLocal
  rw [List.filterMap_append, registereds]
  split <;> simp [locals]

/-- The key of an org's request tells its project. -/
theorem cacheKey_injective {orgId : Text} {left right : Option Uuid}
    (same : cacheKey orgId left = cacheKey orgId right) : left = right := by
  cases left with
  | none =>
      cases right with
      | none => rfl
      | some right => exact absurd same (MCPKeys.orgTools_ne_projectTools _ _)
  | some left =>
      cases right with
      | none => exact absurd same.symm (MCPKeys.orgTools_ne_projectTools _ _)
      | some right =>
          have sameText := MCPKeys.projectTools_injective same
          rw [Uuid.str_injective sameText]

end GrafuxMcp.Discovery
