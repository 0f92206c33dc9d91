import GrafuxMcp.Foundation.SecondaryIndex
import GrafuxMcp.Runtime.ToolExecutor

/-! # The display-name index

`register_tool` lists a key under the display name of the new tool; a name that the
key had before keeps it. -/

namespace GrafuxMcp.ToolExecutor

open GrafuxMcp PluginLoader IndexedDict

/-! ### The property -/

inductive RegistryEvent
  | registerTool (tool : Tool)
  /-- `reload_plugins` clears the registries; the registrations of its files follow. -/
  | reload

def observe (registries : Registries) : RegistryEvent → Registries
  | .registerTool tool => registries.registerTool tool
  | .reload => {}

/-- The first key of the registry, in its order, that has the name and passes the tests
of the caller. -/
def scanTools (registries : Registries) (toolName : String) (caller : Caller) : Option String :=
  (registries.tools.items.find? fun item =>
    item.2.name == toolName && admits caller item.2).map Prod.fst

/-- What the index lists under a name. -/
def indexed (registries : Registries) (name : String) : List String :=
  (registries.nameIndex.get name).getD []

structure IndexAgrees (registries : Registries) : Prop where
  selects : ∀ toolName caller,
    (byName registries toolName caller).map Prod.fst = scanTools registries toolName caller
  listsOnce : ∀ name, (indexed registries name).Nodup
  current : ∀ name key, key ∈ indexed registries name ↔
    ∃ tool, registries.tools.get key = some tool ∧ tool.name = name

/-! ### The condition -/

/-- The tools that were registered since the last reload, in this order. -/
def sinceReload (events : List RegistryEvent) : List Tool :=
  events.foldl (fun tools event =>
    match event with
    | .registerTool tool => tools ++ [tool]
    | .reload => []) []

/-- No key stands for two names, one after the other. -/
def OneNamePerKey (tools : List Tool) : Prop :=
  ∀ tool ∈ tools, ∀ other ∈ tools, tool.key = other.key → tool.name = other.name

/-! ### The registries as an indexed dictionary -/

def entry (tool : Tool) : String × Tool :=
  (tool.key, tool)

def tables (registries : Registries) : IndexedDict String String Tool where
  table := registries.tools
  index := registries.nameIndex

theorem tables_registerTool (registries : Registries) (tool : Tool) :
    tables (registries.registerTool tool) = (tables registries).insert Tool.name (entry tool) :=
  rfl

theorem tables_registered (tools : List Tool) :
    tables (tools.foldl Registries.registerTool {}) = built Tool.name (tools.map entry) := by
  induction tools using List.reverseRecOn with
  | nil => rfl
  | append_singleton tools tool induction =>
      rw [List.foldl_append, List.map_append, List.map_singleton, built, insertAll_concat,
        ← built, ← induction]
      rfl

/-- Only what was registered since the last reload counts. -/
theorem foldl_observe (events : List RegistryEvent) :
    events.foldl observe {} = (sinceReload events).foldl Registries.registerTool {} := by
  induction events using List.reverseRecOn with
  | nil => rfl
  | append_singleton events event induction =>
      rw [sinceReload, List.foldl_append, List.foldl_append]
      cases event with
      | reload => rfl
      | registerTool tool =>
          simp only [List.foldl_cons, List.foldl_nil, List.foldl_append]
          rw [induction]
          rfl

theorem oneName_iff (tools : List Tool) :
    OneName Tool.name (tools.map entry) ↔ OneNamePerKey tools := by
  constructor
  · intro oneName tool member other member' same
    exact oneName (entry tool) (List.mem_map_of_mem member) (entry other)
      (List.mem_map_of_mem member') same
  · intro oneName first member second member' same
    rcases List.mem_map.mp member with ⟨tool, inside, equal⟩
    rcases List.mem_map.mp member' with ⟨other, inside', equal'⟩
    rw [← equal, ← equal'] at same ⊢
    exact oneName tool inside other inside' same

/-- Looking up the keys of a scan gives what the scan has seen. -/
theorem findSome_scan (registries : Registries) (caller : Caller) (toolName : String) :
    (((tables registries).scan Tool.name toolName).findSome? fun key =>
      (lookUp registries key).filter fun found => admits caller found.2).map Prod.fst =
        scanTools registries toolName caller := by
  have within : ∀ item ∈ registries.tools.items,
      lookUp registries item.1 = some item := by
    intro item member
    rw [lookUp, OrderedDict.get_of_mem member]
    rfl
  simp only [scan, tables, scanTools]
  generalize registries.tools.items = items at within
  induction items with
  | nil => rfl
  | cons item items induction =>
      have first := within item List.mem_cons_self
      have rest := induction fun other member => within other (List.mem_cons_of_mem _ member)
      rw [List.filter_cons, List.find?_cons]
      by_cases named : item.2.name = toolName
      · by_cases admitted : admits caller item.2 = true
        · simp [named, first, admitted, Option.filter]
        · simp only [named, decide_true, if_true, List.map_cons, List.findSome?_cons, first,
            Option.filter_some, admitted, Bool.false_eq_true, if_false, beq_self_eq_true,
            Bool.and_false]
          exact rest
      · simp only [named, decide_false, Bool.false_eq_true, if_false, beq_eq_false_iff_ne.mpr named,
          Bool.false_and]
        exact rest

theorem index_agrees_iff (events : List RegistryEvent) :
    IndexAgrees (events.foldl observe {}) ↔ OneNamePerKey (sinceReload events) := by
  rw [foldl_observe, ← oneName_iff]
  have whole := tables_registered (sinceReload events)
  constructor
  · intro agrees
    apply (exact_iff_oneName _ _).mp
    rw [← whole]
    exact ⟨agrees.listsOnce, agrees.current⟩
  · intro oneName
    have exact_ := (exact_iff_oneName _ _).mpr oneName
    have ordered := keysOf_eq_scan oneName
    rw [← whole] at exact_ ordered
    refine ⟨?_, exact_.nodup, exact_.current⟩
    intro toolName caller
    rw [← findSome_scan, ← ordered toolName]
    rfl

/-! ### A key with two names -/

/-- `add` of the category `math`, which the owner has also called `math/add`. -/
def exampleTool (category : Option String) (name : String) : Tool where
  username := some "ann"
  project := some "demo"
  category := category
  func := 0
  name := name
  description := ""
  inputSchema := .none

theorem replaced_name_listed : ¬ ∀ events : List RegistryEvent,
    IndexAgrees (events.foldl observe {}) := by
  intro claimed
  have agrees := claimed [.registerTool (exampleTool none "math/add"),
    .registerTool (exampleTool (some "math") "add")]
  have selected := agrees.selects "math/add" { username := some "ann", project := some "demo" }
  revert selected
  decide

end GrafuxMcp.ToolExecutor
