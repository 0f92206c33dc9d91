import GrafuxMcp.Foundation.PathMarkers
import GrafuxMcp.Runtime.NameIndex
import Mathlib.Data.List.Find

/-! # Tool resolution

Owners and names without a slash can be read off the keys, so the three kinds of keys
and the index never confuse two tools. -/

namespace GrafuxMcp.ToolExecutor

open GrafuxMcp PosixPath PluginLoader IndexedDict

/-! ### Owners and names of one segment -/

/-- Not empty and without a slash. -/
def IsSegment (text : String) : Prop :=
  text ≠ "" ∧ '/' ∉ text.toList

instance (text : String) : Decidable (IsSegment text) :=
  inferInstanceAs (Decidable (_ ∧ _))

structure OwnerSegmented (owner : Owner) : Prop where
  username : ∀ username ∈ owner.username, IsSegment username
  project : ∀ project ∈ owner.project, IsSegment project
  category : ∀ category ∈ owner.category, IsSegment category

structure ToolSegmented (tool : Tool) : Prop extends OwnerSegmented tool.toOwner where
  name : IsSegment tool.name

theorem truthy_of_segments {text : Option String}
    (segments : ∀ segment ∈ text, IsSegment segment) : truthy text = text := by
  cases text with
  | none => rfl
  | some text =>
      have nonempty : text.isEmpty = false := by simpa using (segments text rfl).1
      simp [truthy, nonempty]

/-! ### The priority order -/

/-- The tool that was registered last among those that pass a test. -/
def latest (tools : List Tool) (accepts : Tool → Bool) : Option Tool :=
  tools.reverse.find? accepts

def isTool (owner : Owner) (name : String) (tool : Tool) : Bool :=
  tool.toOwner = owner && tool.name = name

/-- Without a username or without a project a tool is registered under its bare name. -/
def isBare (name : String) (tool : Tool) : Bool :=
  (tool.username.isNone || tool.project.isNone) && tool.name = name

/-- A tool of the name that belongs to the username and the project, and to the category
if one is given. -/
def isOwned (username project : String) (category : Option String) (name : String)
    (tool : Tool) : Bool :=
  tool.username = some username && tool.project = some project &&
    (category.isNone || tool.category = category) && tool.name = name

section Priority

variable (tools : List Tool) (username project : String) (category : Option String)
  (name : String)

def inCategory : Option Tool :=
  category.bind fun category => latest tools (isTool ⟨username, project, some category⟩ name)

/-- What now stands for the owned tool whose first registration came first. -/
def earliestOwned : Option Tool :=
  (tools.find? (isOwned username project category name)).bind fun first =>
    latest tools (isTool first.toOwner name)

def byPriority : Option Tool :=
  (inCategory tools username project category name).or
    ((latest tools (isTool ⟨username, project, none⟩ name)).or
      ((latest tools (isBare name)).or
        (earliestOwned tools username project category name)))

end Priority

theorem latest_congr {tools : List Tool} {first second : Tool → Bool}
    (same : ∀ tool ∈ tools, first tool = second tool) :
    latest tools first = latest tools second := by
  apply List.find?_congr
  intro tool member
  exact same tool (List.mem_reverse.mp member)

/-! ### Keys -/

/-- The segments of a key. -/
def segments (owner : Owner) (name : String) : List String :=
  match owner.username, owner.project, owner.category with
  | some username, some project, some category => [username, project, category, name]
  | some username, some project, none => [username, project, name]
  | _, _, _ => [name]

theorem key_eq_join {owner : Owner} (segmented : OwnerSegmented owner) (name : String) :
    owner.key name = join (segments owner name) := by
  rcases owner with ⟨username, project, category⟩
  have usernames := truthy_of_segments segmented.username
  have projects := truthy_of_segments segmented.project
  have categories := truthy_of_segments segmented.category
  simp only at usernames projects categories
  rw [Owner.key, segments]
  simp only [usernames, projects, categories]
  cases username <;> cases project <;> cases category <;>
    simp [join_cons, join_singleton, String.append_assoc]

theorem split_key {owner : Owner} (segmented : OwnerSegmented owner) {name : String}
    (named : IsSegment name) : split (owner.key name) = segments owner name := by
  rw [key_eq_join segmented]
  apply split_join
  · unfold segments
    split <;> simp
  · rcases owner with ⟨username, project, category⟩
    have usernames := fun text given => (segmented.username text given).2
    have projects := fun text given => (segmented.project text given).2
    have categories := fun text given => (segmented.category text given).2
    cases username <;> cases project <;> cases category <;>
      simp_all [segments, named.2]

theorem key_eq_iff {owner other : Owner} (segmented : OwnerSegmented owner)
    (segmented' : OwnerSegmented other) {name name' : String} (named : IsSegment name)
    (named' : IsSegment name') :
    owner.key name = other.key name' ↔ segments owner name = segments other name' := by
  rw [← split_key segmented named, ← split_key segmented' named']
  constructor
  · intro same
    rw [same]
  · intro same
    rw [← join_split (owner.key name), same, join_split]

/-- A key with an owner stands for one tool. -/
theorem segments_eq_owned {owner : Owner} {name : String} {username project : String}
    {category : Option String} {wanted : String} :
    segments owner name = segments ⟨some username, some project, category⟩ wanted ↔
      owner = ⟨some username, some project, category⟩ ∧ name = wanted := by
  rcases owner with ⟨_ | username', _ | project', _ | category'⟩ <;> cases category <;>
    simp [segments, and_assoc]

/-- A bare key stands for the tools without a full owner. -/
theorem segments_eq_bare {owner : Owner} {name wanted : String} :
    segments owner name = [wanted] ↔
      (owner.username = none ∨ owner.project = none) ∧ name = wanted := by
  rcases owner with ⟨_ | username, _ | project, _ | category⟩ <;> simp [segments]

/-! ### What the registries give -/

theorem candidates_of_segments {username project : String} {category : Option String}
    (caller : OwnerSegmented ⟨some username, some project, category⟩) (name : String) :
    candidates ⟨some username, some project, category⟩ name =
      (category.toList.map fun category =>
        Owner.key ⟨some username, some project, some category⟩ name) ++
        [Owner.key ⟨some username, some project, none⟩ name] := by
  have usernames := truthy_of_segments caller.username
  have projects := truthy_of_segments caller.project
  have categories := truthy_of_segments caller.category
  simp only at usernames projects categories
  have none_ : truthy none = none := rfl
  rw [candidates, tenant]
  cases category <;> simp [Owner.key, usernames, projects, categories, none_]

theorem admits_of_segments {username project : String} {category : Option String}
    (caller : OwnerSegmented ⟨some username, some project, category⟩) (tool : Tool) :
    admits ⟨some username, some project, category⟩ tool =
      (tool.username = some username && tool.project = some project &&
        (category.isNone || tool.category = category)) := by
  have usernames := truthy_of_segments caller.username
  have projects := truthy_of_segments caller.project
  have categories := truthy_of_segments caller.category
  simp only at usernames projects categories
  rw [admits, tenant, usernames, projects]
  simp only [categories]
  cases category <;> simp [beq_eq_decide]

theorem owner_of_admits {username project : String} {category : Option String}
    (caller : OwnerSegmented ⟨some username, some project, category⟩) {tool : Tool}
    (admitted : admits ⟨some username, some project, category⟩ tool = true) :
    ∃ part, tool.toOwner = ⟨some username, some project, part⟩ := by
  rw [admits_of_segments caller] at admitted
  simp only [Bool.and_eq_true, decide_eq_true_eq] at admitted
  rw [← admitted.1.1, ← admitted.1.2]
  exact ⟨tool.category, rfl⟩

theorem owner_eq_of_admits {username project : String} {category : Option String}
    (caller : OwnerSegmented ⟨some username, some project, category⟩) {tool other : Tool}
    (keys : segments other.toOwner other.name = segments tool.toOwner tool.name)
    (admitted : admits ⟨some username, some project, category⟩ tool = true) :
    other.toOwner = tool.toOwner := by
  rcases owner_of_admits caller admitted with ⟨part, owner⟩
  rw [owner] at keys ⊢
  exact (segments_eq_owned.mp keys).1

/-- Tools of one key are equal before the tests of a caller. -/
theorem admits_of_same_key {username project : String} {category : Option String}
    (caller : OwnerSegmented ⟨some username, some project, category⟩) {tool other : Tool}
    (segmented : ToolSegmented tool) (segmented' : ToolSegmented other)
    (same : other.key = tool.key) :
    admits ⟨some username, some project, category⟩ other =
      admits ⟨some username, some project, category⟩ tool := by
  have keys := (key_eq_iff segmented'.toOwnerSegmented segmented.toOwnerSegmented segmented'.name
    segmented.name).mp same
  rw [Bool.eq_iff_iff]
  constructor
  · intro admitted
    have owners := owner_eq_of_admits caller keys.symm admitted
    rw [admits_of_segments caller, owners, ← admits_of_segments caller]
    exact admitted
  · intro admitted
    have owners := owner_eq_of_admits caller keys admitted
    rw [admits_of_segments caller, owners, ← admits_of_segments caller]
    exact admitted

theorem findSome?_eq_bind_find? {Item : Type u} {Result : Type v} (items : List Item)
    (pick : Item → Option Result) :
    items.findSome? pick = (items.find? fun item => (pick item).isSome).bind pick := by
  induction items with
  | nil => rfl
  | cons item items induction =>
      rw [List.findSome?_cons, List.find?_cons, induction]
      cases picked : pick item <;> simp [picked]

theorem resolve_eq_or (registries : Registries) (toolName : String) (caller : Caller) :
    resolve registries toolName caller =
      ((candidates caller toolName).findSome? (lookUp registries)).or
        ((lookUp registries toolName).or (byName registries toolName caller)) := by
  rw [resolve]
  cases (candidates caller toolName).findSome? (lookUp registries) <;>
    cases lookUp registries toolName <;> rfl

theorem lookUp_of_resolve {registries : Registries} {toolName : String} {caller : Caller}
    {found : String × Tool} (resolved : resolve registries toolName caller = some found) :
    ∃ key, lookUp registries key = some found := by
  rw [resolve_eq_or, Option.or_eq_some_iff, Option.or_eq_some_iff] at resolved
  rcases resolved with candidate | ⟨_, bare | ⟨_, indexed⟩⟩
  · rcases List.exists_of_findSome?_eq_some candidate with ⟨key, _, stored⟩
    exact ⟨key, stored⟩
  · exact ⟨toolName, bare⟩
  · rcases List.exists_of_findSome?_eq_some indexed with ⟨key, _, stored⟩
    exact ⟨key, (Option.filter_eq_some_iff.mp stored).1⟩

theorem exists_latest {tools : List Tool} (accepts : Tool → Bool) {tool : Tool}
    (member : tool ∈ tools) (accepted : accepts tool = true) :
    ∃ other ∈ tools, latest tools accepts = some other ∧ accepts other = true := by
  have present : (latest tools accepts).isSome = true :=
    List.find?_isSome.mpr ⟨tool, List.mem_reverse.mpr member, accepted⟩
  rcases Option.isSome_iff_exists.mp present with ⟨other, found⟩
  have member' := List.mem_reverse.mp (List.mem_of_find?_eq_some found)
  exact ⟨other, member', found, List.find?_some found⟩

section Registered

variable {tools : List Tool} (segmented : ∀ tool ∈ tools, ToolSegmented tool)

theorem lookUp_registered (tools : List Tool) (key : String) :
    lookUp (tools.foldl Registries.registerTool {}) key =
      (latest tools fun tool => tool.key = key).map fun tool => (key, tool) := by
  have stored := get_built Tool.name (tools.map entry) key
  rw [← tables_registered, ← List.map_reverse, List.find?_map, Option.map_map] at stored
  change (tools.foldl Registries.registerTool {}).tools.get key = _ at stored
  rw [lookUp, stored, latest]
  have plain : Prod.snd ∘ entry = id := rfl
  rw [plain, Option.map_id]
  rfl

include segmented

theorem latest_owned {username project : String} {category : Option String}
    (caller : OwnerSegmented ⟨some username, some project, category⟩) {name : String}
    (named : IsSegment name) :
    (latest tools fun tool => tool.key = Owner.key ⟨some username, some project, category⟩ name) =
      latest tools (isTool ⟨some username, some project, category⟩ name) := by
  apply latest_congr
  intro tool member
  have one := segmented tool member
  have keys := key_eq_iff one.toOwnerSegmented caller one.name named
  rw [segments_eq_owned] at keys
  simp [isTool, Tool.key, keys]

theorem latest_bare {name : String} (named : IsSegment name) :
    (latest tools fun tool => tool.key = name) = latest tools (isBare name) := by
  apply latest_congr
  intro tool member
  have one := segmented tool member
  have bare : OwnerSegmented {} := by constructor <;> simp
  have keys := key_eq_iff one.toOwnerSegmented bare one.name named
  have plain : segments {} name = [name] := rfl
  have key : Owner.key {} name = name := rfl
  rw [plain, key, segments_eq_bare] at keys
  rw [Bool.eq_iff_iff]
  simp [isBare, Tool.key, keys]

/-- What the index gives for the key of a registered tool. -/
theorem filter_lookUp {username project : String} {category : Option String}
    (caller : OwnerSegmented ⟨some username, some project, category⟩) {tool : Tool}
    (member : tool ∈ tools) :
    ((lookUp (tools.foldl Registries.registerTool {}) tool.key).filter fun found =>
        admits ⟨some username, some project, category⟩ found.2) =
      if admits ⟨some username, some project, category⟩ tool then
        (latest tools fun other => other.key = tool.key).map fun other => (tool.key, other)
      else none := by
  rcases exists_latest (fun other => other.key = tool.key) member (by simp) with
    ⟨other, member', found, same⟩
  have admitted := admits_of_same_key caller (segmented tool member) (segmented other member')
    (by simpa using same)
  rw [lookUp_registered, found, Option.map_some, Option.filter_some]
  simp only [admitted]

/-- The index gives tools of the caller in the order of their first registrations. -/
theorem byName_registered {username project : String} {category : Option String}
    (caller : OwnerSegmented ⟨some username, some project, category⟩) {name : String}
    (named : IsSegment name) :
    (byName (tools.foldl Registries.registerTool {}) name
        ⟨some username, some project, category⟩).map Prod.snd =
      earliestOwned tools username project category name := by
  have listed := find_keysOf Tool.name (tools.map entry) name fun key =>
    ((lookUp (tools.foldl Registries.registerTool {}) key).filter fun found =>
      admits ⟨some username, some project, category⟩ found.2).isSome
  rw [← tables_registered, List.find?_map, Option.map_map] at listed
  have owned : tools.find? ((fun entry : String × Tool => decide (entry.2.name = name) &&
      ((lookUp (tools.foldl Registries.registerTool {}) entry.1).filter fun found =>
        admits ⟨some username, some project, category⟩ found.2).isSome) ∘ entry) =
      tools.find? (isOwned username project category name) := by
    apply List.find?_congr
    intro tool member
    rcases exists_latest (fun other => other.key = tool.key) member (by simp) with
      ⟨other, _, found, _⟩
    have given := filter_lookUp segmented caller member
    rw [found] at given
    simp only [Function.comp, entry, given]
    rw [isOwned, ← admits_of_segments caller, Bool.and_comm]
    congr 1
    split <;> simp_all
  have keysOf : ((tools.foldl Registries.registerTool {}).nameIndex.get name).getD [] =
    (tables (tools.foldl Registries.registerTool {})).keysOf name := rfl
  rw [byName, findSome?_eq_bind_find?, keysOf, listed, owned, earliestOwned]
  cases first : tools.find? (isOwned username project category name) with
  | none => rfl
  | some tool =>
      have member := List.mem_of_find?_eq_some first
      have passes := List.find?_some first
      rw [isOwned, ← admits_of_segments caller, Bool.and_eq_true, decide_eq_true_eq] at passes
      have given := filter_lookUp segmented caller member
      rw [if_pos passes.1] at given
      simp only [Option.map_some, Option.bind_some, Function.comp, entry, given]
      rcases owner_of_admits caller passes.1 with ⟨part, owner⟩
      have its := (segmented tool member).toOwnerSegmented
      rw [owner] at its
      rw [Option.map_map, Tool.key, owner, passes.2, latest_owned segmented its named]
      exact Option.map_id'

theorem nonempty_of_lookUp {key : String} {found : String × Tool}
    (stored : lookUp (tools.foldl Registries.registerTool {}) key = some found) :
    found.1 ≠ "" := by
  rw [lookUp_registered] at stored
  rcases Option.map_eq_some_iff.mp stored with ⟨tool, last, rfl⟩
  have member := List.mem_reverse.mp (List.mem_of_find?_eq_some last)
  have same : tool.key = key := by simpa using List.find?_some last
  intro empty
  have one := segmented tool member
  have parts := split_key one.toOwnerSegmented one.name
  change split tool.key = _ at parts
  simp only at empty
  rw [same, empty] at parts
  have single : segments tool.toOwner tool.name = [""] := parts.symm
  exact one.name.1 (segments_eq_bare.mp single).2

theorem map_lookUp {username project : String} {category : Option String}
    (caller : OwnerSegmented ⟨some username, some project, category⟩) {name : String}
    (named : IsSegment name) :
    (lookUp (tools.foldl Registries.registerTool {})
        (Owner.key ⟨some username, some project, category⟩ name)).map Prod.snd =
      latest tools (isTool ⟨some username, some project, category⟩ name) := by
  rw [lookUp_registered, Option.map_map, latest_owned segmented caller named]
  exact Option.map_id'

theorem found_registered {username project : String} {category : Option String}
    (caller : OwnerSegmented ⟨some username, some project, category⟩) {name : String}
    (named : IsSegment name) :
    found (tools.foldl Registries.registerTool {}) name
        ⟨some username, some project, category⟩ =
      byPriority tools username project category name := by
  have resolved : (resolve (tools.foldl Registries.registerTool {}) name
      ⟨some username, some project, category⟩).map Prod.snd =
        byPriority tools username project category name := by
    have plain : OwnerSegmented ⟨some username, some project, none⟩ :=
      ⟨caller.username, caller.project, by simp⟩
    have bare : (lookUp (tools.foldl Registries.registerTool {}) name).map Prod.snd =
        latest tools (isBare name) := by
      rw [lookUp_registered, Option.map_map, latest_bare segmented named]
      exact Option.map_id'
    rw [resolve_eq_or, Option.map_or, Option.map_or, bare, byName_registered segmented caller named,
      candidates_of_segments caller, byPriority, ← map_lookUp segmented plain named, inCategory,
      List.findSome?_append, List.findSome?_singleton, Option.map_or, Option.or_assoc]
    cases category with
    | none => rfl
    | some category =>
        rw [Option.bind_some, ← map_lookUp segmented caller named, Option.toList_some,
          List.map_singleton, List.findSome?_singleton]
  rw [← resolved, found]
  cases selected : resolve (tools.foldl Registries.registerTool {}) name
      ⟨some username, some project, category⟩ with
  | none => rfl
  | some selection =>
      rcases lookUp_of_resolve selected with ⟨key, stored⟩
      exact if_neg (nonempty_of_lookUp segmented stored)

end Registered

/-! ### The ownership check -/

theorem latest_spec {tools : List Tool} {accepts : Tool → Bool} {tool : Tool}
    (last : latest tools accepts = some tool) : accepts tool = true :=
  List.find?_some last

/-- A tool that is selected belongs to the caller or to nobody. -/
theorem owner_of_byPriority {tools : List Tool} {username project : String}
    {category : Option String} {name : String} {tool : Tool}
    (selected : byPriority tools username project category name = some tool) :
    (tool.username = some username ∧ tool.project = some project) ∨
      tool.username = none ∨ tool.project = none := by
  rw [byPriority, Option.or_eq_some_iff, Option.or_eq_some_iff, Option.or_eq_some_iff] at selected
  rcases selected with inside | ⟨_, plain | ⟨_, bare | ⟨_, owned⟩⟩⟩
  · rcases Option.bind_eq_some_iff.mp inside with ⟨part, _, last⟩
    have passes := latest_spec last
    simp only [isTool, Bool.and_eq_true, decide_eq_true_eq] at passes
    left
    rw [passes.1]
    exact ⟨rfl, rfl⟩
  · have passes := latest_spec plain
    simp only [isTool, Bool.and_eq_true, decide_eq_true_eq] at passes
    left
    rw [passes.1]
    exact ⟨rfl, rfl⟩
  · have passes := latest_spec bare
    simp only [isBare, Bool.and_eq_true, Bool.or_eq_true, Option.isNone_iff_eq_none] at passes
    exact Or.inr passes.1
  · rcases Option.bind_eq_some_iff.mp owned with ⟨first, earliest, last⟩
    have passes := latest_spec last
    have accepted := List.find?_some earliest
    simp only [isTool, Bool.and_eq_true, decide_eq_true_eq] at passes
    simp only [isOwned, Bool.and_eq_true, decide_eq_true_eq] at accepted
    left
    rw [passes.1]
    exact accepted.1.1

theorem refusal_of_byPriority {tools : List Tool} {username project : String}
    {category : Option String} (caller : OwnerSegmented ⟨some username, some project, category⟩)
    {name : String} {tool : Tool}
    (selected : byPriority tools username project category name = some tool) :
    refusal tool name ⟨some username, some project, category⟩ = none := by
  have usernames := truthy_of_segments caller.username
  have projects := truthy_of_segments caller.project
  simp only at usernames projects
  have missing : truthy none = none := rfl
  rcases owner_of_byPriority selected with ⟨owner, place⟩ | bare
  · simp [refusal, tenant, owner, place, usernames, projects]
  · have nobody : tenant tool.toOwner = none := by
      rcases bare with none_ | none_
      · simp [tenant, none_, missing]
      · rw [tenant, none_, missing]
        split <;> simp_all
    rw [refusal, nobody]

theorem exists_byPriority {tools : List Tool} {username project : String}
    {category : Option String} {name : String} {tool : Tool} (member : tool ∈ tools)
    (owned : isOwned username project category name tool = true) :
    ∃ selected, byPriority tools username project category name = some selected := by
  have present : (earliestOwned tools username project category name).isSome = true := by
    have first : (tools.find? (isOwned username project category name)).isSome = true :=
      List.find?_isSome.mpr ⟨tool, member, owned⟩
    rcases Option.isSome_iff_exists.mp first with ⟨earliest, found⟩
    have accepted := List.find?_some found
    simp only [isOwned, Bool.and_eq_true, decide_eq_true_eq] at accepted
    rcases exists_latest (isTool earliest.toOwner name) (List.mem_of_find?_eq_some found)
      (by simp [isTool, accepted.2]) with ⟨last, _, exists_, _⟩
    rw [earliestOwned, found, Option.bind_some, exists_]
    rfl
  apply Option.isSome_iff_exists.mp
  rw [byPriority, Option.isSome_or, Option.isSome_or, Option.isSome_or, present]
  simp

/-- What the call itself refuses is a `ValueError`; the run of a tool leaves none. -/
theorem execute_ne_valueError (host : Host) (tool : Tool) (arguments : Value) (message : String) :
    (execute host tool arguments).result ≠ .error (.valueError message) := by
  have answers : ∀ exc, answered host exc ≠ .error (.valueError message) := by
    intro exc
    rw [answered]
    split <;> simp
  have settles : ∀ outcome, settle host outcome ≠ .error (.valueError message) := by
    intro outcome
    cases outcome with
    | ok value => simp [settle]
    | error exc => exact answers exc
  rw [execute]
  simp only
  split
  · exact settles _
  · exact answers _

theorem resolution_follows_priority (tools : List Tool)
    (segmented : ∀ tool ∈ tools, ToolSegmented tool) (username project : String)
    (category : Option String)
    (owner : OwnerSegmented ⟨some username, some project, category⟩) (name : String)
    (named : IsSegment name) :
    let registries := tools.foldl Registries.registerTool {}
    let caller : Caller := ⟨some username, some project, category⟩
    found registries name caller = byPriority tools username project category name ∧
      (∀ tool, found registries name caller = some tool → refusal tool name caller = none) ∧
      ((∃ tool ∈ tools, isOwned username project category name tool = true) →
        ∀ host arguments message, (callToolDirect host registries name arguments caller).result ≠
          .error (.valueError message)) := by
  intro registries caller
  have selects : found registries name caller = byPriority tools username project category name :=
    found_registered segmented owner named
  have passes : ∀ tool, found registries name caller = some tool →
      refusal tool name caller = none := by
    intro tool selected
    rw [selects] at selected
    exact refusal_of_byPriority owner selected
  refine ⟨selects, passes, ?_⟩
  rintro ⟨tool, member, owned⟩ host arguments message
  rcases exists_byPriority member owned with ⟨selected, chosen⟩
  rw [← selects] at chosen
  rw [callToolDirect, chosen]
  simp only [passes selected chosen]
  exact execute_ne_valueError host selected arguments message

/-- The bare tool `add`, and that of the category `math`, which a second one has replaced. -/
def exampleRegistry : List Tool :=
  [{ exampleTool none "add" with username := none },
    { exampleTool (some "math") "add" with func := 1 },
    { exampleTool (some "math") "add" with func := 2 }]

theorem resolution_follows_priority_category :
    (found (exampleRegistry.foldl Registries.registerTool {}) "add"
      ⟨some "ann", some "demo", some "math"⟩).map Tool.func = some 2 := by
  have resolution := resolution_follows_priority exampleRegistry
    (by
      intro tool member
      simp only [exampleRegistry, List.mem_cons, List.not_mem_nil, or_false] at member
      rcases member with rfl | rfl | rfl <;>
        exact ⟨⟨by decide, by decide, by decide⟩, by decide⟩)
    "ann" "demo" (some "math") ⟨by decide, by decide, by decide⟩ "add" (by decide)
  rw [resolution.1]
  decide

end GrafuxMcp.ToolExecutor
