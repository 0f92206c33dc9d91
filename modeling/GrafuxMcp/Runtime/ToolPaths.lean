import GrafuxMcp.Foundation.PathMarkers
import GrafuxMcp.Runtime.ToolExecutor

/-! # Owners in tool paths

The paths of ports lie in `data/{username}/{project}/tools/{category}/{tool}/`. The
gateway reads the owner of a tool off such an argument, and the legacy route its category. -/

namespace GrafuxMcp.ToolExecutor

open GrafuxMcp PosixPath PluginLoader

/-! ### The parsers -/

/-- The category that a value of `infer_category_from_arguments` gives. -/
def categoryIn : Value → Option String
  | .str text => do
      let pieces ← cutAt "/tools/".toList (slashes text).toList
      let parts := split (String.ofList pieces.2)
      if 2 ≤ parts.length then parts[0]? else none
  | _ => none

def inferCategoryFromArguments (arguments : List (String × Value)) : Option String :=
  arguments.findSome? fun argument => categoryIn argument.2

/-- The segments of a value that the gateway takes for a path. -/
def pathIn : Value → Option (List String)
  | .str text =>
      if "data/".toList.isPrefixOf text.toList && contains text "/tools/" then some (split text)
      else none
  | _ => none

/-- `value or other`. -/
def orElse (value other : Option String) : Option String :=
  if (truthy value).isSome then value else other

/-- How `_handle_tools_call` completes the owner that a request gives. -/
def inferOwner (params : Owner) (arguments : List (String × Value)) : Owner :=
  match tenant params with
  | some _ => params
  | none =>
      match arguments.findSome? fun argument => pathIn argument.2 with
      | none => params
      | some parts =>
          let named :=
            if 4 ≤ parts.length then
              { params with
                username := orElse params.username parts[1]?
                project := orElse params.project parts[2]? }
            else params
          if 6 ≤ parts.length then
            { named with category := orElse params.category parts[4]? }
          else named

/-! ### The layout -/

/-- Not empty, and without a slash of either kind. -/
structure IsPart (text : String) : Prop where
  nonempty : text ≠ ""
  slash : '/' ∉ text.toList
  backslash : '\\' ∉ text.toList

structure PortPath where
  username : String
  project : String
  category : String
  tool : String
  suffix : List String

namespace PortPath

variable (path : PortPath)

def parts : List String :=
  "data" :: path.username :: path.project :: "tools" :: path.category :: path.tool :: path.suffix

structure WellFormed : Prop where
  username : IsPart path.username
  project : IsPart path.project
  category : IsPart path.category
  tool : IsPart path.tool
  suffix : path.suffix ≠ []
  rest : ∀ part ∈ path.suffix, '/' ∉ part.toList ∧ '\\' ∉ part.toList

end PortPath

inductive Separator
  | slash
  | backslash
  deriving DecidableEq

def Separator.letter : Separator → Char
  | .slash => '/'
  | .backslash => '\\'

def written (separator : Separator) (parts : List String) : String :=
  String.ofList ([separator.letter].intercalate (parts.map String.toList))

/-- The text is among the arguments, and no other one has `/tools/` or the like. -/
structure Carries (arguments : List (String × Value)) (text : String) : Prop where
  present : ∃ key, (key, .str text) ∈ arguments
  only : ∀ key other, (key, .str other) ∈ arguments →
    contains (slashes other) "/tools/" = true → other = text

/-- Both parsers read the path as it was made. -/
def Inverts (params : Owner) (arguments : List (String × Value)) (path : PortPath) : Prop :=
  inferOwner params arguments = ⟨some path.username, some path.project, some path.category⟩ ∧
    inferCategoryFromArguments arguments = some path.category

/-- The first `tools` behind another segment is that of the layout, or what stands behind
it happens to be the category. -/
def ReadsCategory (path : PortPath) : Prop :=
  if path.username = "tools" then path.project = path.category
  else path.project = "tools" → path.category = "tools"

/-! ### Texts -/

theorem written_slash (parts : List String) : written .slash parts = join parts :=
  rfl

theorem slashes_toList (text : String) :
    (slashes text).toList = text.toList.map fun letter => if letter = '\\' then '/' else letter := by
  rw [slashes, String.toList_map]

theorem map_slash_of_clean {text : List Char} (clean : '\\' ∉ text) :
    (text.map fun letter => if letter = '\\' then '/' else letter) = text := by
  have same : ∀ letter ∈ text, (if letter = '\\' then '/' else letter) = id letter := by
    intro letter member
    apply if_neg
    intro backslash
    rw [backslash] at member
    exact clean member
  rw [List.map_congr_left same, List.map_id]

theorem map_intercalate {First : Type u} {Second : Type v} (change : First → Second)
    (separator : First) (pieces : List (List First)) :
    ([separator].intercalate pieces).map change =
      [change separator].intercalate (pieces.map (List.map change)) := by
  induction pieces with
  | nil => rfl
  | cons piece pieces induction =>
      cases pieces with
      | nil => simp
      | cons next pieces =>
          rw [List.intercalate_cons_cons, List.map_append, induction, List.map_cons, List.map_cons,
            List.map_cons, List.intercalate_cons_cons, List.map_append]
          rfl

theorem slashes_written {parts : List String} (clean : ∀ part ∈ parts, '\\' ∉ part.toList)
    (separator : Separator) : slashes (written separator parts) = join parts := by
  apply String.toList_injective
  have letter : (if separator.letter = '\\' then '/' else separator.letter) = '/' := by
    cases separator <;> rfl
  rw [slashes_toList, written, String.toList_ofList, map_intercalate, letter, toList_join,
    List.map_map]
  congr 1
  apply List.map_congr_left
  intro part member
  exact map_slash_of_clean (clean part member)

theorem contains_slashes {text : String} (marked : contains text "/tools/" = true) :
    contains (slashes text) "/tools/" = true := by
  simp only [contains, decide_eq_true_eq] at marked ⊢
  rw [slashes_toList]
  have mapped := marked.map fun letter => if letter = '\\' then '/' else letter
  have same : "/tools/".toList.map (fun letter => if letter = '\\' then '/' else letter) =
      "/tools/".toList := by decide
  rw [same] at mapped
  exact mapped

theorem contains_of_cutAt {text : String} {pieces : List Char × List Char}
    (cut : cutAt "/tools/".toList text.toList = some pieces) :
    contains text "/tools/" = true := by
  simp only [contains, decide_eq_true_eq]
  exact ⟨pieces.1, pieces.2, (eq_of_cutAt cut).symm⟩

/-- What only one item can give, the search gives. -/
theorem findSome?_of_only {Item : Type u} {Result : Type v} {items : List Item} (item : Item)
    (pick : Item → Option Result) (member : item ∈ items)
    (only : ∀ other ∈ items, pick other = none ∨ pick other = pick item) :
    items.findSome? pick = pick item := by
  induction items with
  | nil => cases member
  | cons head items induction =>
      rw [List.findSome?_cons]
      cases picked : pick head with
      | some result =>
          rcases only head List.mem_cons_self with none_ | same
          · rw [picked] at none_
            cases none_
          · rw [← same, picked]
      | none =>
          have later := fun other member => only other (List.mem_cons_of_mem head member)
          rcases List.mem_cons.mp member with same | member
          · rw [same, picked]
            apply List.findSome?_eq_none_iff.mpr
            intro other member
            rcases later other member with none_ | equal
            · exact none_
            · rw [equal, same, picked]
          · exact induction member later

/-! ### What the parsers find -/

section Layout

variable {path : PortPath} (wellFormed : path.WellFormed)

include wellFormed

theorem clean_parts : ∀ part ∈ path.parts, '/' ∉ part.toList ∧ '\\' ∉ part.toList := by
  intro part member
  simp only [PortPath.parts, List.mem_cons] at member
  rcases member with rfl | rfl | rfl | rfl | rfl | rfl | member
  · decide
  · exact ⟨wellFormed.username.slash, wellFormed.username.backslash⟩
  · exact ⟨wellFormed.project.slash, wellFormed.project.backslash⟩
  · decide
  · exact ⟨wellFormed.category.slash, wellFormed.category.backslash⟩
  · exact ⟨wellFormed.tool.slash, wellFormed.tool.backslash⟩
  · exact wellFormed.rest part member

theorem split_join_parts : split (join path.parts) = path.parts :=
  split_join (by simp [PortPath.parts]) fun part member => (clean_parts wellFormed part member).1

omit wellFormed in
/-- What stands behind the first `tools` between two segments. -/
theorem cutSegments_parts : (cutSegments "tools" path.parts).map Prod.snd = some
    (if path.username = "tools" then
      path.project :: "tools" :: path.category :: path.tool :: path.suffix
    else if path.project = "tools" then "tools" :: path.category :: path.tool :: path.suffix
    else path.category :: path.tool :: path.suffix) := by
  rw [PortPath.parts, cutSegments]
  split
  · rfl
  · rw [cutSegments]
    split
    · rfl
    · rw [cutSegments, if_pos rfl]
      rfl

theorem categoryIn_written (separator : Separator) :
    categoryIn (.str (written separator path.parts)) = some
      (if path.username = "tools" then path.project
      else if path.project = "tools" then "tools" else path.category) := by
  have marker : "/tools/".toList = '/' :: ("tools".toList ++ ['/']) := by decide
  have clean := fun part member => (clean_parts wellFormed part member).1
  have cut := @cutSegments_parts path
  rw [categoryIn, slashes_written fun part member => (clean_parts wellFormed part member).2, marker,
    cutAt_join (by decide) clean]
  cases found : cutSegments "tools" path.parts with
  | none =>
      rw [found] at cut
      cases cut
  | some pieces =>
      rw [found, Option.map_some, Option.some.injEq] at cut
      have rest : pieces.2 <:+ path.parts := by
        rw [cut, PortPath.parts]
        split
        · exact (List.suffix_cons _ _).trans (List.suffix_cons _ _)
        · split
          · exact ((List.suffix_cons _ _).trans (List.suffix_cons _ _)).trans (List.suffix_cons _ _)
          · exact (((List.suffix_cons _ _).trans (List.suffix_cons _ _)).trans
              (List.suffix_cons _ _)).trans (List.suffix_cons _ _)
      have nonempty : pieces.2 ≠ [] := by
        rw [cut]
        split
        · simp
        · split <;> simp
      have segments : split (join pieces.2) = pieces.2 :=
        split_join nonempty fun part member => clean part (rest.subset member)
      simp only [Option.map_some, Option.bind_eq_bind, Option.bind_some, String.ofList_toList]
      rw [segments, cut]
      split
      · simp
      · split <;> simp

theorem pathIn_slash : pathIn (.str (written .slash path.parts)) = some path.parts := by
  have pieces := split_join_parts wellFormed
  have starts : "data/".toList.isPrefixOf (join path.parts).toList = true := by
    rw [PortPath.parts, toList_join_cons]
    rfl
  have marked : contains (join path.parts) "/tools/" = true := by
    have followed : Followed "tools" (path.username :: path.project :: "tools" :: path.category ::
        path.tool :: path.suffix) := by
      refine ⟨path.category, ?_⟩
      apply List.Sublist.cons
      apply List.Sublist.cons
      apply List.Sublist.cons_cons
      apply List.Sublist.cons_cons
      exact List.nil_sublist _
    have marker : "/" ++ "tools" ++ "/" = "/tools/" := by decide
    rw [← marker]
    exact contains_of_followed pieces followed
  rw [pathIn, written_slash, starts, marked, pieces]
  rfl

omit wellFormed in
theorem pathIn_backslash : pathIn (.str (written .backslash path.parts)) = none := by
  have starts : "data/".toList.isPrefixOf (written .backslash path.parts).toList = false := by
    have text : (written .backslash path.parts).toList =
        ['\\'].intercalate (path.parts.map String.toList) := String.toList_ofList
    rw [text, PortPath.parts, List.map_cons, List.map_cons, List.intercalate_cons_cons]
    rfl
  rw [pathIn, starts]
  rfl

end Layout

/-! ### The two inferences -/

section Arguments

variable {arguments : List (String × Value)} {text : String} (carries : Carries arguments text)

include carries

theorem findSome?_carries {Result : Type} {pick : Value → Option Result}
    (marked : ∀ value result, pick value = some result →
      ∃ other, value = .str other ∧ contains (slashes other) "/tools/" = true) :
    arguments.findSome? (fun argument => pick argument.2) = pick (.str text) := by
  rcases carries.present with ⟨key, member⟩
  apply findSome?_of_only (key, .str text) (fun argument => pick argument.2) member
  intro argument inside
  cases picked : pick argument.2 with
  | none => exact Or.inl rfl
  | some result =>
      right
      rcases marked argument.2 result picked with ⟨other, same, contained⟩
      rw [← picked, same, carries.only argument.1 other (by rw [← same]; exact inside) contained]

theorem inferCategory_eq :
    inferCategoryFromArguments arguments = categoryIn (.str text) := by
  apply findSome?_carries carries
  intro value category found
  cases value with
  | str other =>
      refine ⟨other, rfl, ?_⟩
      rw [categoryIn, Option.bind_eq_bind] at found
      rcases Option.bind_eq_some_iff.mp found with ⟨pieces, cut, _⟩
      exact contains_of_cutAt cut
  | none | bool | int | list | dict | object => cases found

theorem pathIn_eq :
    arguments.findSome? (fun argument => pathIn argument.2) = pathIn (.str text) := by
  apply findSome?_carries carries
  intro value parts found
  cases value with
  | str other =>
      refine ⟨other, rfl, ?_⟩
      rw [pathIn] at found
      split at found
      case isTrue both => exact contains_slashes (Bool.and_eq_true_iff.mp both).2
      case isFalse => cases found
  | none | bool | int | list | dict | object => cases found

end Arguments

/-- A path with slashes gives the gateway its owner. -/
theorem inferOwner_slash {params : Owner} (username : truthy params.username = none)
    (project : truthy params.project = none) (category : truthy params.category = none)
    {path : PortPath} (wellFormed : path.WellFormed) {arguments : List (String × Value)}
    (carries : Carries arguments (written .slash path.parts)) :
    inferOwner params arguments =
      ⟨some path.username, some path.project, some path.category⟩ := by
  have missing : tenant params = none := by rw [tenant, username]
  rw [inferOwner, missing, pathIn_eq carries, pathIn_slash wellFormed]
  simp [PortPath.parts, orElse, username, project, category]

theorem inferOwner_backslash {params : Owner} (username : truthy params.username = none)
    {path : PortPath} {arguments : List (String × Value)}
    (carries : Carries arguments (written .backslash path.parts)) :
    inferOwner params arguments = params := by
  have missing : tenant params = none := by rw [tenant, username]
  rw [inferOwner, missing, pathIn_eq carries, pathIn_backslash]

theorem parsers_agree_iff (params : Owner) (username : truthy params.username = none)
    (project : truthy params.project = none) (category : truthy params.category = none)
    (path : PortPath) (wellFormed : path.WellFormed) (separator : Separator)
    (arguments : List (String × Value))
    (carries : Carries arguments (written separator path.parts)) :
    Inverts params arguments path ↔ separator = .slash ∧ ReadsCategory path := by
  rw [Inverts, inferCategory_eq carries, categoryIn_written wellFormed, Option.some.injEq,
    ReadsCategory]
  cases separator with
  | slash =>
      rw [inferOwner_slash username project category wellFormed carries]
      split
      case isTrue => simp
      case isFalse =>
        split
        case isTrue isTools => simp [isTools, eq_comm]
        case isFalse other => simp [other]
  | backslash =>
      rw [inferOwner_backslash username carries]
      constructor
      · rintro ⟨same, _⟩
        rw [same] at username
        have nonempty := wellFormed.username.nonempty
        simp [truthy] at username
        exact absurd username nonempty
      · rintro ⟨slash, _⟩
        cases slash

def examplePath : PortPath where
  username := "ann"
  project := "demo"
  category := "math"
  tool := "add"
  suffix := ["inputs", "a.txt"]

theorem wellFormed_examplePath : examplePath.WellFormed := by
  constructor
  all_goals first | exact ⟨by decide, by decide, by decide⟩ | decide

theorem carries_single (text : String) : Carries [("a", .str text)] text := by
  refine ⟨⟨"a", List.mem_cons_self⟩, ?_⟩
  intro key other member _
  simp only [List.mem_singleton, Prod.mk.injEq, Value.str.injEq] at member
  exact member.2

theorem parsers_agree_example :
    Inverts {} [("a", .str (written .slash examplePath.parts))] examplePath := by
  have condition : ReadsCategory examplePath := by
    rw [ReadsCategory]
    decide
  exact (parsers_agree_iff {} rfl rfl rfl examplePath wellFormed_examplePath .slash _
    (carries_single _)).mpr ⟨rfl, condition⟩

theorem backslashes_not_inferred :
    ¬ ∀ (path : PortPath) (separator : Separator) (arguments : List (String × Value)),
      path.WellFormed → Carries arguments (written separator path.parts) →
        Inverts {} arguments path := by
  intro claimed
  have inverts := claimed examplePath .backslash _ wellFormed_examplePath (carries_single _)
  have nothing := @inferOwner_backslash {} rfl examplePath _ (carries_single _)
  rw [inverts.1] at nothing
  cases nothing

end GrafuxMcp.ToolExecutor
