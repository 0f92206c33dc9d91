import GrafuxMcp.Foundation.OrderedDict
import GrafuxMcp.Runtime.Exceptions
import Mathlib.Data.List.Basic

/-! # The purge of loaded modules

`reload_plugins` of `app/core/runtime/plugin_loader.py` deletes modules from `sys.modules`
before it loads the plugins again. It tells plugins apart by the shape of their names. -/

namespace GrafuxMcp.ModulePurge

open GrafuxMcp

/-- A module object. A plugin was loaded from a file under `data/` or `tools/`. -/
structure Module where
  identity : Nat
  isPlugin : Bool
deriving DecidableEq, Repr

/-- `sys.modules`. -/
abbrev Modules := OrderedDict Text Module

/-- `_SKIP`. -/
def skipped : List String :=
  ["google.", "vertexai.", "grpc.", "proto.", "boto", "botocore.", "flask.", "werkzeug.",
    "jinja2.", "requests.", "urllib3.", "pydantic.", "fastapi.", "uvicorn.", "starlette.",
    "anyio.", "sniffio.", "jwt.", "cryptography.", "stripe.", "httpx.", "httpcore.", "app."]

def isPurged (name : Text) : Bool :=
  name.contains '.' && !("_".toList.isPrefixOf name) &&
    !(skipped.any fun word => word.toList.isPrefixOf name) && 3 ≤ (name.splitOn '.').length

variable (modules : Modules)

/-- `to_del`. -/
def toDelete : List Text := (modules.items.map Prod.fst).filter isPurged

def purgeModules : Modules := (toDelete modules).foldl OrderedDict.pop modules

/-- An import registers a module under a name that is not taken. -/
def register (modules : Modules) (item : Text × Module) : Modules :=
  if (modules.get item.1).isSome then modules else modules.set item.1 item.2

/-- The purge, and the imports of the plugins that are loaded behind it. -/
def reloadModules (imports : List (Text × Module)) : Modules :=
  imports.foldl register (purgeModules modules)

/-! ### Names -/

theorem length_splitOn (c : Char) (text : Text) :
    (text.splitOn c).length = text.count c + 1 := by
  induction text with
  | nil => rfl
  | cons letter text induction =>
      rw [List.splitOn_cons_eq_if_modifyHead, List.count_cons]
      split
      · rw [List.length_cons, induction]
      · rw [List.length_modifyHead, induction, Nat.add_zero]

/-- Names of three segments or more are purged, but for those with a skipped beginning. -/
theorem isPurged_iff (name : Text) :
    isPurged name = true ↔ 2 ≤ name.count '.' ∧ ¬ ['_'] <+: name ∧
      ∀ word ∈ skipped, ¬ word.toList <+: name := by
  have segments := length_splitOn '.' name
  have dotted : 2 ≤ name.count '.' → '.' ∈ name := by
    intro several
    exact List.count_pos_iff.mp (by omega)
  have unskipped : (skipped.any fun word => word.toList.isPrefixOf name) = false ↔
      ∀ word ∈ skipped, ¬ word.toList <+: name := by
    simp only [List.any_eq_false, List.isPrefixOf_iff_prefix]
  have underscore : "_".toList.isPrefixOf name = false ↔ ¬ ['_'] <+: name := by
    rw [← List.isPrefixOf_iff_prefix, Bool.not_eq_true]
    rfl
  simp only [isPurged, Bool.and_eq_true, Bool.not_eq_true', decide_eq_true_eq,
    List.contains_iff_mem, unskipped, underscore, segments]
  constructor
  · intro purged
    rcases purged with ⟨⟨⟨-, front⟩, words⟩, several⟩
    exact ⟨by omega, front, words⟩
  · intro shape
    rcases shape with ⟨several, front, words⟩
    exact ⟨⟨⟨dotted several, front⟩, words⟩, by omega⟩

/-! ### The table -/

variable {modules}

theorem get_foldl_pop (names : List Text) (name : Text) :
    (names.foldl OrderedDict.pop modules).get name =
      if name ∈ names then none else modules.get name := by
  induction names generalizing modules with
  | nil => simp
  | cons first names induction =>
      rw [List.foldl_cons, induction, OrderedDict.get_pop]
      by_cases inside : name ∈ names
      · simp [inside]
      · by_cases same : name = first <;> simp [inside, same]

/-- The purge takes the names of its shape out, and no other. -/
theorem get_purgeModules (name : Text) :
    (purgeModules modules).get name = if isPurged name then none else modules.get name := by
  rw [purgeModules, get_foldl_pop]
  by_cases shape : isPurged name = true
  · rw [if_pos shape]
    split
    · rfl
    · rename_i absent
      cases found : modules.get name with
      | none => rfl
      | some module =>
          have present := List.mem_map_of_mem (f := Prod.fst) (OrderedDict.mem_of_get found)
          exact absurd (List.mem_filter.mpr ⟨present, shape⟩) absent
  · have absent : name ∉ toDelete modules := fun member => shape (List.mem_filter.mp member).2
    rw [if_neg absent, if_neg shape]

theorem get_register_of_get {name : Text} {module : Module} {item : Text × Module}
    (found : modules.get name = some module) : (register modules item).get name = some module := by
  rw [register]
  split
  · exact found
  · rename_i free
    have different : name ≠ item.1 := by
      intro same
      rw [← same, found] at free
      exact free rfl
    rw [OrderedDict.get_set, if_neg different, found]

/-- Imports leave the modules that are registered. -/
theorem get_foldl_register (imports : List (Text × Module)) {name : Text} {module : Module}
    (found : modules.get name = some module) :
    (imports.foldl register modules).get name = some module := by
  induction imports generalizing modules with
  | nil => exact found
  | cons item imports induction => exact induction (get_register_of_get found)

/-! ### What stays -/

/-- Modules that are no plugins stay registered, whatever the plugins import. -/
def KeepsOthers (modules : Modules) : Prop :=
  ∀ imports name module, modules.get name = some module → module.isPlugin = false →
    (reloadModules modules imports).get name = some module

/-- The others stay just where none of them has a name of the shape that is purged. -/
theorem keepsOthers_iff (modules : Modules) :
    KeepsOthers modules ↔
      ∀ name module, modules.get name = some module → module.isPlugin = false →
        name.count '.' < 2 ∨ ['_'] <+: name ∨ ∃ word ∈ skipped, word.toList <+: name := by
  have spared : ∀ name : Text, isPurged name = false ↔
      name.count '.' < 2 ∨ ['_'] <+: name ∨ ∃ word ∈ skipped, word.toList <+: name := by
    intro name
    rw [← Bool.not_eq_true, isPurged_iff]
    simp only [not_and_or, Nat.not_le, not_not, not_forall, exists_prop]
  constructor
  · intro keeps name module found other
    have kept := keeps [] name module found other
    rw [reloadModules, List.foldl_nil, get_purgeModules] at kept
    rw [← spared]
    by_contra purged
    rw [if_pos (by simpa using purged)] at kept
    cases kept
  · intro shapes imports name module found other
    have kept : (purgeModules modules).get name = some module := by
      rw [get_purgeModules, (spared name).mpr (shapes name module found other)]
      exact found
    exact get_foldl_register imports kept

/-- The standard library after `import email.mime.text`. -/
def mimeModules : Modules where
  items := [("email.mime.text".toList, ⟨0, false⟩)]
  nodup := List.nodup_singleton _

theorem mime_purged : ¬ ∀ modules, KeepsOthers modules := by
  intro keeps
  have kept := keeps mimeModules [] "email.mime.text".toList ⟨0, false⟩
  have purged : (reloadModules mimeModules []).get "email.mime.text".toList = none := by decide
  rw [purged] at kept
  cases kept rfl rfl

end GrafuxMcp.ModulePurge
