import GrafuxMcp.Runtime.ToolResults

/-! # Whose code a call runs

The owner of a tool that was found is checked. Nothing checks where the source file lies
that the arguments name, which is run instead of the tool or for a name that no tool has. -/

namespace GrafuxMcp.ToolExecutor

open GrafuxMcp PosixPath PluginLoader

/-! ### The property -/

/-- `data/{username}/{project}` of the repository. -/
def Host.tenantTree (host : Host) (username project : String) : Location :=
  host.resolve (editablePath host ("data/" ++ username ++ "/" ++ project))

/-- The file lies in the tree of the caller. -/
def InOwnTree (host : Host) (caller : Caller) (file : Location) : Prop :=
  ∃ username project, tenant caller = some (username, project) ∧
    host.tenantTree username project <+: file ∧ file ≠ host.tenantTree username project

def MayRun (host : Host) (caller : Caller) : Code → Prop
  | .function tool => tenant tool.toOwner = none ∨ tenant tool.toOwner = tenant caller
  | .source file => InOwnTree host caller file

/-- The call runs no other code. -/
def RunsOwnCode (host : Host) (caller : Caller) (called : Called) : Prop :=
  ∀ code ∈ called.executed, MayRun host caller code

/-! ### The condition -/

section Executed

variable (host : Host) (registries : Registries) (toolName : String) (arguments : Value)
  (caller : Caller)

/-- No tool is found, or one that the caller may call. -/
def GoesOn : Prop :=
  ∀ tool, found registries toolName caller = some tool → refusal tool toolName caller = none

/-- The arguments name a file that can be read and compiled. -/
def Loadable (file : Location) : Prop :=
  (resolveEditablePath host arguments).result = .ok (some file) ∧
    (host.compile file).result = .ok ()

def EditsOwnCode : Prop :=
  GoesOn registries toolName caller → ∀ file, Loadable host arguments file →
    InOwnTree host caller file

/-- What a compilation or a function does within is not listed. -/
structure Host.ListsNothing : Prop where
  compile : ∀ file, (host.compile file).executed = []
  call : ∀ func value, (host.call func value).executed = []

end Executed

/-- The check of the owner. -/
theorem owner_of_refusal {tool : Tool} {toolName : String} {caller : Caller}
    (passes : refusal tool toolName caller = none) :
    tenant tool.toOwner = none ∨ tenant tool.toOwner = tenant caller := by
  unfold refusal at passes
  cases owner : tenant tool.toOwner with
  | none => exact Or.inl rfl
  | some owners =>
      right
      rw [owner] at passes
      cases callers : tenant caller with
      | none =>
          rw [callers] at passes
          cases passes
      | some callers' =>
          simp only [callers] at passes
          split at passes
          case isTrue same => rw [same]
          case isFalse => cases passes

/-! ### What is executed -/

section Loading

variable {host : Host} {registries : Registries} {toolName : String} {arguments : Value}
  {caller : Caller} {code : Code}

theorem executed_bind_of_ok {α β : Type} {first : Ran α} {next : α → Ran β} {value : α}
    (ends : first.result = .ok value) :
    (first >>= next).executed = first.executed ++ (next value).executed := by
  change (first.bind next).executed = _
  rw [Ran.bind, ends]

theorem executed_bind_of_error {α β : Type} {first : Ran α} {next : α → Ran β}
    {exc : ToolException} (ends : first.result = .error exc) :
    (first >>= next).executed = first.executed := by
  change (first.bind next).executed = _
  rw [Ran.bind, ends]

theorem map_executed {α β : Type} {first : Ran α} {change : α → β} :
    (change <$> first).executed = first.executed := by
  have mapped : change <$> first = first >>= fun value => pure (change value) := rfl
  rw [mapped]
  cases ends : first.result with
  | error exc => rw [executed_bind_of_error ends]
  | ok value =>
      rw [executed_bind_of_ok ends]
      exact List.append_nil _

theorem resolveEditablePath_executed :
    (resolveEditablePath host arguments).executed = [] := by
  unfold resolveEditablePath
  split
  · rfl
  · simp only
    split <;> rfl

/-- A source is executed once it is compiled, whatever then comes of it. -/
theorem mem_loadSource_executed (lists : host.ListsNothing) {file : Location} :
    code ∈ (loadSource host file).executed ↔
      (host.compile file).result = .ok () ∧ code = .source file := by
  unfold loadSource
  cases compiled : (host.compile file).result with
  | error exc =>
      rw [executed_bind_of_error compiled, lists.compile]
      simp
  | ok done =>
      rw [executed_bind_of_ok compiled, lists.compile, List.nil_append]
      have listed : (execSource host file).executed = [.source file] := rfl
      cases ran : (execSource host file).result with
      | error exc =>
          rw [executed_bind_of_error ran, listed, List.mem_singleton]
          simp
      | ok func =>
          rw [executed_bind_of_ok ran, listed]
          cases func with
          | none => simp [Ran.ofExcept]
          | some func => simp [pure, Ran.ofExcept]

theorem mem_loadEditableFunc_executed (lists : host.ListsNothing) :
    code ∈ (loadEditableFunc host arguments).executed ↔
      ∃ file, Loadable host arguments file ∧ code = .source file := by
  unfold loadEditableFunc Loadable
  cases resolved : (resolveEditablePath host arguments).result with
  | error exc =>
      rw [executed_bind_of_error resolved, resolveEditablePath_executed]
      simp
  | ok file =>
      rw [executed_bind_of_ok resolved, resolveEditablePath_executed, List.nil_append]
      cases file with
      | none => simp [pure, Ran.ofExcept]
      | some file =>
          simp only [map_executed, mem_loadSource_executed lists, Except.ok.injEq,
            Option.some.injEq]
          constructor
          · rintro ⟨compiled, same⟩
            exact ⟨file, ⟨rfl, compiled⟩, same⟩
          · rintro ⟨other, ⟨same, compiled⟩, equal⟩
            rw [same]
            exact ⟨compiled, equal⟩

/-- Besides the source that the arguments name, the function of the tool. -/
theorem mem_execute_executed (lists : host.ListsNothing) {tool : Tool}
    (executed : code ∈ (execute host tool arguments).executed) :
    (∃ file, Loadable host arguments file ∧ code = .source file) ∨ code = .function tool := by
  have listed : code ∈ (runTool host tool arguments).executed := executed
  unfold runTool at listed
  cases loaded : (loadEditableFunc host arguments).result with
  | error exc =>
      rw [executed_bind_of_error loaded] at listed
      exact Or.inl ((mem_loadEditableFunc_executed lists).mp listed)
  | ok func =>
      rw [executed_bind_of_ok loaded] at listed
      rcases List.mem_append.mp listed with source | called
      · exact Or.inl ((mem_loadEditableFunc_executed lists).mp source)
      · right
        split at called
        · rw [lists.call] at called
          cases called
        · exact List.mem_singleton.mp called

theorem mem_execute_executed_of_loadable (lists : host.ListsNothing) {tool : Tool}
    {file : Location} (loadable : Loadable host arguments file) :
    .source file ∈ (execute host tool arguments).executed := by
  have source : .source file ∈ (loadEditableFunc host arguments).executed :=
    (mem_loadEditableFunc_executed lists).mpr ⟨file, loadable, rfl⟩
  change .source file ∈ (runTool host tool arguments).executed
  unfold runTool
  cases loaded : (loadEditableFunc host arguments).result with
  | error exc =>
      rw [executed_bind_of_error loaded]
      exact source
  | ok func =>
      rw [executed_bind_of_ok loaded]
      exact List.mem_append_left _ source

theorem mem_callUnknown_executed (lists : host.ListsNothing) :
    code ∈ (callUnknown host toolName arguments).executed ↔
      ∃ file, Loadable host arguments file ∧ code = .source file := by
  rw [← mem_loadEditableFunc_executed lists]
  have nothing : ∀ other, (resolveEditablePath host arguments).result = other →
      (∀ file, other ≠ .ok (some file)) → code ∉ (loadEditableFunc host arguments).executed := by
    intro other resolved never listed
    rcases (mem_loadEditableFunc_executed lists).mp listed with ⟨file, loadable, _⟩
    exact never file (resolved.symm.trans loadable.1)
  have called : ∀ func, (callEditable host func arguments).executed = [] := by
    intro func
    unfold callEditable
    cases ran : (host.call func arguments).result with
    | error exc => rw [executed_bind_of_error ran, lists.call]
    | ok value =>
        rw [executed_bind_of_ok ran, lists.call]
        rfl
  unfold callUnknown
  cases resolved : (resolveEditablePath host arguments).result with
  | error exc =>
      have never := nothing _ resolved (by simp)
      simp [resolved, never]
  | ok file =>
      cases file with
      | none =>
          have never := nothing _ resolved (by simp)
          simp [resolved, never]
      | some file =>
          simp only [resolved]
          split
          · split
            · rfl
            · simp only [called, List.append_nil]
          · rfl

end Loading

/-- The call is over before anything is loaded, or it loads what the arguments name. -/
theorem runs_own_code_iff (host : Host) (lists : host.ListsNothing) (registries : Registries)
    (toolName : String) (arguments : Value) (caller : Caller) :
    RunsOwnCode host caller (callToolDirect host registries toolName arguments caller) ↔
      EditsOwnCode host registries toolName arguments caller := by
  unfold callToolDirect EditsOwnCode GoesOn
  cases selected : found registries toolName caller with
  | none =>
      constructor
      · intro own _ file loadable
        exact own _ ((mem_callUnknown_executed lists).mpr ⟨file, loadable, rfl⟩)
      · intro own code executed
        rcases (mem_callUnknown_executed lists).mp executed with ⟨file, loadable, same⟩
        rw [same]
        refine own ?_ file loadable
        intro tool impossible
        cases impossible
  | some tool =>
      cases refused : refusal tool toolName caller with
      | some message =>
          simp only [refused]
          constructor
          · intro _ goesOn
            have never := goesOn tool rfl
            rw [refused] at never
            cases never
          · intro _ code executed
            cases executed
      | none =>
          simp only [refused]
          have goesOn : ∀ other, some tool = some other → refusal other toolName caller = none := by
            intro other same
            rw [← Option.some.inj same]
            exact refused
          constructor
          · intro own _ file loadable
            exact own _ (mem_execute_executed_of_loadable lists loadable)
          · intro own code executed
            rcases mem_execute_executed lists executed with ⟨file, loadable, same⟩ | same
            · rw [same]
              exact own goesOn file loadable
            · rw [same]
              exact owner_of_refusal refused

/-- Every file is a tool in the required format. -/
def sourceHost : Host :=
  { exampleHost fun _ _ => .ofExcept (.ok .none) with
    isFile := fun _ => .ok true
    exec := fun _ => .ofExcept (.ok (some 7)) }

theorem sourceHost_listsNothing : sourceHost.ListsNothing :=
  ⟨fun _ => rfl, fun _ _ => rfl⟩

def editing (path : String) : Value :=
  .dict [("code", .str path)]

def ann : Caller := ⟨some "ann", some "demo", none⟩

theorem loadable_editing {path : String} {file : Location}
    (leads : editablePath sourceHost path = ⟨true, file⟩) (text : path.toList.all isSpace = false) :
    Loadable sourceHost (editing path) file := by
  refine ⟨?_, rfl⟩
  have named : codeArgument (editing path) = some path := by
    simp [codeArgument, editing, text]
  rw [resolveEditablePath, named]
  simp only [leads]
  rfl

theorem source_runs {path : String} {file : Location}
    (leads : editablePath sourceHost path = ⟨true, file⟩) (text : path.toList.all isSpace = false) :
    .source file ∈ (callToolDirect sourceHost {} "add" (editing path) ann).executed := by
  have unknown : found {} "add" ann = none := by decide
  rw [callToolDirect, unknown]
  exact (mem_callUnknown_executed sourceHost_listsNothing).mpr
    ⟨file, loadable_editing leads text, rfl⟩

theorem ann_tree : sourceHost.tenantTree "ann" "demo" = ["srv", "data", "ann", "demo"] := by
  decide +kernel

theorem runs_own_code_edited :
    .source ["srv", "data", "ann", "demo", "tools", "add.py"] ∈
        (callToolDirect sourceHost {} "add" (editing "data/ann/demo/tools/add.py") ann).executed ∧
      RunsOwnCode sourceHost ann
        (callToolDirect sourceHost {} "add" (editing "data/ann/demo/tools/add.py") ann) := by
  have leads : editablePath sourceHost "data/ann/demo/tools/add.py" =
      ⟨true, ["srv", "data", "ann", "demo", "tools", "add.py"]⟩ := by
    decide +kernel
  have text : "data/ann/demo/tools/add.py".toList.all isSpace = false := by decide
  refine ⟨source_runs leads text,
    (runs_own_code_iff sourceHost sourceHost_listsNothing {} "add" _ ann).mpr ?_⟩
  intro _ file loadable
  have same := loadable.1.symm.trans (loadable_editing leads text).1
  rw [Except.ok.injEq, Option.some.injEq] at same
  rw [same]
  refine ⟨"ann", "demo", rfl, ?_, ?_⟩
  · rw [ann_tree]
    decide
  · rw [ann_tree]
    decide

/-- The code of another user, for a name that no tool has. -/
theorem foreign_source_runs :
    ¬ ∀ host registries toolName arguments caller, Host.ListsNothing host →
      RunsOwnCode host caller (callToolDirect host registries toolName arguments caller) := by
  intro claimed
  have leads : editablePath sourceHost "data/bob/demo/tools/add.py" =
      ⟨true, ["srv", "data", "bob", "demo", "tools", "add.py"]⟩ := by
    decide +kernel
  have own := claimed sourceHost {} "add" (editing "data/bob/demo/tools/add.py") ann
    sourceHost_listsNothing _ (source_runs leads (by decide))
  rcases own with ⟨username, project, callers, within, _⟩
  have caller : tenant ann = some ("ann", "demo") := rfl
  rw [caller, Option.some.injEq, Prod.mk.injEq] at callers
  rw [← callers.1, ← callers.2, ann_tree] at within
  revert within
  decide

end GrafuxMcp.ToolExecutor
