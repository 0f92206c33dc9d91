import GrafuxMcp.Runtime.PluginLoader
import Mathlib.Data.List.Induction

/-! # One bad plugin file

A file that does not load should be recorded and passed over. What a file can raise
beyond what the two `except` clauses of the loop catch, or a directory that cannot be
walked, ends the whole walk. -/

namespace GrafuxMcp.PluginLoader

open GrafuxMcp Stateful

/-! ### The files of the tree -/

structure PluginFile where
  owner : Owner
  path : Path
  deriving DecidableEq, Repr

section Files

variable (host : Host)

/-- A directory that cannot be listed has no directories that could be walked. -/
def Host.subdirectories (parent : Path) : List String :=
  (host.directories parent).toOption.getD []

def directoryFiles (owner : Owner) (base : Path) : List PluginFile :=
  (host.pluginNames base).map fun name => ⟨owner, base ++ [name]⟩

def toolFiles (username project category : String) (directory : Path) : List PluginFile :=
  let references := directory ++ ["references"]
  if host.pathExists references = .ok true then
    directoryFiles host ⟨username, project, category⟩ references
  else []

def projectFiles (username project : String) : List PluginFile :=
  let tools := dataRoot ++ [username, project, "tools"]
  if host.pathExists tools = .ok true then
    (host.subdirectories tools).flatMap fun category =>
      (host.subdirectories (tools ++ [category])).flatMap fun tool =>
        toolFiles host username project category (tools ++ [category, tool])
  else []

def systemFiles : List PluginFile :=
  if host.pathExists toolsRoot = .ok true then directoryFiles host {} toolsRoot else []

/-- The plugin files of both trees, in the order in which they are loaded. -/
def pluginFiles : List PluginFile :=
  systemFiles host ++ (host.subdirectories dataRoot).flatMap fun username =>
    (host.subdirectories (dataRoot ++ [username])).flatMap (projectFiles host username)

end Files

/-! ### What a file does -/

/-- How far a file gets: what `read_text` or `compile` raises before its body runs. -/
def refusal (host : Host) (file : Path) : Option Exc :=
  match host.readBytes file with
  | .error message => some ⟨.OSError, message⟩
  | .ok bytes =>
      match String.fromUTF8? bytes with
      | none => some ⟨.UnicodeDecodeError, "'utf-8' codec can't decode"⟩
      | some source => host.compile source

/-- The bytes of the file are not valid UTF-8, its source does not compile, or its
body raises. -/
def Failing (host : Host) (file : Path) : Prop :=
  match host.readBytes file with
  | .error _ => False
  | .ok bytes =>
      match String.fromUTF8? bytes with
      | none => True
      | some source =>
          (host.compile source).isSome = true ∨ (host.execModule file).raised.isSome = true

/-- Neither `except` clause of the loop catches what the file raises. -/
def Escapes (host : Host) (file : Path) : Prop :=
  match refusal host file with
  | some exc => exc.isinstance .SyntaxError = false
  | none =>
      match (host.execModule file).raised with
      | some exc => exc.isException = false
      | none => False

def toolOf (owner : Owner) : Registration → Option Tool
  | .tool tool => some (owner.own tool)
  | .resource _ | .prompt _ _ => none

/-- The tools that the body of a file registers. -/
def fileTools (host : Host) (file : PluginFile) : List Tool :=
  match refusal host file.path with
  | some _ => []
  | none => (host.execModule file.path).registrations.filterMap (toolOf file.owner)

def fileErrors (host : Host) (file : PluginFile) : List PluginError :=
  match refusal host file.path with
  | some exc => [⟨host.str file.path, exc.message⟩]
  | none =>
      match (host.execModule file.path).raised with
      | some exc => [⟨host.str file.path, exc.message⟩]
      | none => []

/-! ### The property -/

/-- Every tool of a file that does not fail is registered, under a key that stands for
the last tool of this load that has it, and every failing file is in `PLUGIN_ERRORS`. -/
structure Intact (host : Host) (registries : Registries) : Prop where
  tools : ∀ file ∈ pluginFiles host, ¬ Failing host file.path → ∀ tool ∈ fileTools host file,
    ∃ last ∈ (pluginFiles host).flatMap (fileTools host),
      last.key = tool.key ∧ registries.tools.get tool.key = some last
  errors : ∀ file ∈ pluginFiles host, Failing host file.path →
    ∃ error ∈ registries.pluginErrors, error.file = host.str file.path

/-- Loading and reloading return normally and leave the registries intact, and the
flag is set however a reload ends. -/
structure Unharmed (host : Host) (before : Registries) : Prop where
  loads : ((loadPlugins host).run.run before).1.isOk = true
  loaded : Intact host ((loadPlugins host).run.run before).2
  reloads : ((reloadPlugins host).run.run before).1.isOk = true
  reloaded : Intact host ((reloadPlugins host).run.run before).2
  flag : ((reloadPlugins host).run.run before).2.pluginsLoaded = true

/-! ### The condition -/

section Walk

variable (host : Host)

/-- `parent` can be listed, and `ok` holds of its directories. -/
def Each (parent : Path) (ok : String → Prop) : Prop :=
  ∃ names, host.directories parent = .ok names ∧ ∀ name ∈ names, ok name

/-- It can be told whether the path exists, and `ok` holds if it does. -/
def IfExists (path : Path) (ok : Prop) : Prop :=
  ∃ found, host.pathExists path = .ok found ∧ (found = true → ok)

/-- The walk finds its way through a project when `ok` holds of the directories
called `references`. -/
def ProjectWalked (ok : Path → Prop) (username project : String) : Prop :=
  let tools := dataRoot ++ [username, project, "tools"]
  IfExists host tools <| Each host tools fun category =>
    Each host (tools ++ [category]) fun tool =>
      let references := tools ++ [category, tool, "references"]
      IfExists host references (ok references)

/-- The walk finds its way through both trees; whether `data/` itself can be listed
does not matter. -/
def Walked (ok : Path → Prop) : Prop :=
  IfExists host toolsRoot (ok toolsRoot) ∧
    (∃ found, host.pathExists dataRoot = .ok found ∧
      (found = false → (host.mkdir dataRoot).isOk = true)) ∧
    ∀ username ∈ host.subdirectories dataRoot,
      Each host (dataRoot ++ [username]) (ProjectWalked host ok username)

/-- No exception of a file leaves the loop over its directory. -/
def DirectoryContained (base : Path) : Prop :=
  ∀ name ∈ host.pluginNames base, ¬ Escapes host (base ++ [name])

end Walk

/-! ### What the walk does -/

section Loading

variable {host : Host} {owner : Owner} {registries : Registries}

def afterFile (host : Host) (registries : Registries) (file : PluginFile) : Registries :=
  match refusal host file.path with
  | some exc => registries.addError ⟨host.str file.path, exc.message⟩
  | none =>
      let execution := host.execModule file.path
      let executed := execution.registrations.foldl (register file.owner) registries
      match execution.raised with
      | some exc => executed.addError ⟨host.str file.path, exc.message⟩
      | none => executed

def afterFiles (host : Host) (files : List PluginFile) (registries : Registries) : Registries :=
  files.foldl (afterFile host) registries

theorem ends_osCall {α : Type} {call : Except String α} {value : α} (ok : call = .ok value) :
    Ends (osCall call) (.ok value) id := by
  rw [ok]
  exact ends_pure value

theorem ends_osCall_error {α : Type} {call : Except String α} {message : String}
    (error : call = .error message) : Ends (osCall call) (.error ⟨.OSError, message⟩) id := by
  rw [error]
  exact ends_throw _

theorem ends_readText (file : Path) :
    Ends (readText host file)
      (match host.readBytes file with
        | .error message => .error ⟨.OSError, message⟩
        | .ok bytes =>
            match String.fromUTF8? bytes with
            | none => .error ⟨.UnicodeDecodeError, "'utf-8' codec can't decode"⟩
            | some source => .ok source) id := by
  unfold readText
  cases read : host.readBytes file with
  | error message => exact ends_bind_error (ends_osCall_error rfl)
  | ok bytes =>
      apply ends_bind_read (ends_osCall rfl)
      simp only []
      cases String.fromUTF8? bytes with
      | none => exact ends_throw _
      | some source => exact ends_pure source

theorem ends_compile (source : String) :
    Ends (compile host source) ((host.compile source).elim (.ok ⟨⟩) .error) id := by
  unfold compile
  cases host.compile source with
  | none => exact ends_pure _
  | some exc => exact ends_throw exc

/-- The body of the first `try` of the loop. -/
theorem ends_compiled (host : Host) (file : Path) :
    Ends (do
      let source ← readText host file
      compile host source
      return true : Load Bool)
      ((refusal host file).elim (.ok true) .error) id := by
  have text : Ends (readText host file) _ id := ends_readText file
  unfold refusal
  cases read : host.readBytes file with
  | error message =>
      rw [read] at text
      exact ends_bind_error text
  | ok bytes =>
      rw [read] at text
      simp only [] at text ⊢
      cases decoded : String.fromUTF8? bytes with
      | none =>
          rw [decoded] at text
          exact ends_bind_error text
      | some source =>
          rw [decoded] at text
          apply ends_bind_read text
          have compiles : Ends (compile host source) _ id := ends_compile source
          cases compiled : host.compile source with
          | none =>
              simp only [compiled] at compiles ⊢
              exact ends_bind_read compiles (ends_pure _)
          | some exc =>
              simp only [compiled] at compiles ⊢
              exact ends_bind_error compiles

theorem ends_execModule (file : Path) :
    Ends (execModule host owner file) ((host.execModule file).raised.elim (.ok ⟨⟩) .error)
      fun registries => (host.execModule file).registrations.foldl (register owner) registries := by
  apply ends_bind_last (ends_modify _)
  cases (host.execModule file).raised with
  | none => exact ends_pure _
  | some exc => exact ends_throw exc

theorem ends_checkSource_none {file : Path} (refused : refusal host file = none) :
    Ends (checkSource host file) (.ok true) id := by
  have body : Ends _ _ id := ends_compiled host file
  rw [refused] at body
  exact ends_tryCatch body

theorem ends_checkSource_some {file : Path} {exc : Exc} (refused : refusal host file = some exc)
    (syntaxError : exc.isinstance .SyntaxError = true) :
    Ends (checkSource host file) (.ok false)
      fun registries => registries.addError ⟨host.str file, exc.message⟩ := by
  have body : Ends _ _ id := ends_compiled host file
  rw [refused] at body
  apply ends_tryCatch_handler body
  simp only [syntaxError, if_true]
  exact ends_bind_last (ends_modify _) (ends_pure false)

theorem raises_checkSource {file : Path} {exc : Exc} (refused : refusal host file = some exc)
    (uncaught : exc.isinstance .SyntaxError = false) :
    Ends (checkSource host file) (.error exc) id := by
  have body : Ends _ _ id := ends_compiled host file
  rw [refused] at body
  apply ends_tryCatch_handler body
  simp only [uncaught, Bool.false_eq_true, if_false]
  exact ends_throw exc

theorem returnsIff_runModule (host : Host) (owner : Owner) (file : Path) :
    ReturnsIff (runModule host owner file)
      (∀ exc, (host.execModule file).raised = some exc → exc.isException = true)
      fun registries =>
        let executed := (host.execModule file).registrations.foldl (register owner) registries
        match (host.execModule file).raised with
        | some exc => executed.addError ⟨host.str file, exc.message⟩
        | none => executed := by
  let run (registries : Registries) :=
    (host.execModule file).registrations.foldl (register owner) registries
  have body : Ends (execModule host owner file) _ run := ends_execModule file
  cases raised : (host.execModule file).raised with
  | none =>
      rw [raised] at body
      constructor
      · exact fun _ => ends_tryCatch body
      · simp
  | some exc =>
      rw [raised] at body
      constructor
      · intro caught
        change Ends _ _
          ((fun registries => registries.addError ⟨host.str file, exc.message⟩) ∘ run)
        apply ends_tryCatch_error body
        simp only [caught exc rfl, if_true]
        exact ends_modify _
      · intro escaped
        have uncaught : exc.isException = false := by simpa using escaped
        refine ⟨exc, id ∘ run, ?_⟩
        apply ends_tryCatch_error body
        simp only [uncaught, Bool.false_eq_true, if_false]
        exact ends_throw exc

theorem returnsIff_loadFile (host : Host) (owner : Owner) (file : Path) :
    ReturnsIff (loadFile host owner file) (¬ Escapes host file)
      fun registries => afterFile host registries ⟨owner, file⟩ := by
  unfold loadFile Escapes afterFile
  cases refused : refusal host file with
  | some exc =>
      simp only []
      cases syntaxError : exc.isinstance .SyntaxError with
      | true =>
          constructor
          · intro _
            exact ends_bind_last (ends_checkSource_some refused syntaxError) (ends_pure _)
          · simp
      | false =>
          constructor
          · simp
          · intro _
            exact ⟨exc, id, ends_bind_error (raises_checkSource refused syntaxError)⟩
  | none =>
      have checked : Ends (checkSource host file) (.ok true) id := ends_checkSource_none refused
      have runs := returnsIff_runModule host owner file
      constructor
      · intro contained
        apply ends_bind_read checked
        apply runs.returns
        intro exc raised
        simpa [raised] using contained
      · intro escaped
        obtain ⟨exc, change, raises⟩ := runs.raises (by
          intro caught
          apply escaped
          cases raised : (host.execModule file).raised with
          | none => simp
          | some exc => simp [caught exc raised])
        exact ⟨exc, change, ends_bind_read checked raises⟩

theorem returnsIff_loadDirectory (base : Path) :
    ReturnsIff (loadDirectory host base owner) (DirectoryContained host base)
      (afterFiles host (directoryFiles host owner base)) := by
  have loop : ReturnsIff (loadDirectory host base owner) _ _ :=
    returnsIff_forM (host.pluginNames base) fun name _ =>
      returnsIff_loadFile host owner (base ++ [name])
  apply loop.congr Iff.rfl
  intro _
  funext registries
  rw [afterFiles, directoryFiles, List.foldl_map]

/-- A call of the system comes first. -/
theorem returnsIff_osCall {α : Type} {call : Except String α} {next : α → Load Unit}
    {ok : α → Prop} {change : Registries → Registries}
    (rest : ∀ value, call = .ok value → ReturnsIff (next value) (ok value) change) :
    ReturnsIff (osCall call >>= next) (∃ value, call = .ok value ∧ ok value) change := by
  cases called : call with
  | error message =>
      constructor
      · rintro ⟨value, impossible, -⟩
        cases impossible
      · intro _
        exact ⟨⟨.OSError, message⟩, id, ends_bind_error (ends_osCall_error rfl)⟩
  | ok value =>
      have spec := rest value called
      constructor
      · rintro ⟨value', same, holds⟩
        cases same
        exact ends_bind_read (ends_osCall rfl) (spec.returns holds)
      · intro fails
        have broken : ¬ ok value := fun holds => fails ⟨value, rfl, holds⟩
        obtain ⟨exc, change, raises⟩ := spec.raises broken
        exact ⟨exc, change, ends_bind_read (ends_osCall rfl) raises⟩

theorem returnsIff_ifExists {path : Path} {body : Load Unit} {ok : Prop}
    {files : List PluginFile} (spec : ReturnsIff body ok (afterFiles host files)) :
    ReturnsIff (do if ← osCall (host.pathExists path) then body) (IfExists host path ok)
      (afterFiles host (if host.pathExists path = .ok true then files else [])) := by
  apply returnsIff_osCall
  intro found same
  cases found with
  | true =>
      simp only [same, if_true]
      exact spec.congr (by simp) fun _ => rfl
  | false =>
      simp only [same]
      apply returnsIff_pure.congr
      · simp
      · exact fun _ => rfl

theorem visible_cons_of_error {parent : Path} {name message : String} (names : List String)
    (failed : host.isDir (parent ++ [name]) = .error message) :
    host.visible parent (name :: names) = .error message := by
  rw [Host.visible, failed]
  rfl

theorem visible_cons_of_ok {parent : Path} {name : String} {isDir : Bool} (names : List String)
    (examined : host.isDir (parent ++ [name]) = .ok isDir) :
    host.visible parent (name :: names) = (host.visible parent names).map fun rest =>
      if isDir && !name.startsWith "." then name :: rest else rest := by
  rw [Host.visible, examined]
  rfl

theorem afterFiles_append (files more : List PluginFile) :
    afterFiles host (files ++ more) = afterFiles host more ∘ afterFiles host files := by
  funext registries
  exact List.foldl_append

/-- The rest of the listing, from one of its names on. -/
theorem returnsIff_visible (parent : Path) {body : String → Load Unit} {ok : String → Prop}
    {files : String → List PluginFile}
    (turns : ∀ name, ReturnsIff (body name) (ok name) (afterFiles host (files name)))
    (names : List String) :
    ReturnsIff (names.forM fun name => do
        let isDir ← osCall (host.isDir (parent ++ [name]))
        if isDir && !name.startsWith "." then
          body name)
      (∃ dirs, host.visible parent names = .ok dirs ∧ ∀ name ∈ dirs, ok name)
      (afterFiles host (((host.visible parent names).toOption.getD []).flatMap files)) := by
  induction names with
  | nil =>
      apply returnsIff_pure.congr
      · simp [Host.visible, pure, Except.pure]
      · exact fun _ => rfl
  | cons name names induction =>
      cases examined : host.isDir (parent ++ [name]) with
      | error message =>
          constructor
          · rintro ⟨dirs, impossible, -⟩
            rw [visible_cons_of_error names examined] at impossible
            cases impossible
          · intro _
            exact ⟨⟨.OSError, message⟩, id,
              ends_bind_error (ends_bind_error (ends_osCall_error examined))⟩
      | ok isDir =>
          -- the turn of the loop for this name
          have turn : ReturnsIff (do
              let isDir ← osCall (host.isDir (parent ++ [name]))
              if isDir && !name.startsWith "." then
                body name)
              (∃ isDir, host.isDir (parent ++ [name]) = .ok isDir ∧
                ((isDir && !name.startsWith ".") = true → ok name))
              (if isDir && !name.startsWith "." then afterFiles host (files name) else id) := by
            apply returnsIff_osCall
            intro isDir' same
            obtain rfl : isDir' = isDir := by simpa [examined] using same.symm
            split
            · exact (turns name).congr (by simp [*]) fun _ => rfl
            · exact returnsIff_pure.congr (by simp [*]) fun _ => rfl
          rw [visible_cons_of_ok names examined]
          apply (returnsIff_bind turn induction).congr
          · generalize name.startsWith "." = hidden
            cases isDir <;> cases hidden <;> cases host.visible parent names <;>
              simp [examined, Except.map]
          · rintro ⟨dirs, listed, -⟩
            cases rest : host.visible parent names with
            | error message =>
                rw [rest] at listed
                cases listed
            | ok rest =>
                cases isDir && !name.startsWith "." with
                | true => simp [Except.map, Except.toOption, afterFiles_append]
                | false => rfl

theorem returnsIff_forDirectories (parent : Path) {body : String → Load Unit}
    {ok : String → Prop} {files : String → List PluginFile}
    (turns : ∀ name, ReturnsIff (body name) (ok name) (afterFiles host (files name))) :
    ReturnsIff (forDirectories host parent body) (Each host parent ok)
      (afterFiles host ((host.subdirectories parent).flatMap files)) := by
  unfold Each Host.subdirectories Host.directories
  cases listed : host.iterdir parent with
  | error message =>
      constructor
      · rintro ⟨names, impossible, -⟩
        cases impossible
      · intro _
        exact ⟨⟨.OSError, message⟩, id, ends_bind_error (ends_osCall_error listed)⟩
  | ok names =>
      have loop := returnsIff_visible parent turns names
      constructor
      · intro holds
        exact ends_bind_read (ends_osCall listed) (loop.returns holds)
      · intro fails
        obtain ⟨exc, change, raises⟩ := loop.raises fails
        exact ⟨exc, change, ends_bind_read (ends_osCall listed) raises⟩

theorem returnsIff_loadProject (host : Host) (username project : String) :
    ReturnsIff (loadProject host username project)
      (ProjectWalked host (DirectoryContained host) username project)
      (afterFiles host (projectFiles host username project)) := by
  apply returnsIff_ifExists
  apply returnsIff_forDirectories
  intro category
  apply returnsIff_forDirectories
  intro tool
  apply returnsIff_ifExists
  exact returnsIff_loadDirectory _

theorem returnsIff_makeDataRoot :
    ReturnsIff (makeDataRoot host)
      (∃ found, host.pathExists dataRoot = .ok found ∧
        (found = false → (host.mkdir dataRoot).isOk = true)) id := by
  apply returnsIff_osCall
  intro found _
  cases found with
  | true => exact returnsIff_pure.congr (by simp) fun _ => rfl
  | false =>
      cases made : host.mkdir dataRoot with
      | error message =>
          constructor
          · simp [Except.isOk, Except.toBool]
          · exact fun _ => ⟨_, id, ends_osCall_error rfl⟩
      | ok value =>
          constructor
          · exact fun _ => ends_osCall rfl
          · simp [Except.isOk, Except.toBool]

/-- An error of the listing is caught. -/
theorem ends_userDirectories :
    Ends (userDirectories host) (.ok (host.directories dataRoot).toOption) id := by
  cases listed : host.directories dataRoot with
  | error message =>
      have body : Ends (some <$> osCall (host.directories dataRoot) : Load (Option (List String)))
          (.error ⟨.OSError, message⟩) id := by
        rw [listed]
        intro registries
        rfl
      apply ends_tryCatch_handler body
      exact ends_pure none
  | ok users =>
      have body : Ends (some <$> osCall (host.directories dataRoot) : Load (Option (List String)))
          (.ok (some users)) id := by
        rw [listed]
        intro registries
        rfl
      exact ends_tryCatch body

theorem returnsIff_loadUserTools :
    ReturnsIff (loadUserTools host)
      (∀ username ∈ host.subdirectories dataRoot, Each host (dataRoot ++ [username])
        (ProjectWalked host (DirectoryContained host) username))
      (afterFiles host ((host.subdirectories dataRoot).flatMap fun username =>
        (host.subdirectories (dataRoot ++ [username])).flatMap (projectFiles host username))) := by
  have listed : Ends (userDirectories host) _ id := ends_userDirectories
  unfold Host.subdirectories
  cases found : (host.directories dataRoot).toOption with
  | none =>
      rw [found] at listed
      constructor
      · exact fun _ => ends_bind_read listed (ends_pure _)
      · simp
  | some users =>
      rw [found] at listed
      have loop := returnsIff_forM users fun username _ =>
        returnsIff_forDirectories (dataRoot ++ [username])
          (returnsIff_loadProject host username)
      have spec : ReturnsIff (loadUserTools host) _ _ :=
        ⟨fun holds => ends_bind_read listed (loop.returns holds), fun fails =>
          (loop.raises fails).imp fun exc => Exists.imp fun change raises =>
            ends_bind_read listed raises⟩
      apply spec.congr Iff.rfl
      intro _
      funext registries
      exact List.foldl_flatMap

theorem returnsIff_loadPlugins (host : Host) :
    ReturnsIff (loadPlugins host) (Walked host (DirectoryContained host))
      (afterFiles host (pluginFiles host)) := by
  have system : ReturnsIff (loadSystemTools host)
      (IfExists host toolsRoot (DirectoryContained host toolsRoot))
      (afterFiles host (systemFiles host)) :=
    returnsIff_ifExists (returnsIff_loadDirectory toolsRoot)
  have whole : ReturnsIff (loadPlugins host) _ _ :=
    returnsIff_bind system (returnsIff_bind returnsIff_makeDataRoot returnsIff_loadUserTools)
  apply whole.congr Iff.rfl
  intro _
  rw [pluginFiles, afterFiles_append]
  rfl

/-! ### The condition, file by file -/

theorem each_and {parent : Path} {ok ok' contained : String → Prop}
    (parts : ∀ name, ok name ↔ ok' name ∧ contained name) :
    Each host parent ok ↔
      Each host parent ok' ∧ ∀ name ∈ host.subdirectories parent, contained name := by
  simp only [Each, Host.subdirectories, parts]
  cases host.directories parent with
  | error message => simp
  | ok names => simp [Except.toOption, forall_and]

theorem ifExists_and {path : Path} {ok ok' contained : Prop} (parts : ok ↔ ok' ∧ contained) :
    IfExists host path ok ↔
      IfExists host path ok' ∧ (host.pathExists path = .ok true → contained) := by
  simp only [IfExists, parts]
  cases host.pathExists path with
  | error message => simp
  | ok found => cases found <;> simp

theorem directoryContained_iff (owner : Owner) {base : Path} :
    DirectoryContained host base ↔
      True ∧ ∀ file ∈ directoryFiles host owner base, ¬ Escapes host file.path := by
  simp [DirectoryContained, directoryFiles]

theorem projectWalked_contained {username project : String} :
    ProjectWalked host (DirectoryContained host) username project ↔
      ProjectWalked host (fun _ => True) username project ∧
        ∀ file ∈ projectFiles host username project, ¬ Escapes host file.path := by
  let tools := dataRoot ++ [username, project, "tools"]
  have ofTool : ∀ category tool,
      IfExists host (tools ++ [category, tool, "references"])
          (DirectoryContained host (tools ++ [category, tool, "references"])) ↔
        IfExists host (tools ++ [category, tool, "references"]) True ∧
          ∀ file ∈ toolFiles host username project category (tools ++ [category, tool]),
            ¬ Escapes host file.path := by
    intro category tool
    rw [ifExists_and (directoryContained_iff ⟨username, project, category⟩)]
    apply and_congr Iff.rfl
    change _ ↔ ∀ file ∈ if host.pathExists (tools ++ [category, tool, "references"]) = .ok true
      then directoryFiles host ⟨username, project, category⟩
        (tools ++ [category, tool, "references"]) else [], ¬ Escapes host file.path
    split <;> simp [*]
  have walked : ProjectWalked host (DirectoryContained host) username project ↔
      ProjectWalked host (fun _ => True) username project ∧ _ :=
    ifExists_and (each_and fun category => each_and fun tool => ofTool category tool)
  apply walked.trans
  apply and_congr Iff.rfl
  simp only [projectFiles]
  split
  case isTrue found =>
    simp only [List.forall_mem_flatMap]
    exact ⟨fun contained => contained found, fun contained _ => contained⟩
  case isFalse missing => simp [missing]

theorem walked_contained :
    Walked host (DirectoryContained host) ↔
      Walked host (fun _ => True) ∧ ∀ file ∈ pluginFiles host, ¬ Escapes host file.path := by
  have system : IfExists host toolsRoot (DirectoryContained host toolsRoot) ↔
      IfExists host toolsRoot True ∧
        ∀ file ∈ systemFiles host, ¬ Escapes host file.path := by
    rw [ifExists_and (directoryContained_iff {})]
    apply and_congr Iff.rfl
    unfold systemFiles
    split <;> simp [*]
  have users : ∀ username, Each host (dataRoot ++ [username])
        (ProjectWalked host (DirectoryContained host) username) ↔
      Each host (dataRoot ++ [username]) (ProjectWalked host (fun _ => True) username) ∧
        ∀ project ∈ host.subdirectories (dataRoot ++ [username]),
          ∀ file ∈ projectFiles host username project, ¬ Escapes host file.path :=
    fun username => each_and fun project => projectWalked_contained
  simp only [Walked, system, users, pluginFiles, List.forall_mem_append,
    List.forall_mem_flatMap]
  constructor
  · rintro ⟨⟨tools, systemContained⟩, data, walked⟩
    exact ⟨⟨tools, data, fun username member => (walked username member).1⟩,
      systemContained, fun username member => (walked username member).2⟩
  · rintro ⟨⟨tools, data, walked⟩, systemContained, contained⟩
    exact ⟨⟨tools, systemContained⟩, data, fun username member =>
      ⟨walked username member, contained username member⟩⟩

/-! ### What the walk leaves -/

theorem register_pluginErrors (registrations : List Registration) :
    (registrations.foldl (register owner) registries).pluginErrors =
      registries.pluginErrors := by
  induction registrations generalizing registries with
  | nil => rfl
  | cons registration registrations induction =>
      rw [List.foldl_cons, induction]
      cases registration <;> rfl

def setTool (tools : OrderedDict String Tool) (tool : Tool) : OrderedDict String Tool :=
  tools.set tool.key tool

theorem register_tools (registrations : List Registration) :
    (registrations.foldl (register owner) registries).tools =
      (registrations.filterMap (toolOf owner)).foldl setTool registries.tools := by
  induction registrations generalizing registries with
  | nil => rfl
  | cons registration registrations induction =>
      rw [List.foldl_cons, induction]
      cases registration <;> rfl

theorem afterFiles_pluginErrors (files : List PluginFile) :
    (afterFiles host files registries).pluginErrors =
      registries.pluginErrors ++ files.flatMap (fileErrors host) := by
  induction files generalizing registries with
  | nil => simp [afterFiles]
  | cons file files induction =>
      have one : (afterFile host registries file).pluginErrors =
          registries.pluginErrors ++ fileErrors host file := by
        unfold afterFile fileErrors
        cases refusal host file.path with
        | some exc => rfl
        | none =>
            cases raised : (host.execModule file.path).raised with
            | some exc => simp [raised, Registries.addError, register_pluginErrors]
            | none => simp [raised, register_pluginErrors]
      change (afterFiles host files (afterFile host registries file)).pluginErrors = _
      rw [induction, one, List.flatMap_cons, List.append_assoc]

theorem afterFiles_tools (files : List PluginFile) :
    (afterFiles host files registries).tools =
      (files.flatMap (fileTools host)).foldl setTool registries.tools := by
  induction files generalizing registries with
  | nil => rfl
  | cons file files induction =>
      have one : (afterFile host registries file).tools =
          (fileTools host file).foldl setTool registries.tools := by
        unfold afterFile fileTools
        cases refusal host file.path with
        | some exc => rfl
        | none =>
            simp only []
            cases raised : (host.execModule file.path).raised with
            | some exc => exact register_tools _
            | none => exact register_tools _
      change (afterFiles host files (afterFile host registries file)).tools = _
      rw [induction, one, List.flatMap_cons, List.foldl_append]

/-- Under the key of a tool that has been registered stands the last such tool. -/
theorem get_foldl_setTool {tools : OrderedDict String Tool} {key : String}
    (registered : List Tool) (some_ : ∃ tool ∈ registered, tool.key = key) :
    ∃ last ∈ registered, last.key = key ∧
      (registered.foldl setTool tools).get key = some last := by
  induction registered using List.reverseRecOn with
  | nil => simp at some_
  | append_singleton registered tool induction =>
      rw [List.foldl_append]
      by_cases same : key = tool.key
      · refine ⟨tool, by simp, same.symm, ?_⟩
        change (OrderedDict.set _ tool.key tool).get key = _
        rw [OrderedDict.get_set, if_pos same]
      · have before : ∃ tool ∈ registered, tool.key = key := by
          obtain ⟨other, member, equal⟩ := some_
          rcases List.mem_append.mp member with before | last
          · exact ⟨other, before, equal⟩
          · rw [List.mem_singleton.mp last] at equal
            exact absurd equal.symm same
        obtain ⟨last, member, equal, found⟩ := induction before
        refine ⟨last, List.mem_append_left _ member, equal, ?_⟩
        change (OrderedDict.set _ tool.key tool).get key = _
        rw [OrderedDict.get_set, if_neg same]
        exact found

theorem fileErrors_of_failing {file : PluginFile} (failing : Failing host file.path) :
    ∃ error ∈ fileErrors host file, error.file = host.str file.path := by
  unfold Failing at failing
  unfold fileErrors refusal
  cases read : host.readBytes file.path with
  | error message => simp
  | ok bytes =>
      simp only [read] at failing ⊢
      cases decoded : String.fromUTF8? bytes with
      | none => simp
      | some source =>
          simp only [decoded] at failing ⊢
          cases compiled : host.compile source with
          | some exc => simp
          | none =>
              cases raised : (host.execModule file.path).raised with
              | some exc => simp
              | none => simp [compiled, raised] at failing

theorem intact_of_loaded {after : Registries}
    (tools : after.tools = (afterFiles host (pluginFiles host) registries).tools)
    (errors : after.pluginErrors = (afterFiles host (pluginFiles host) registries).pluginErrors) :
    Intact host after := by
  constructor
  · intro file member _ tool registered
    rw [tools, afterFiles_tools]
    apply get_foldl_setTool
    exact ⟨tool, List.mem_flatMap.mpr ⟨file, member, registered⟩, rfl⟩
  · intro file member failing
    rw [errors, afterFiles_pluginErrors]
    obtain ⟨error, recorded, same⟩ := fileErrors_of_failing failing
    exact ⟨error, List.mem_append_right _ (List.mem_flatMap.mpr ⟨file, member, recorded⟩), same⟩

end Loading

/-- The walk finds its way through both trees. -/
def Walkable (host : Host) : Prop :=
  Walked host fun _ => True

/-- One plugin file of one user; its only byte is an `é` of Latin-1. -/
def latinHost : Host where
  pathExists path := .ok (path != toolsRoot)
  isDir _ := .ok true
  iterdir path :=
    .ok (match path with
      | ["data"] => ["ann"]
      | ["data", "ann"] => ["demo"]
      | ["data", "ann", "demo", "tools"] => ["general"]
      | ["data", "ann", "demo", "tools", "general"] => ["add"]
      | _ => ["add.py"])
  mkdir _ := .ok ()
  readBytes _ := .ok ⟨#[0xe9]⟩
  compile _ := none
  execModule _ := {}

end GrafuxMcp.PluginLoader
