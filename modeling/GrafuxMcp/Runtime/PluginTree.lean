import GrafuxMcp.Runtime.PluginIsolation

/-! # The tree that the loader walks

The walk finds the files of one fixed layout, and all of them that the tree has. -/

namespace GrafuxMcp.PluginLoader

open GrafuxMcp

section Walk

variable {host : Host} {parent : Path} {name : String}
  {names : List String}

/-- No `is_dir()` of the tree raises. -/
def Examined (host : Host) : Prop :=
  ∀ path, ∃ isDir, host.isDir path = .ok isDir

theorem visible_ok (examined : Examined host) (parent : Path)
    (names : List String) :
    ∃ found, host.visible parent names = .ok found ∧ ∀ name, name ∈ found ↔
      name ∈ names ∧ host.isDir (parent ++ [name]) = .ok true ∧ name.startsWith "." = false := by
  induction names with
  | nil => exact ⟨[], rfl, by simp⟩
  | cons first names induction =>
      rcases induction with ⟨found, listed, members⟩
      rcases examined (parent ++ [first]) with ⟨isDir, looked⟩
      have step := visible_cons_of_ok names looked
      rw [listed] at step
      simp only [Except.map] at step
      refine ⟨_, step, ?_⟩
      intro name
      by_cases same : name = first
      · rw [same, looked]
        by_cases kept : (isDir && !first.startsWith ".") = true
        · simp_all
        · have dropped : first ∉ found ∨ first ∈ names := by
            by_cases later : first ∈ found
            · exact Or.inr ((members first).mp later).1
            · exact Or.inl later
          rw [if_neg kept, members first, looked]
          simp_all
      · split
        · rw [List.mem_cons, members name]
          simp [same]
        · rw [members name]
          simp [same]

theorem mem_subdirectories (examined : Examined host)
    (listed : host.iterdir parent = .ok names) (member : name ∈ names)
    (isDir : host.isDir (parent ++ [name]) = .ok true)
    (visible : name.startsWith "." = false) : name ∈ host.subdirectories parent := by
  rcases visible_ok examined parent names with ⟨found, all, members⟩
  have directories : host.directories parent = .ok found := by
    rw [Host.directories, listed]
    exact all
  rw [Host.subdirectories, directories]
  exact (members name).mpr ⟨member, isDir, visible⟩

/-- A directory of the walk is not hidden. -/
theorem visible_of_mem_visible {found : List String}
    (listed : host.visible parent names = .ok found) (member : name ∈ found) :
    name.startsWith "." = false := by
  induction names generalizing found with
  | nil =>
      cases listed
      cases member
  | cons first names induction =>
      cases looked : host.isDir (parent ++ [first]) with
      | error message =>
          rw [visible_cons_of_error names looked] at listed
          cases listed
      | ok isDir =>
          rw [visible_cons_of_ok names looked] at listed
          cases rest : host.visible parent names with
          | error message =>
              rw [rest] at listed
              cases listed
          | ok later =>
              rw [rest] at listed
              have equal : (if isDir && !first.startsWith "." then first :: later else later) =
                  found := Except.ok.inj listed
              rw [← equal] at member
              split at member
              case isTrue kept =>
                rcases List.mem_cons.mp member with same | inside
                · rw [same]
                  simpa using (Bool.and_eq_true_iff.mp kept).2
                · exact induction rest inside
              case isFalse => exact induction rest member

theorem visible_of_mem_subdirectories (member : name ∈ host.subdirectories parent) :
    name.startsWith "." = false := by
  unfold Host.subdirectories Host.directories at member
  cases listed : host.iterdir parent with
  | error message =>
      rw [listed] at member
      cases member
  | ok names =>
      rw [listed] at member
      cases found : host.visible parent names with
      | error message =>
          simp only [bind, Except.bind, found] at member
          cases member
      | ok directories =>
          simp only [bind, Except.bind, found] at member
          exact visible_of_mem_visible found member

/-- The files that the loader attributes to a user lie at one depth. -/
theorem layout_of_mem_pluginFiles {file : PluginFile} {username project : String}
    (member : file ∈ pluginFiles host) (user : file.owner.username = some username)
    (ofProject : file.owner.project = some project) :
    ∃ category tool name,
      file.path = dataRoot ++ [username, project, "tools", category, tool, "references", name] ∧
      ∀ directory ∈ [username, project, category, tool], directory.startsWith "." = false := by
  rcases List.mem_append.mp member with system | users
  · -- a built-in tool has no owner
    unfold systemFiles at system
    split at system
    · rcases List.mem_map.mp system with ⟨name, _, equal⟩
      rw [← equal] at user
      cases user
    · cases system
  · rcases List.mem_flatMap.mp users with ⟨otherUser, userListed, inUser⟩
    rcases List.mem_flatMap.mp inUser with ⟨otherProject, projectListed, inProject⟩
    simp only [projectFiles] at inProject
    split at inProject
    case isFalse => cases inProject
    case isTrue =>
      rcases List.mem_flatMap.mp inProject with ⟨category, categoryListed, inCategory⟩
      rcases List.mem_flatMap.mp inCategory with ⟨tool, toolListed, inTool⟩
      simp only [toolFiles] at inTool
      split at inTool
      case isFalse => cases inTool
      case isTrue =>
        rcases List.mem_map.mp inTool with ⟨name, _, equal⟩
        rw [← equal] at user ofProject
        have sameUser : otherUser = username := Option.some.inj user
        have sameProject : otherProject = project := Option.some.inj ofProject
        rw [sameUser] at userListed
        rw [sameProject] at projectListed
        refine ⟨category, tool, name, ?_, ?_⟩
        · rw [← equal, sameUser, sameProject]
          simp
        · simp only [List.forall_mem_cons, List.not_mem_nil, false_implies, implies_true, and_true]
          exact ⟨visible_of_mem_subdirectories userListed,
            visible_of_mem_subdirectories projectListed,
            visible_of_mem_subdirectories categoryListed,
            visible_of_mem_subdirectories toolListed⟩

/-! ### A tree with these files -/

/-- The host has these files, each of them below directories that can be listed. What
else it has does not matter. -/
structure Shows (files : List Path) (host : Host) : Prop where
  examined : Examined host
  lists : ∀ file ∈ files, ∀ parent name, parent ++ [name] <+: file →
    ∃ names, host.iterdir parent = .ok names ∧ name ∈ names
  directory : ∀ file ∈ files, ∀ path, path <+: file → path ≠ file → host.isDir path = .ok true
  present : ∀ file ∈ files, ∀ path, path <+: file → host.pathExists path = .ok true

/-- `glob("*.py")` finds the name, and it has no leading underscore. -/
def isPluginName (name : String) : Bool :=
  name.endsWith ".py" && !name.startsWith "_"

variable {files : List Path}

/-- One more directory of the way. -/
theorem Shows.step (shows : Shows files host) {file : Path} (below : Path)
    (stored : file ∈ files) (way : file = parent ++ name :: below) (proper : below ≠ [])
    (visible : name.startsWith "." = false) : name ∈ host.subdirectories parent := by
  have prefixed : parent ++ [name] <+: file := ⟨below, by rw [way]; simp⟩
  rcases shows.lists file stored parent name prefixed with ⟨names, listed, member⟩
  apply mem_subdirectories shows.examined listed member _ visible
  apply shows.directory file stored _ prefixed
  intro same
  rw [way] at same
  exact proper (List.cons.inj (List.append_cancel_left same)).2.symm

theorem mem_pluginFiles {username project category tool : String} (shows : Shows files host)
    (stored : dataRoot ++ [username, project, "tools", category, tool, "references", name] ∈ files)
    (visible : ∀ directory ∈ [username, project, category, tool],
      directory.startsWith "." = false)
    (plugin : isPluginName name = true) :
    ⟨⟨username, project, category⟩,
      dataRoot ++ [username, project, "tools", category, tool, "references", name]⟩ ∈
        pluginFiles host := by
  simp only [List.forall_mem_cons, List.not_mem_nil, false_implies, implies_true, and_true]
    at visible
  apply List.mem_append_right
  refine List.mem_flatMap.mpr ⟨username, ?_, List.mem_flatMap.mpr ⟨project, ?_, ?_⟩⟩
  · exact shows.step [project, "tools", category, tool, "references", name] stored rfl (by simp)
      visible.1
  · exact shows.step ["tools", category, tool, "references", name] stored (by simp) (by simp)
      visible.2.1
  have tools : host.pathExists (dataRoot ++ [username, project, "tools"]) = .ok true :=
    shows.present _ stored _ ⟨[category, tool, "references", name], by simp⟩
  simp only [projectFiles]
  rw [if_pos tools]
  refine List.mem_flatMap.mpr ⟨category, ?_, List.mem_flatMap.mpr ⟨tool, ?_, ?_⟩⟩
  · exact shows.step [tool, "references", name] stored (by simp) (by simp) visible.2.2.1
  · exact shows.step ["references", name] stored (by simp) (by simp) visible.2.2.2
  have references : host.pathExists
      (dataRoot ++ [username, project, "tools"] ++ [category, tool] ++ ["references"]) =
        .ok true :=
    shows.present _ stored _ ⟨[name], by simp⟩
  simp only [toolFiles]
  rw [if_pos references]
  have way : dataRoot ++ [username, project, "tools"] ++ [category, tool] ++ ["references"] ++
      [name] = dataRoot ++ [username, project, "tools", category, tool, "references", name] := by
    simp
  refine List.mem_map.mpr ⟨name, ?_, by rw [way]⟩
  rcases shows.lists _ stored _ name ⟨[], by rw [way, List.append_nil]⟩ with
    ⟨names, listed, member⟩
  rw [isPluginName, Bool.and_eq_true] at plugin
  unfold Host.pluginNames
  rw [listed]
  exact List.mem_filter.mpr ⟨List.mem_filter.mpr ⟨member, plugin.1⟩, plugin.2⟩

/-- A host that has these files and nothing else. -/
def treeHost (files : List Path) : Host where
  pathExists path := .ok (files.any path.isPrefixOf)
  isDir path := .ok (files.any fun file => path.isPrefixOf file && path != file)
  iterdir parent := .ok (files.filterMap fun file =>
    if parent.isPrefixOf file then (file.drop parent.length).head? else none)
  mkdir _ := .ok ()
  readBytes _ := .ok ByteArray.empty
  compile _ := none
  execModule _ := {}

theorem shows_treeHost (files : List Path) : Shows files (treeHost files) where
  examined _ := ⟨_, rfl⟩
  lists file stored parent name way := by
    refine ⟨_, rfl, List.mem_filterMap.mpr ⟨file, stored, ?_⟩⟩
    rcases way with ⟨below, equal⟩
    have inside : parent.isPrefixOf file = true :=
      List.isPrefixOf_iff_prefix.mpr ⟨name :: below, by rw [← equal]; simp⟩
    rw [if_pos inside, ← equal, List.append_assoc, List.drop_left]
    rfl
  directory file stored path way proper := by
    have found : (files.any fun file => path.isPrefixOf file && path != file) = true := by
      refine List.any_eq_true.mpr ⟨file, stored, ?_⟩
      simp [List.isPrefixOf_iff_prefix.mpr way, proper]
    simp only [treeHost, found]
  present file stored path way := by
    have found : files.any path.isPrefixOf = true :=
      List.any_eq_true.mpr ⟨file, stored, List.isPrefixOf_iff_prefix.mpr way⟩
    simp only [treeHost, found]

end Walk

end GrafuxMcp.PluginLoader
