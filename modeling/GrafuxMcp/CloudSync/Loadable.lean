import GrafuxMcp.CloudSync.StaysInside
import GrafuxMcp.Runtime.PluginTree

/-! # Synced tools and the plugin loader

The syncers of one tool mirror the remote layout one to one, with and without a
category level; the loader walks
`data/{username}/{project}/tools/{category}/{tool}/references/` only. -/

namespace GrafuxMcp.CloudSync

open GrafuxMcp PosixPath Program

/-! ### The property -/

/-- The tool that a request syncs. -/
structure ToolTarget where
  username : String
  project : String
  toolName : String

def Request.target : Request → Option ToolTarget
  | .all _ _ _ => none
  | .tool username project toolName _ _
  | .toolFromSupabase _ username project toolName _ => some ⟨username, project, toolName⟩

/-- The locations at which an event stores a file. -/
def storedBy : SyncEvent → List Location
  | ⟨.download _ path, outcome⟩ | ⟨.writeBytes path _, outcome⟩ =>
      if outcome.applied then [resolve path] else []
  | _ => []

/-- `.../{tool_name}/references/{f}.py`, with no leading underscore. -/
def IsReference (target : ToolTarget) (location : Location) : Prop :=
  ∃ front name, location = front ++ [target.toolName, "references", name] ∧
    PluginLoader.isPluginName name = true

/-- The data tree as the loader knows it. -/
def loaderPath (root : DataRoot) (location : Location) : Option PluginLoader.Path :=
  if root.path.isPrefixOf location then
    some (PluginLoader.dataRoot ++ location.drop root.path.length)
  else none

/-- The walk of `load_plugins` comes to the file, under the owner of the tool. -/
def Scanned (root : DataRoot) (target : ToolTarget) (host : PluginLoader.Host)
    (location : Location) : Prop :=
  ∃ path, loaderPath root location = some path ∧
    ∃ file ∈ PluginLoader.pluginFiles host, file.path = path ∧
      file.owner.username = some target.username ∧ file.owner.project = some target.project

/-- Every reference that the sync stored is scanned, on every host that has the files
that it stored. -/
def ReferencesScanned (root : DataRoot) (target : ToolTarget) (stored : List Location) : Prop :=
  ∀ host, PluginLoader.Shows (stored.filterMap (loaderPath root)) host →
    ∀ location ∈ stored, IsReference target location → Scanned root target host location

/-- In every run with these listings that reports success. -/
def StoresLoadable (root : DataRoot) (remote : Remote) (request : Request) : Prop :=
  ∀ environment : Environment effects,
    (∀ event ∈ (request.program root).trace environment, Realistic root remote event) →
    ∀ result, (request.program root).result environment = .ok result → result.success = true →
      ∀ target, request.target = some target →
        ReferencesScanned root target (((request.program root).trace environment).flatMap storedBy)

/-! ### The condition -/

/-- `data/{username}/{project}/tools/{category}/{tool_name}/references/{f}`, none of the
directories hidden. -/
def InLayout (root : DataRoot) (target : ToolTarget) (location : Location) : Prop :=
  ∃ category name, location = root.path ++
      [target.username, target.project, "tools", category, target.toolName, "references", name] ∧
    ∀ directory ∈ [target.username, target.project, category, target.toolName],
      directory.startsWith "." = false

/-- A local key that leads to a reference leads to one of the layout, or to a directory
above the data root. -/
def KeyInLayout (root : DataRoot) (target : ToolTarget) (key : String) : Prop :=
  IsReference target (resolve (child root.path key)) →
    ¬ IsAncestor root (resolve (child root.path key)) →
      InLayout root target (resolve (child root.path key))

/-- The condition on a request and on what the bucket and the storage list. -/
def Request.KeysInLayout (root : DataRoot) (remote : Remote) : Request → Prop
  | .all _ _ _ => True
  | .tool username project toolName category userId =>
      ∀ uid ∈ remote.possibleUserIds username project userId,
        ∀ objects, remote.objects (toolPrefix uid username project toolName category) =
          some objects →
        ∀ object ∈ objects, ∀ key, fileKey object = some key →
          KeyInLayout root ⟨username, project, toolName⟩ key
  | .toolFromSupabase depth username project toolName category =>
      ∀ paths, remote.firstListed depth (remote.prefixes username project toolName category) =
          .ok paths →
        ∀ path ∈ paths, isToolFile path = true →
          KeyInLayout root ⟨username, project, toolName⟩ path

/-! ### The layout and the walk -/

section Layout

variable {root : DataRoot} {target : ToolTarget} {stored : List Location}

theorem loaderPath_below (rest : List String) :
    loaderPath root (root.path ++ rest) = some (PluginLoader.dataRoot ++ rest) := by
  have below : root.path.isPrefixOf (root.path ++ rest) = true :=
    List.isPrefixOf_iff_prefix.mpr (List.prefix_append _ _)
  rw [loaderPath, if_pos below, List.drop_left]

theorem scanned_of_inLayout {host : PluginLoader.Host} {location : Location}
    (shows : PluginLoader.Shows (stored.filterMap (loaderPath root)) host)
    (member : location ∈ stored) (reference : IsReference target location)
    (inLayout : InLayout root target location) : Scanned root target host location := by
  rcases inLayout with ⟨category, name, equal, visible⟩
  rcases reference with ⟨front, last, same, plugin⟩
  -- the last names of the two spellings agree
  have lastName : last = name := by
    have ends := congrArg List.getLast? (same.symm.trans equal)
    simpa using ends
  rw [lastName] at plugin
  have path : loaderPath root location = some (PluginLoader.dataRoot ++
      [target.username, target.project, "tools", category, target.toolName, "references", name]) := by
    rw [equal]
    exact loaderPath_below _
  have there := List.mem_filterMap.mpr ⟨location, member, path⟩
  have found := PluginLoader.mem_pluginFiles shows there visible plugin
  exact ⟨_, path, _, found, rfl, rfl, rfl⟩

theorem inLayout_of_scanned {host : PluginLoader.Host} {location : Location}
    (reference : IsReference target location) (scanned : Scanned root target host location) :
    InLayout root target location := by
  rcases scanned with ⟨path, below, file, member, equal, user, ofProject⟩
  rcases PluginLoader.layout_of_mem_pluginFiles member user ofProject with
    ⟨category, tool, name, layout, visible⟩
  unfold loaderPath at below
  split at below
  case isFalse => cases below
  case isTrue inside =>
    rcases List.isPrefixOf_iff_prefix.mp inside with ⟨rest, whole⟩
    rw [← whole, List.drop_left, Option.some.injEq, ← equal, layout] at below
    have names := List.append_cancel_left below
    rcases reference with ⟨front, last, same, -⟩
    -- the tool directory of the walk is that of the request
    have toolNames : tool = target.toolName := by
      have ends := congrArg (fun names => names.reverse[2]?) (whole.trans same)
      simpa [names] using ends
    rw [toolNames] at names visible
    exact ⟨category, name, by rw [← whole, names], visible⟩

end Layout

/-! ### Requests that meet the condition -/

def storing (root : DataRoot) (remote : Remote) : Contract effects (List Location) where
  observe stored event := stored ++ storedBy event
  assume _ := Realistic root remote
  guarantee _ _ := True

section Keeps

variable {root : DataRoot} {remote : Remote} {target : ToolTarget}

/-- The references that were stored so far are in the layout. -/
def StoredInLayout (root : DataRoot) (target : ToolTarget) (stored : List Location) : Prop :=
  ∀ location ∈ stored, IsReference target location → InLayout root target location

abbrev KeepsLayout (root : DataRoot) (remote : Remote) (target : ToolTarget)
    (program : Sync α) : Prop :=
  Keeps (storing root remote) (StoredInLayout root target) program

/-- An operation that stores no file. -/
theorem keeps_layout {op : Op} (silent : ∀ outcome : Outcome effects op, storedBy ⟨op, outcome⟩ = []) :
    KeepsLayout root remote target (perform op) := by
  apply keeps_call
  intro stored outcome inLayout _
  refine ⟨trivial, ?_⟩
  simp only [storing, silent outcome, List.append_nil]
  exact inLayout

theorem keeps_store {op : Op} {name : String} (inLayout : KeyInLayout root target name)
    (realistic : ∀ outcome : Outcome effects op, Realistic root remote ⟨op, outcome⟩ →
      outcome.applied = true → ¬ IsAncestor root (resolve (child root.path name)))
    (stores : ∀ outcome : Outcome effects op, storedBy ⟨op, outcome⟩ =
      if outcome.applied then [resolve (child root.path name)] else []) :
    KeepsLayout root remote target (perform op) := by
  apply keeps_call
  intro stored outcome before assumed
  refine ⟨trivial, ?_⟩
  intro location member reference
  simp only [storing, stores] at member
  rcases List.mem_append.mp member with earlier | new
  · exact before location earlier reference
  · cases applied : outcome.applied with
    | false => simp [applied] at new
    | true =>
        have same : location = resolve (child root.path name) := by simpa [applied] using new
        rw [same] at reference ⊢
        exact inLayout reference (realistic outcome assumed applied)

theorem learns_layout {op : Op} {known : op.Answer → Prop}
    (silent : ∀ outcome : Outcome effects op, storedBy ⟨op, outcome⟩ = [])
    (answers : ∀ answer, Realistic root remote ⟨op, .returned answer⟩ → known answer) :
    Learns (storing root remote) (StoredInLayout root target) (perform op) known :=
  learns_call (keeps_layout silent) fun _ answer _ => answers answer

theorem storing_findsUserIds :
    FindsUserIds (storing root remote) (StoredInLayout root target) remote where
  client := keeps_layout fun _ => rfl
  lists keyPrefix := learns_layout (fun _ => rfl) fun _ realistic => by
    cases realistic
    rfl
  cached username project := learns_layout (fun _ => rfl) fun _ realistic => by
    cases realistic
    rfl
  stores _ _ _ := keeps_layout fun _ => rfl

theorem keeps_syncTool_layout {username project toolName : String}
    {category userId : Option String}
    (inLayout : (Request.tool username project toolName category userId).KeysInLayout root remote) :
    KeepsLayout root remote ⟨username, project, toolName⟩
      (syncTool root username project toolName category userId) := by
  have idle : ∀ {op : Op}, (∀ outcome : Outcome effects op, storedBy ⟨op, outcome⟩ = []) →
      KeepsLayout root remote ⟨username, project, toolName⟩ (perform op) := keeps_layout
  apply keeps_bind (idle fun _ => rfl)
  intro available
  cases available with
  | false => exact keeps_pure _
  | true =>
  apply keeps_bind (idle fun _ => rfl)
  intro key
  cases key with
  | false => exact keeps_pure _
  | true =>
  apply keeps_tryCatch _ fun _ => keeps_pure _
  apply keeps_bind (idle fun _ => rfl)
  intro _
  apply keeps_bind_of (learns_toolUserId storing_findsUserIds username project userId)
  intro uid possible
  have etags : KeepsLayout root remote ⟨username, project, toolName⟩ (loadEtags root) :=
    keeps_loadEtags (idle fun _ => rfl) (fun _ => idle fun _ => rfl) fun _ => idle fun _ => rfl
  apply keeps_bind etags
  intro cache
  apply keeps_bind_of (storing_findsUserIds.lists _)
  intro answer equal
  cases answer with
  | none => exact keeps_throw _
  | some objects =>
  have named := inLayout uid possible objects equal.symm
  have loop : ∀ tally, KeepsLayout root remote ⟨username, project, toolName⟩
      (syncObjects root fileKey tally objects) := by
    apply keeps_syncObjects
    intro tally object member key name
    apply keeps_syncObject
    · exact fun _ => idle fun _ => rfl
    · exact fun _ _ => idle fun _ => rfl
    · exact keeps_store (named object member key name) (fun _ assumed => assumed) fun _ => rfl
  apply keeps_bind (loop _)
  intro tally
  apply keeps_bind (idle fun _ => rfl)
  intro _
  have saves : KeepsLayout root remote ⟨username, project, toolName⟩
      (saveEtags root tally.cache) :=
    keeps_saveEtags (idle fun _ => rfl) (fun _ => idle fun _ => rfl) (idle fun _ => rfl) _
  apply keeps_bind saves
  intro _
  exact keeps_bind (keeps_reloadIf (idle fun _ => rfl) _) fun _ => keeps_pure _

theorem storing_lists (stored : List Location) :
    ListsFolders (storing root remote) remote stored where
  answers _ := rfl
  only _ _ assumed := assumed
  guaranteed _ := trivial
  unobserved _ := List.append_nil _

theorem keeps_pullFiles_layout {paths : List String}
    (inLayout : ∀ path ∈ paths, isToolFile path = true → KeyInLayout root target path) :
    KeepsLayout root remote target (pullFiles root paths) := by
  induction paths with
  | nil => exact keeps_pure _
  | cons path paths induction =>
      have first : KeepsLayout root remote target (pullFile root path) := by
        unfold pullFile
        split
        case isFalse => exact keeps_pure _
        case isTrue tool =>
          apply keeps_bind (keeps_tryCatch (keeps_layout fun _ => rfl) fun _ => keeps_pure _)
          intro fetched
          cases fetched with
          | false => exact keeps_pure _
          | true =>
              apply keeps_bind (keeps_makeDirs fun _ _ => keeps_layout fun _ => rfl)
              intro _
              apply keeps_bind _ fun _ => keeps_pure _
              have named := inLayout path List.mem_cons_self tool
              exact keeps_store named (fun _ assumed => assumed) fun _ => rfl
      apply keeps_bind first
      intro _
      apply keeps_bind _ fun _ => keeps_pure _
      exact induction fun other member => inLayout other (List.mem_cons_of_mem _ member)

theorem keeps_syncToolFromSupabase_layout {depth : Nat} {username project toolName : String}
    {category : Option String}
    (inLayout : (Request.toolFromSupabase depth username project toolName category).KeysInLayout
      root remote) :
    KeepsLayout root remote ⟨username, project, toolName⟩
      (syncToolFromSupabase root depth username project toolName category) := by
  apply keeps_bind (keeps_layout fun _ => rfl)
  intro configured
  cases configured with
  | false => exact keeps_pure _
  | true =>
  apply keeps_tryCatch _ fun _ => keeps_pure _
  intro stored before
  apply meets_bind.mpr
  apply (yields_prefixesToTry (storing_lists stored) username project toolName category _).mpr
  apply meets_bind.mpr
  apply (yields_firstListed (storing_lists stored) depth _ _).mpr
  cases listed : remote.firstListed depth (remote.prefixes username project toolName category) with
  | error error => exact before
  | ok paths =>
      have pulls : KeepsLayout root remote ⟨username, project, toolName⟩ (pullFiles root paths) :=
        keeps_pullFiles_layout (inLayout paths listed)
      apply pulls.andThen before _ fun _ _ after => after
      intro synced stored after
      have reloads : KeepsLayout root remote ⟨username, project, toolName⟩
          (reloadIf (synced > 0)) := keeps_reloadIf (keeps_layout fun _ => rfl) _
      exact keeps_bind reloads (fun _ => keeps_pure _) stored after

end Keeps

/-! ### Successful syncs that store one file -/

section Reaches

variable {root : DataRoot} {remote : Remote} {stored : List Location}

theorem storing_allows {event : SyncEvent} (realistic : Realistic root remote event)
    (silent : storedBy event = []) : Allows (storing root remote) stored event := by
  refine ⟨realistic, ?_⟩
  simp only [storing, silent, List.append_nil]

theorem storing_makesDir (front : List String) :
    Allows (storing root remote) stored ⟨.makeDir front, .returned false⟩ :=
  storing_allows (by simp [Realistic, touches]) rfl

/-- An object whose download takes effect, or fails. -/
theorem of_syncObject_store {tally : Tally} {object : S3Object} {name : String}
    {post : Except Exc Tally → List Location → Prop}
    (meets : (syncObject root tally object name).Meets (storing root remote) stored post) :
    (∃ next, post (.ok next) stored) ∧
      (¬ IsAncestor root (resolve (child root.path name)) →
        ∃ next, post (.ok next) (stored ++ [resolve (child root.path name)])) := by
  have unknown := of_notCurrent (storing_allows trivial rfl) (meets_bind.mp meets)
  have made := of_existingDirs storing_makesDir (meets_bind.mp unknown)
  have download := meets_bind.mp (meets_tryCatch.mp made)
  constructor
  · have fails : Realistic root remote
        ⟨.download object.key (child root.path name), .raised "" false rfl⟩ :=
      fun applied => by cases applied
    have passed := (download.of_call _ fails).2
    simp only [storing, storedBy, Outcome.applied, Bool.false_eq_true, if_false,
      List.append_nil] at passed
    exact ⟨_, passed⟩
  · intro below
    have works : Realistic root remote
        ⟨.download object.key (child root.path name), .returned ()⟩ := fun _ => below
    exact ⟨_, (download.of_call _ works).2⟩

/-- All downloads fail, or all but one. -/
theorem of_syncObjects_store {localKey : S3Object → Option String} {objects : List S3Object}
    {tally : Tally} {post : Except Exc Tally → List Location → Prop}
    (meets : (syncObjects root localKey tally objects).Meets (storing root remote) stored post) :
    (∃ next, post (.ok next) stored) ∧
      ∀ object ∈ objects, ∀ name, localKey object = some name →
        ¬ IsAncestor root (resolve (child root.path name)) →
          ∃ next, post (.ok next) (stored ++ [resolve (child root.path name)]) := by
  induction objects generalizing tally stored with
  | nil => exact ⟨⟨tally, meets⟩, by simp⟩
  | cons object objects induction =>
      unfold syncObjects at meets
      cases named : localKey object with
      | none =>
          rw [named] at meets
          have rest := induction meets
          refine ⟨rest.1, List.forall_mem_cons.mpr ⟨?_, rest.2⟩⟩
          intro name same
          rw [named] at same
          cases same
      | some key =>
          rw [named] at meets
          have first := of_syncObject_store (meets_bind.mp meets)
          rcases first.1 with ⟨next, passed⟩
          have rest := induction passed
          refine ⟨rest.1, List.forall_mem_cons.mpr ⟨?_, rest.2⟩⟩
          intro name same below
          rw [named, Option.some.injEq] at same
          rw [← same] at below ⊢
          rcases first.2 below with ⟨next, downloaded⟩
          exact (induction downloaded).1

/-- The ETag cache cannot be written. -/
theorem of_unsavedEtags {cache : EtagCache} {post : Except Exc Unit → List Location → Prop}
    (meets : (saveEtags root cache).Meets (storing root remote) stored post) :
    post (.ok ()) stored := by
  have path := of_answer (meets_bind.mp meets) false (storing_makesDir _)
  have write := meets_bind.mp (meets_tryCatch.mp path)
  have failed := (write.of_call (.raised "" false rfl) trivial).2
  simp only [storing, storedBy, List.append_nil] at failed
  exact failed

theorem of_reloadIf {changed : Bool} {post : Except Exc Nat → List Location → Prop}
    (meets : (reloadIf changed).Meets (storing root remote) stored post) :
    ∃ tools, post (.ok tools) stored := by
  cases changed with
  | false => exact ⟨0, meets⟩
  | true =>
      have loaded := (meets.of_call (.returned 0) trivial).2
      simp only [storing, storedBy, List.append_nil] at loaded
      exact ⟨0, loaded⟩

theorem storing_allowsUserIds : AllowsUserIds (storing root remote) remote stored where
  client := storing_allows trivial rfl
  refused := storing_allows trivial rfl
  lists _ := storing_allows rfl rfl
  cached _ _ := storing_allows rfl rfl
  stores _ _ _ := storing_allows trivial rfl

/-- A listed object may be the only one that is stored by a sync that succeeds. -/
theorem of_syncTool_store {username project toolName : String} {category userId : Option String}
    {post : Except Exc SyncResult → List Location → Prop}
    (meets : (syncTool root username project toolName category userId).Meets
      (storing root remote) stored post)
    {uid : String} (possible : uid ∈ remote.possibleUserIds username project userId)
    {objects : List S3Object}
    (listed : remote.objects (toolPrefix uid username project toolName category) = some objects)
    {object : S3Object} (member : object ∈ objects) {key : String}
    (named : fileKey object = some key)
    (below : ¬ IsAncestor root (resolve (child root.path key))) :
    ∃ result : SyncResult, result.success = true ∧
      post (.ok result) (stored ++ [resolve (child root.path key)]) := by
  have available := of_answer meets true (storing_allows trivial rfl)
  have configured := of_answer available true (storing_allows trivial rfl)
  have body := meets_tryCatch.mp configured
  have client := of_answer body () (storing_allows trivial rfl)
  have user := of_toolUserId storing_allowsUserIds (meets_bind.mp client) uid possible
  have loaded := of_missingEtags (storing_makesDir _) (fun _ => storing_allows trivial rfl)
    (meets_bind.mp user)
  have answered := of_answer loaded
    (remote.objects (toolPrefix uid username project toolName category)) (storing_allows rfl rfl)
  rw [listed] at answered
  have loop := of_syncObjects_store (meets_bind.mp answered)
  rcases loop.2 object member key named below with ⟨tally, rest⟩
  have ended := of_answer rest () (storing_allows trivial rfl)
  have saved := of_unsavedEtags (meets_bind.mp ended)
  rcases of_reloadIf (meets_bind.mp saved) with ⟨tools, returned⟩
  exact ⟨_, rfl, returned⟩

/-- A path that is fetched and written, or not fetched. -/
theorem of_pullFile_store {path : String} {post : Except Exc Nat → List Location → Prop}
    (meets : (pullFile root path).Meets (storing root remote) stored post) :
    post (.ok 0) stored ∧
      (isToolFile path = true → ¬ IsAncestor root (resolve (child root.path path)) →
        post (.ok 1) (stored ++ [resolve (child root.path path)])) := by
  unfold pullFile at meets
  split at meets
  case isFalse other => exact ⟨meets, fun tool => absurd tool other⟩
  case isTrue =>
      have fetches := meets_tryCatch.mp (meets_bind.mp meets)
      have answers : ∀ fetched : Bool, Allows (storing root remote) stored
          ⟨.fetchObject path, .returned fetched⟩ := fun _ => storing_allows trivial rfl
      constructor
      · have missing := (fetches.of_call (.returned false) (answers false).1).2
        rw [(answers false).2] at missing
        exact missing
      · intro _ below
        have fetched := (fetches.of_call (.returned true) (answers true).1).2
        rw [(answers true).2] at fetched
        have made := of_existingDirs storing_makesDir (meets_bind.mp fetched)
        have works : Realistic root remote
            ⟨.writeBytes (child root.path path) path, .returned ()⟩ := fun _ => below
        exact ((meets_bind.mp made).of_call _ works).2

theorem of_pullFiles_store {paths : List String}
    {post : Except Exc Nat → List Location → Prop}
    (meets : (pullFiles root paths).Meets (storing root remote) stored post) :
    (∃ synced, post (.ok synced) stored) ∧
      ∀ path ∈ paths, isToolFile path = true →
        ¬ IsAncestor root (resolve (child root.path path)) →
          ∃ synced, post (.ok synced) (stored ++ [resolve (child root.path path)]) := by
  induction paths generalizing stored post with
  | nil => exact ⟨⟨0, meets⟩, by simp⟩
  | cons path paths induction =>
      have first := of_pullFile_store (meets_bind.mp meets)
      have rest := induction (meets_bind.mp first.1)
      refine ⟨?_, List.forall_mem_cons.mpr ⟨?_, ?_⟩⟩
      · rcases rest.1 with ⟨synced, passed⟩
        exact ⟨_, passed⟩
      · intro tool below
        rcases (induction (meets_bind.mp (first.2 tool below))).1 with ⟨synced, pulled⟩
        exact ⟨_, pulled⟩
      · intro other member tool below
        rcases rest.2 other member tool below with ⟨synced, pulled⟩
        exact ⟨_, pulled⟩

theorem of_syncToolFromSupabase_store {depth : Nat} {username project toolName : String}
    {category : Option String} {post : Except Exc SyncResult → List Location → Prop}
    (meets : (syncToolFromSupabase root depth username project toolName category).Meets
      (storing root remote) stored post)
    {paths : List String}
    (listed : remote.firstListed depth (remote.prefixes username project toolName category) =
      .ok paths)
    {path : String} (member : path ∈ paths) (tool : isToolFile path = true)
    (below : ¬ IsAncestor root (resolve (child root.path path))) :
    ∃ result : SyncResult, result.success = true ∧
      post (.ok result) (stored ++ [resolve (child root.path path)]) := by
  have body := meets_tryCatch.mp (of_answer meets true (storing_allows trivial rfl))
  have prefixes := (yields_prefixesToTry (storing_lists stored) username project toolName
    category _).mp (meets_bind.mp body)
  have files := (yields_firstListed (storing_lists stored) depth _ _).mp (meets_bind.mp prefixes)
  rw [listed] at files
  rcases (of_pullFiles_store (meets_bind.mp files)).2 path member tool below with ⟨synced, pulled⟩
  rcases of_reloadIf (meets_bind.mp pulled) with ⟨tools, returned⟩
  exact ⟨_, rfl, returned⟩

end Reaches

/-! ### Every run -/

theorem foldl_storedBy (stored : List Location) (trace : List SyncEvent) :
    trace.foldl (fun stored event => stored ++ storedBy event) stored =
      stored ++ trace.flatMap storedBy := by
  induction trace generalizing stored with
  | nil => simp
  | cons event trace induction =>
      rw [List.foldl_cons, induction, List.flatMap_cons, List.append_assoc]

/-- What a run leaves, if it reports success. -/
def LeavesScanned (root : DataRoot) (request : Request) (result : Except Exc SyncResult)
    (stored : List Location) : Prop :=
  ∀ answer, result = .ok answer → answer.success = true →
    ∀ target, request.target = some target → ReferencesScanned root target stored

theorem storesLoadable_iff_meets {root : DataRoot} {remote : Remote} {request : Request} :
    StoresLoadable root remote request ↔
      (request.program root).Meets (storing root remote) [] (LeavesScanned root request) := by
  have possible : ∀ (stored : List Location) (op : Op), ∃ outcome : Outcome effects op,
      (storing root remote).assume stored ⟨op, outcome⟩ := fun _ op => realistic_possible op
  constructor
  · intro stores
    apply meets_of_runs possible
    intro environment assumed
    refine ⟨fun _ _ _ _ => trivial, ?_⟩
    have ends := stores environment (eachStep_const_iff.mp assumed)
    have final : ((request.program root).trace environment).foldl (storing root remote).observe
        [] = _ := foldl_storedBy [] _
    rw [final, List.nil_append]
    exact ends
  · intro meets environment realistic
    have ends := (meets.sound environment (eachStep_const_iff.mpr realistic)).2
    have final : ((request.program root).trace environment).foldl (storing root remote).observe
        [] = _ := foldl_storedBy [] _
    rw [final, List.nil_append] at ends
    exact ends

theorem leavesScanned_of_inLayout {root : DataRoot} {request : Request} {target : ToolTarget}
    {result : Except Exc SyncResult} {stored : List Location}
    (targeted : request.target = some target) (inLayout : StoredInLayout root target stored) :
    LeavesScanned root request result stored := by
  intro _ _ _ other same host shows location member reference
  rw [targeted, Option.some.injEq] at same
  rw [← same] at reference ⊢
  exact scanned_of_inLayout shows member reference (inLayout location member reference)

/-- A run that stores one file and succeeds. -/
theorem inLayout_of_leavesScanned {root : DataRoot} {request : Request} {target : ToolTarget}
    {result : SyncResult} {location : Location} (targeted : request.target = some target)
    (success : result.success = true)
    (leaves : LeavesScanned root request (.ok result) ([] ++ [location]))
    (reference : IsReference target location) : InLayout root target location := by
  have scans := leaves result rfl success target targeted _ (PluginLoader.shows_treeHost _)
  exact inLayout_of_scanned reference (scans location List.mem_cons_self reference)

/-- The bucket lists one tool that has no category level. -/
def flatListing : Remote where
  objects _ := some [⟨"users/10/ann/demo/tools/add/references/add.py", "1"⟩]
  userIds _ _ := some "10"
  folders _ := none

def flatFile : Location :=
  ["srv", "data", "ann", "demo", "tools", "add", "references", "add.py"]

/-- No path exists below the data root, and every download succeeds there. -/
def storingEnvironment : Environment effects
  | history, .download key path =>
      if IsAncestor exampleRoot (resolve path) then existing flatListing history (.download key path)
      else .returned ()
  | _, .pathExists _ => .returned false
  | history, op => existing flatListing history op

theorem realistic_storing (history : List SyncEvent) (op : Op) :
    Realistic exampleRoot flatListing ⟨op, storingEnvironment history op⟩ := by
  cases op with
  | download key path =>
      intro applied above
      simp only [storingEnvironment, existing, if_pos above] at applied
      cases applied
  | pathExists _ => trivial
  | _ => exact realistic_existing history _

end GrafuxMcp.CloudSync
