import GrafuxMcp.CloudSync.Traversal

/-! # Syncs and the data tree

Which requests make the syncer write, create and remove inside the data tree
only, whatever the file system and the downloads do. -/

namespace GrafuxMcp.CloudSync

open GrafuxMcp PosixPath Program

/-! ### What an operation touches -/

/-- The locations that were written, created or removed. -/
def touches : SyncEvent → List Location
  | ⟨.makeDir path, .returned created⟩ => if created then [resolve path] else []
  | ⟨.makeDir path, .raised _ applied _⟩ => if applied then [resolve path] else []
  | ⟨.download _ path, outcome⟩ | ⟨.writeEtags path _, outcome⟩ | ⟨.writeBytes path _, outcome⟩
  | ⟨.removeTree path, outcome⟩ => if outcome.applied then [resolve path] else []
  | ⟨.unlink location, outcome⟩ => if outcome.applied then [location] else []
  | ⟨.replace source target, outcome⟩ =>
      if outcome.applied then [resolve source, resolve target] else []
  | _ => []

def removesTree : SyncEvent → Bool
  | ⟨.removeTree _, _⟩ => true
  | _ => false

variable (root : DataRoot)

def Inside (location : Location) : Prop :=
  root.path <+: location

/-- What is touched is inside the data tree, and the tree itself is not removed. -/
def Contained (event : SyncEvent) : Prop :=
  ∀ location ∈ touches event,
    Inside root location ∧ (removesTree event = true → location ≠ root.path)

def IsAncestor (location : Location) : Prop :=
  location <+: root.path ∧ location ≠ root.path

instance (location : Location) : Decidable (IsAncestor root location) :=
  inferInstanceAs (Decidable (_ ∧ _))

/-- What the bucket and the storage list, and the user ids that are cached. -/
structure Remote where
  objects : String → Option (List S3Object)
  userIds : String → String → Option String
  folders : String → Option (List StorageItem)

variable (remote : Remote)

/-- The listings are the given ones, `rglob` finds locations below its base, and
the directories above the data root exist: they are neither created nor
overwritten. -/
def Realistic : SyncEvent → Prop
  | ⟨.listObjects keyPrefix, outcome⟩ => outcome = .returned (remote.objects keyPrefix)
  | ⟨.cachedUserId username project, outcome⟩ =>
      outcome = .returned (remote.userIds username project)
  | ⟨.listFolder folder, outcome⟩ => outcome = .returned (remote.folders folder)
  | ⟨.rglob base _, .returned found⟩ => ∀ location ∈ found, base <+: location
  | ⟨.makeDir path, outcome⟩ =>
      ∀ location ∈ touches ⟨.makeDir path, outcome⟩, ¬ IsAncestor root location
  | ⟨.download _ path, outcome⟩ | ⟨.writeBytes path _, outcome⟩ =>
      outcome.applied = true → ¬ IsAncestor root (resolve path)
  | _ => True

def containment : Contract effects Unit where
  observe _ _ := ()
  assume _ := Realistic root remote
  guarantee _ := Contained root

variable {root remote}

theorem realistic_possible (op : Op) :
    ∃ outcome : Outcome effects op, Realistic root remote ⟨op, outcome⟩ := by
  cases op with
  | listObjects keyPrefix => exact ⟨.returned (remote.objects keyPrefix), rfl⟩
  | cachedUserId username project => exact ⟨.returned (remote.userIds username project), rfl⟩
  | listFolder folder => exact ⟨.returned (remote.folders folder), rfl⟩
  | rglob base pattern => exact ⟨.returned [], by simp [Realistic]⟩
  | makeDir path => exact ⟨.returned false, by simp [Realistic, touches]⟩
  | download key path => exact ⟨.raised "" false rfl, fun applied => by cases applied⟩
  | writeBytes path object => exact ⟨.raised "" false rfl, fun applied => by cases applied⟩
  | s3Available | awsAccessKey | supabaseConfigured | fetchObject _ | pathExists _ | isDir _
  | isFile _ => exact ⟨.returned true, trivial⟩
  | readEtags _ => exact ⟨.returned fun _ => none, trivial⟩
  | reloadPlugins => exact ⟨.returned 0, trivial⟩
  | _ => exact ⟨.returned (), trivial⟩

theorem inside_of_onLine {location : Location} (line : OnLine root.path location)
    (below : ¬ IsAncestor root location) : Inside root location := by
  rcases line with inside | above
  · exact inside
  · have same : location = root.path := by
      by_contra different
      exact below ⟨above, different⟩
    rw [same]
    exact List.prefix_rfl

/-! ### Requests that stay inside -/

section Listings

variable (remote : Remote)

/-- The user ids with which `sync_tool` may list the bucket. -/
def Remote.possibleUserIds (username project : String) (userId : Option String) : List String :=
  match given userId with
  | some uid => [uid]
  | none =>
      match remote.userIds username ((given (some project)).getD "") with
      | some uid => [uid]
      | none =>
          let found := (remote.objects "users/").bind
            (userIdOf (userPattern username (some project)))
          ["10", found.getD "10"]

def Remote.prefixes (username project toolName : String) (category : Option String) :
    List String :=
  match given category with
  | some category => [s!"{username}/{project}/tools/{category}/{toolName}"]
  | none => categoryCandidates username project toolName
      ((remote.folders s!"{username}/{project}/tools/").getD [])

/-- The files of a folder, given those of its subfolders. -/
def listedItems (listedSubfolder : String → Except Exc (List String)) (folder : String) :
    List StorageItem → List String → List String
  | [], paths => paths
  | item :: items, paths =>
      let path := s!"{folder}/{item.name}"
      if isHidden item then
        listedItems listedSubfolder folder items paths
      else if item.hasId then
        listedItems listedSubfolder folder items (paths ++ [path])
      else
        match listedSubfolder path with
        | .ok found => listedItems listedSubfolder folder items (paths ++ found)
        | .error _ => paths

/-- The files that the storage lists below a folder, to a depth. -/
def Remote.listed : Nat → String → Except Exc (List String)
  | 0, _ => .error "maximum recursion depth exceeded"
  | depth + 1, folder =>
      .ok (listedItems (Remote.listed depth) folder ((remote.folders folder).getD []) [])

def Remote.firstListed (depth : Nat) : List String → Except Exc (List String)
  | [] => .ok []
  | folder :: folders =>
      match remote.listed depth folder with
      | .ok found => if found.isEmpty then Remote.firstListed depth folders else .ok found
      | .error error => .error error

end Listings

/-- The path of a file on its way through the data root. -/
def FileStays (root : DataRoot) (name : String) : Prop :=
  StaysOn root.path (child root.path name)

/-- The condition on a request and on what the bucket and the storage list. -/
def Request.StaysInside (root : DataRoot) (remote : Remote) : Request → Prop
  | .all username project cleanFirst =>
      ∀ objects, remote.objects "users/" = some objects → objects ≠ [] →
        (cleanFirst = true → ∀ target, cleanTarget root username project = some target →
          Inside root (resolve target) ∧ resolve target ≠ root.path) ∧
        ∀ object ∈ objects, ∀ key, selectedKey username project object = some key →
          FileStays root key
  | .tool username project toolName category userId =>
      ∀ uid ∈ remote.possibleUserIds username project userId,
        ∀ objects, remote.objects (toolPrefix uid username project toolName category) =
          some objects →
        ∀ object ∈ objects, ∀ key, fileKey object = some key → FileStays root key
  | .toolFromSupabase depth username project toolName category =>
      ∀ paths, remote.firstListed depth (remote.prefixes username project toolName category) =
          .ok paths →
        ∀ path ∈ paths, isToolFile path = true → FileStays root path

/-! ### Reading the listings -/

/-- Each folder is listed as the storage has it, which the contract does not observe. -/
structure ListsFolders {σ : Type} (contract : Contract effects σ) (remote : Remote) (s : σ) :
    Prop where
  answers : ∀ folder,
    contract.assume s ⟨.listFolder folder, .returned (remote.folders folder)⟩
  only : ∀ folder (outcome : Outcome effects (.listFolder folder)),
    contract.assume s ⟨.listFolder folder, outcome⟩ → outcome = .returned (remote.folders folder)
  guaranteed : ∀ folder,
    contract.guarantee s ⟨.listFolder folder, .returned (remote.folders folder)⟩
  unobserved : ∀ folder,
    contract.observe s ⟨.listFolder folder, .returned (remote.folders folder)⟩ = s

theorem containment_lists : ListsFolders (containment root remote) remote () where
  answers _ := rfl
  only _ _ assumed := assumed
  guaranteed _ := by simp [containment, Contained, touches]
  unobserved _ := rfl

section Reads

variable {σ : Type} {contract : Contract effects σ} {s : σ}

theorem yields_listFolder (lists : ListsFolders contract remote s) (folder : String) :
    Yields contract s (listFolder folder) (.ok (remote.folders folder)) :=
  Yields.catch_ok (yields_call _ (lists.answers folder) (lists.only folder)
    (lists.guaranteed folder) (lists.unobserved folder))

theorem yields_prefixesToTry (lists : ListsFolders contract remote s)
    (username project toolName : String) (category : Option String) :
    Yields contract s (prefixesToTry username project toolName category)
      (.ok (remote.prefixes username project toolName category)) := by
  unfold prefixesToTry Remote.prefixes
  cases given category with
  | some category => exact yields_pure _
  | none => exact (yields_listFolder lists _).bind (yields_pure _)

theorem yields_listItems {listSubfolder : String → Sync (List String)}
    {listedSubfolder : String → Except Exc (List String)}
    (subfolders : ∀ folder, Yields contract s (listSubfolder folder) (listedSubfolder folder))
    (folder : String) (items : List StorageItem) (paths : List String) :
    Yields contract s (listItems listSubfolder folder items paths)
      (.ok (listedItems listedSubfolder folder items paths)) := by
  induction items generalizing paths with
  | nil => exact yields_pure _
  | cons item items induction =>
      unfold listItems listedItems
      by_cases hidden : isHidden item = true
      · simp only [hidden, if_true]
        exact induction paths
      · by_cases isFile : item.hasId = true
        · simp only [hidden, isFile, if_true]
          exact induction _
        · simp only [hidden, isFile, Bool.false_eq_true, if_false]
          have subfolder := subfolders s!"{folder}/{item.name}"
          cases listed : listedSubfolder s!"{folder}/{item.name}" with
          | ok found =>
              rw [listed] at subfolder
              exact (Yields.catch_ok (subfolder.map some)).bind (induction _)
          | error error =>
              rw [listed] at subfolder
              have caught : Yields contract s
                  (try some <$> listSubfolder s!"{folder}/{item.name}" catch _ => pure none)
                  (.ok none) := Yields.catch_error (subfolder.map_error some) (yields_pure none)
              exact caught.bind (yields_pure _)

theorem yields_listRecursive (lists : ListsFolders contract remote s) (depth : Nat)
    (folder : String) :
    Yields contract s (listRecursive depth folder) (remote.listed depth folder) := by
  induction depth generalizing folder with
  | zero => exact yields_throw _
  | succ depth induction =>
      exact (yields_listFolder lists folder).bind (yields_listItems induction folder _ [])

theorem yields_firstListed (lists : ListsFolders contract remote s) (depth : Nat)
    (folders : List String) :
    Yields contract s (firstListed depth folders) (remote.firstListed depth folders) := by
  induction folders with
  | nil => exact yields_pure _
  | cons folder folders induction =>
      have first : Yields contract s (listRecursive depth folder)
          (remote.listed depth folder) := yields_listRecursive lists depth folder
      unfold firstListed Remote.firstListed
      cases listed : remote.listed depth folder with
      | error error =>
          rw [listed] at first
          exact first.bind_error
      | ok found =>
          rw [listed] at first
          apply first.bind
          cases empty : found.isEmpty with
          | true => simpa only [empty, if_true] using induction
          | false => simpa only [empty, Bool.false_eq_true, if_false] using yields_pure found

end Reads

/-! ### Requests that meet the condition -/

section Keeps

abbrev KeepsInside (root : DataRoot) (remote : Remote) (program : Sync α) : Prop :=
  Keeps (containment root remote) (fun _ => True) program

abbrev LearnsInside (root : DataRoot) (remote : Remote) (program : Sync α) (known : α → Prop) :
    Prop :=
  Learns (containment root remote) (fun _ => True) program known

theorem keeps_perform {op : Op}
    (contained : ∀ outcome : Outcome effects op, Realistic root remote ⟨op, outcome⟩ →
      ∀ location ∈ touches ⟨op, outcome⟩,
        Inside root location ∧ (removesTree ⟨op, outcome⟩ = true → location ≠ root.path)) :
    KeepsInside root remote (perform op) :=
  keeps_call fun _ outcome _ assumed => ⟨contained outcome assumed, trivial⟩

theorem keeps_bind_yields {program : Sync α} {next : α → Sync β} {result : Except Exc α}
    (first : Yields (containment root remote) () program result)
    (rest : ∀ value, result = .ok value → KeepsInside root remote (next value)) :
    KeepsInside root remote (program >>= next) :=
  keeps_bind_of (fun _ _ => (first _).mpr ⟨trivial, fun _ equal => equal⟩) rest

/-- An operation that touches nothing. -/
theorem keeps_silent {op : Op}
    (silent : ∀ outcome : Outcome effects op, touches ⟨op, outcome⟩ = []) :
    KeepsInside root remote (perform op) := by
  apply keeps_perform
  intro outcome _ location member
  rw [silent outcome] at member
  cases member

/-- What the answer of an operation that touches nothing is known to be. -/
theorem learns_perform {op : Op} {known : op.Answer → Prop}
    (silent : ∀ outcome : Outcome effects op, touches ⟨op, outcome⟩ = [])
    (answers : ∀ answer, Realistic root remote ⟨op, .returned answer⟩ → known answer) :
    LearnsInside root remote (perform op) known :=
  learns_call (keeps_silent silent) fun _ answer _ => answers answer

theorem keeps_makeDir {path : List String} (line : OnLine root.path (resolve path)) :
    KeepsInside root remote (perform (.makeDir path)) := by
  apply keeps_perform
  intro outcome realistic location member
  have below := realistic location member
  have same : location = resolve path := by
    cases outcome with
    | returned created => cases created <;> simp_all [touches]
    | raised _ applied _ => cases applied <;> simp_all [touches]
  rw [same] at below ⊢
  exact ⟨inside_of_onLine line below, fun removes => by cases removes⟩

/-- The writes of a file in the data root itself. -/
theorem inside_file {name : String} (plain : name ≠ "..") :
    Inside root (resolve (root.path ++ [name])) := by
  rw [resolve_append_of_plain (by simpa [IsPlain] using plain.symm), resolve_of_plain root.plain]
  exact List.prefix_append _ _

theorem keeps_makeRoot : KeepsInside root remote (perform (.makeDir root.path)) := by
  apply keeps_makeDir
  rw [resolve_of_plain root.plain]
  exact Or.inl List.prefix_rfl

theorem keeps_loadEtags_inside : KeepsInside root remote (loadEtags root) :=
  keeps_loadEtags keeps_makeRoot (fun _ => keeps_silent fun _ => rfl)
    fun _ => keeps_silent fun _ => rfl

theorem keeps_saveEtags_inside (cache : EtagCache) :
    KeepsInside root remote (saveEtags root cache) := by
  have temporary : Inside root (resolve (root.path ++ [etagTemporaryFile])) :=
    inside_file (by decide)
  have saved : Inside root (resolve (root.path ++ [etagFile])) := inside_file (by decide)
  apply keeps_saveEtags keeps_makeRoot
  · intro cache
    apply keeps_perform
    intro outcome _ location member
    have same : location = resolve (root.path ++ [etagTemporaryFile]) := by
      cases applied : outcome.applied <;> simp_all [touches]
    rw [same]
    exact ⟨temporary, fun removes => by cases removes⟩
  · apply keeps_perform
    intro outcome _ location member
    have either : location = resolve (root.path ++ [etagTemporaryFile]) ∨
        location = resolve (root.path ++ [etagFile]) := by
      cases applied : outcome.applied <;> simp_all [touches]
    refine ⟨?_, fun removes => by cases removes⟩
    rcases either with same | same
    · rw [same]
      exact temporary
    · rw [same]
      exact saved

/-- A write of a whole file at the end of a path that stays on the line. -/
theorem keeps_file {op : Op} {path : List String} (line : OnLine root.path (resolve path))
    (realistic : ∀ outcome : Outcome effects op, Realistic root remote ⟨op, outcome⟩ →
      outcome.applied = true → ¬ IsAncestor root (resolve path))
    (touched : ∀ outcome : Outcome effects op, touches ⟨op, outcome⟩ =
      if outcome.applied then [resolve path] else [])
    (writes : ∀ outcome : Outcome effects op, removesTree ⟨op, outcome⟩ = false) :
    KeepsInside root remote (perform op) := by
  apply keeps_perform
  intro outcome assumed location member
  rw [touched] at member
  cases applied : outcome.applied with
  | false => simp [applied] at member
  | true =>
      have same : location = resolve path := by simpa [applied] using member
      rw [same]
      refine ⟨inside_of_onLine line (realistic outcome assumed applied), ?_⟩
      simp [writes]

theorem keeps_syncObjects_inside {localKey : S3Object → Option String} {objects : List S3Object}
    (stays : ∀ object ∈ objects, ∀ key, localKey object = some key → FileStays root key)
    (tally : Tally) : KeepsInside root remote (syncObjects root localKey tally objects) := by
  apply keeps_syncObjects
  intro tally object member key named
  have line := staysOn_iff.mp (stays object member key named)
  apply keeps_syncObject
  · exact fun _ => keeps_silent fun _ => rfl
  · exact fun front within => keeps_makeDir (line.1 front within)
  · exact keeps_file line.2 (fun _ assumed => assumed) (fun _ => rfl) fun _ => rfl

theorem keeps_clean {username project : Option String}
    (stays : ∀ target, cleanTarget root username project = some target →
      Inside root (resolve target) ∧ resolve target ≠ root.path) :
    KeepsInside root remote (clean root username project) := by
  unfold clean
  cases named : cleanTarget root username project with
  | none => exact keeps_pure _
  | some target =>
      apply keeps_bind (keeps_silent fun _ => rfl)
      intro present
      cases present with
      | false => exact keeps_pure _
      | true =>
          apply keeps_perform
          intro outcome _ location member
          have same : location = resolve target := by
            cases applied : outcome.applied <;> simp_all [touches]
          rw [same]
          exact ⟨(stays target named).1, fun _ => (stays target named).2⟩

theorem keeps_unlink {location : Location} (inside : Inside root location) :
    KeepsInside root remote (perform (.unlink location)) := by
  apply keeps_perform
  intro outcome _ removed member
  have same : removed = location := by
    cases applied : outcome.applied <;> simp_all [touches]
  rw [same]
  exact ⟨inside, fun removes => by cases removes⟩

theorem learns_rglob (base : Location) (pattern : String) :
    LearnsInside root remote (perform (.rglob base pattern)) fun found =>
      ∀ location ∈ found, base <+: location := by
  apply learns_perform
  · simp [touches]
  · exact fun found realistic => realistic

theorem keeps_removeOrphans_inside (s3Files : List String) :
    KeepsInside root remote (removeOrphans root s3Files) := by
  apply keeps_removeOrphans learns_rglob fun _ => keeps_silent fun _ => rfl
  intro directory location below within
  apply keeps_removeOrphan (keeps_silent fun _ => rfl)
  intro _
  exact keeps_unlink (below.trans within)

theorem keeps_reloadIf_inside (changed : Bool) : KeepsInside root remote (reloadIf changed) :=
  keeps_reloadIf (keeps_silent fun _ => rfl) changed

theorem learns_listObjects (keyPrefix : String) :
    LearnsInside root remote (perform (.listObjects keyPrefix)) fun objects =>
      objects = remote.objects keyPrefix := by
  apply learns_perform
  · simp [touches]
  · intro objects realistic
    cases realistic
    rfl

theorem keeps_syncListed {username project : Option String} {objects : List S3Object}
    (stays : ∀ object ∈ objects, ∀ key, selectedKey username project object = some key →
      FileStays root key) :
    KeepsInside root remote (syncListed root username project objects) := by
  apply keeps_bind keeps_loadEtags_inside
  intro cache
  apply keeps_bind (keeps_syncObjects_inside stays _)
  intro tally
  apply keeps_bind (keeps_removeOrphans_inside _)
  intro deleted
  apply keeps_bind (keeps_saveEtags_inside _)
  intro _
  exact keeps_bind (keeps_reloadIf_inside _) fun _ => keeps_pure _

theorem keeps_syncAll {username project : Option String} {cleanFirst : Bool}
    (stays : (Request.all username project cleanFirst).StaysInside root remote) :
    KeepsInside root remote (syncAll root username project cleanFirst) := by
  apply keeps_bind (keeps_silent fun _ => rfl)
  intro available
  cases available with
  | false => exact keeps_pure _
  | true =>
      apply keeps_bind (keeps_silent fun _ => rfl)
      intro key
      cases key with
      | false => exact keeps_pure _
      | true =>
          apply keeps_tryCatch _ fun _ => keeps_pure _
          apply keeps_bind (keeps_silent fun _ => rfl)
          intro _
          apply keeps_bind keeps_makeRoot
          intro _
          apply keeps_bind_of
            (learns_listAllObjects (learns_listObjects "users/") (keeps_silent fun _ => rfl))
          intro objects listed
          cases empty : objects.isEmpty with
          | true =>
              simp only [if_true]
              exact keeps_pure _
          | false =>
              have parts := stays objects listed.symm (by simpa using empty)
              simp only [Bool.false_eq_true, if_false]
              cases cleanFirst with
              | false => exact keeps_syncListed parts.2
              | true => exact keeps_bind (keeps_clean (parts.1 rfl)) fun _ =>
                  keeps_syncListed parts.2

/-- What a user id is looked up from is as the bucket and the cache have it. -/
structure FindsUserIds {σ : Type} (contract : Contract effects σ) (inv : σ → Prop)
    (remote : Remote) : Prop where
  client : Keeps contract inv (perform .getClient)
  lists : ∀ keyPrefix, Learns contract inv (perform (.listObjects keyPrefix)) fun objects =>
    objects = remote.objects keyPrefix
  cached : ∀ username project, Learns contract inv (perform (.cachedUserId username project))
    fun uid => uid = remote.userIds username project
  stores : ∀ username project uid,
    Keeps contract inv (perform (.cacheUserId username project uid))

theorem containment_findsUserIds :
    FindsUserIds (containment root remote) (fun _ => True) remote where
  client := keeps_silent fun _ => rfl
  lists := learns_listObjects
  cached username project := by
    apply learns_perform fun _ => rfl
    intro answer realistic
    cases realistic
    rfl
  stores _ _ _ := keeps_silent fun _ => rfl

section UserIds

variable {σ : Type} {contract : Contract effects σ} {inv : σ → Prop}

theorem learns_findUserId (finds : FindsUserIds contract inv remote) (username : String)
    (project : Option String) :
    Learns contract inv (findUserId username project) fun found => found = none ∨
      found = (remote.objects "users/").bind (userIdOf (userPattern username project)) := by
  apply Learns.tryCatch
  · apply finds.client.learns.bind
    intro _ _
    apply (finds.lists "users/").bind
    intro answer equal
    rw [← equal]
    cases answer with
    | none => exact learns_pure (Or.inl rfl)
    | some objects => exact learns_pure (Or.inr rfl)
  · exact fun _ => learns_pure (Or.inl rfl)

theorem learns_toolUserId (finds : FindsUserIds contract inv remote) (username project : String)
    (userId : Option String) :
    Learns contract inv (toolUserId username project userId) fun uid =>
      uid ∈ remote.possibleUserIds username project userId := by
  unfold toolUserId Remote.possibleUserIds
  cases given userId with
  | some uid => exact learns_pure (List.mem_singleton_self uid)
  | none =>
      apply (finds.cached username ((given (some project)).getD "")).bind
      rintro answer rfl
      cases remote.userIds username ((given (some project)).getD "") with
      | some uid => exact learns_pure (List.mem_singleton_self uid)
      | none =>
          apply (learns_findUserId finds username (some project)).bind
          intro found known
          apply (finds.stores username _ (found.getD "10")).learns.bind
          intro _ _
          apply learns_pure
          rcases known with rfl | same
          · exact List.mem_cons_self
          · rw [same]
            exact List.mem_cons_of_mem _ (List.mem_singleton_self _)

end UserIds

theorem keeps_syncTool {username project toolName : String} {category userId : Option String}
    (stays : (Request.tool username project toolName category userId).StaysInside root remote) :
    KeepsInside root remote (syncTool root username project toolName category userId) := by
  apply keeps_bind (keeps_silent fun _ => rfl)
  intro available
  cases available with
  | false => exact keeps_pure _
  | true =>
      apply keeps_bind (keeps_silent fun _ => rfl)
      intro key
      cases key with
      | false => exact keeps_pure _
      | true =>
          apply keeps_tryCatch _ fun _ => keeps_pure _
          apply keeps_bind (keeps_silent fun _ => rfl)
          intro _
          apply keeps_bind_of (learns_toolUserId containment_findsUserIds username project userId)
          intro uid possible
          apply keeps_bind keeps_loadEtags_inside
          intro cache
          apply keeps_bind_of (learns_listObjects _)
          rintro objects rfl
          cases listed : remote.objects (toolPrefix uid username project toolName category) with
          | none => exact keeps_throw _
          | some objects =>
              apply keeps_bind (keeps_syncObjects_inside (stays uid possible objects listed) _)
              intro tally
              apply keeps_bind (keeps_silent fun _ => rfl)
              intro _
              apply keeps_bind (keeps_saveEtags_inside _)
              intro _
              exact keeps_bind (keeps_reloadIf_inside _) fun _ => keeps_pure _

theorem keeps_pullFile {path : String} (stays : isToolFile path = true → FileStays root path) :
    KeepsInside root remote (pullFile root path) := by
  unfold pullFile
  split
  case isFalse => exact keeps_pure _
  case isTrue tool =>
      have line := staysOn_iff.mp (stays tool)
      apply keeps_bind (keeps_tryCatch (keeps_silent fun _ => rfl) fun _ => keeps_pure _)
      intro fetched
      cases fetched with
      | false => exact keeps_pure _
      | true =>
          apply keeps_bind (keeps_makeDirs fun front within => keeps_makeDir (line.1 front within))
          intro _
          apply keeps_bind _ fun _ => keeps_pure _
          exact keeps_file line.2 (fun _ assumed => assumed) (fun _ => rfl) fun _ => rfl

theorem keeps_pullFiles {paths : List String}
    (stays : ∀ path ∈ paths, isToolFile path = true → FileStays root path) :
    KeepsInside root remote (pullFiles root paths) := by
  induction paths with
  | nil => exact keeps_pure _
  | cons path paths induction =>
      apply keeps_bind (keeps_pullFile (stays path List.mem_cons_self))
      intro _
      apply keeps_bind _ fun _ => keeps_pure _
      exact induction fun other member => stays other (List.mem_cons_of_mem _ member)

theorem keeps_syncToolFromSupabase {depth : Nat} {username project toolName : String}
    {category : Option String}
    (stays : (Request.toolFromSupabase depth username project toolName category).StaysInside
      root remote) :
    KeepsInside root remote (syncToolFromSupabase root depth username project toolName category) := by
  apply keeps_bind (keeps_silent fun _ => rfl)
  intro configured
  cases configured with
  | false => exact keeps_pure _
  | true =>
      apply keeps_tryCatch _ fun _ => keeps_pure _
      apply keeps_bind_yields (yields_prefixesToTry containment_lists username project toolName category)
      rintro prefixes ⟨⟩
      apply keeps_bind_yields (yields_firstListed containment_lists depth _)
      intro paths listed
      apply keeps_bind (keeps_pullFiles (stays paths listed))
      intro synced
      exact keeps_bind (keeps_reloadIf_inside _) fun _ => keeps_pure _

/-- A request that meets the condition touches the inside of the data tree only. -/
theorem keeps_program {request : Request} (stays : request.StaysInside root remote) :
    KeepsInside root remote (request.program root) := by
  cases request with
  | all username project cleanFirst => exact keeps_syncAll stays
  | tool username project toolName category userId => exact keeps_syncTool stays
  | toolFromSupabase depth username project toolName category =>
      exact keeps_syncToolFromSupabase stays

end Keeps

end GrafuxMcp.CloudSync
