import GrafuxMcp.CloudSync.Orphans

/-! # The scope of a filtered sync

A sync for a user, and perhaps a project, should change the files of that scope
only. Its filter takes every key that contains the names anywhere, and its sweep
takes every file below a `tools` directory, whosever it is. -/

namespace GrafuxMcp.CloudSync

open GrafuxMcp PosixPath Program

/-- `data/{username}/{project}`, or `data/{username}` without a project. -/
def scope (root : DataRoot) (username : String) (project : Option String) : Location :=
  match given project with
  | some project => resolve (child (child root.path username) project)
  | none => resolve (child root.path username)

/-- The files that were downloaded, overwritten or removed; a tree stands for
all its files. The ETag cache is no file of a user. -/
def changedFiles : SyncEvent → List Location
  | ⟨.download _ path, outcome⟩ | ⟨.writeBytes path _, outcome⟩ | ⟨.removeTree path, outcome⟩ =>
      if outcome.applied then [resolve path] else []
  | ⟨.unlink location, outcome⟩ => if outcome.applied then [location] else []
  | _ => []

def Disk.locations (disk : Disk) : List Location :=
  disk.items.map Prod.fst

/-- The listing is the given one, `rglob` finds what its pattern names below its
base, no download replaces the data root or a directory above it, and only a file
that is there can be unlinked. -/
def isPlausible (root : DataRoot) (listing : Option (List S3Object)) (disk : Disk) :
    SyncEvent → Bool
  | ⟨.listObjects _, .returned listed⟩ => listed = listing
  | ⟨.rglob base pattern, .returned found⟩ =>
      found.all fun location => base.isPrefixOf location && location != base &&
        (pattern = "*" || location.getLast? = some pattern)
  | ⟨.download _ path, outcome⟩ => !(outcome.applied && (resolve path).isPrefixOf root.path)
  | ⟨.unlink location, outcome⟩ => !outcome.applied || (disk.get location).isSome
  | _ => true

abbrev Plausible (root : DataRoot) (listing : Option (List S3Object)) (disk : Disk)
    (event : SyncEvent) : Prop :=
  isPlausible root listing disk event = true

variable (root : DataRoot) (listing : Option (List S3Object)) (username : String)
  (project : Option String)

def scoping : Contract effects Disk where
  observe := observe
  assume := Plausible root listing
  guarantee _ event := ∀ location ∈ changedFiles event, scope root username project <+: location

/-- In every run with this listing and these local files, only files of the scope
are downloaded, overwritten or removed. -/
def StaysInScope (disk : Disk) (cleanFirst : Bool) : Prop :=
  ∀ environment : Environment effects,
    EachStep observe (Plausible root listing) disk
      ((syncAll root (some username) project cleanFirst).trace environment) →
    ∀ event ∈ (syncAll root (some username) project cleanFirst).trace environment,
      ∀ location ∈ changedFiles event, scope root username project <+: location

/-- The keys that pass the filters lead into the scope, and so do the local files
below `tools` directories that none of these keys names. -/
structure KeysInScope (disk : Disk) : Prop where
  keys : ∀ objects, listing = some objects →
    ∀ key ∈ objects.filterMap (selectedKey (some username) project),
      scope root username project <+: resolve (child root.path key) ∨
        resolve (child root.path key) <+: root.path
  files : ∀ objects, listing = some objects → objects ≠ [] →
    ∀ location ∈ disk.locations, isSwept root location = true →
      nameOf root location ∉ objects.filterMap (selectedKey (some username) project) →
        scope root username project <+: location

variable {root listing username project}

theorem plausible_listObjects {disk : Disk} {keyPrefix : String}
    {listed : Option (List S3Object)} :
    Plausible root listing disk ⟨.listObjects keyPrefix, .returned listed⟩ ↔ listed = listing := by
  simp [Plausible, isPlausible]

theorem plausible_rglob {disk : Disk} {base : Location} {pattern : String}
    {found : List Location} :
    Plausible root listing disk ⟨.rglob base pattern, .returned found⟩ ↔
      ∀ location ∈ found, base <+: location ∧ location ≠ base ∧
        (pattern ≠ "*" → location.getLast? = some pattern) := by
  simp [Plausible, isPlausible, and_assoc, imp_iff_not_or]

theorem plausible_download {disk : Disk} {key : String} {path : List String}
    {outcome : Outcome effects (.download key path)} :
    Plausible root listing disk ⟨.download key path, outcome⟩ ↔
      (outcome.applied = true → ¬ resolve path <+: root.path) := by
  simp only [Plausible, isPlausible, Bool.not_eq_true', Bool.and_eq_false_imp]
  rw [Bool.eq_false_iff, ne_eq, List.isPrefixOf_iff_prefix]

theorem plausible_unlink {disk : Disk} {location : Location}
    {outcome : Outcome effects (.unlink location)} :
    Plausible root listing disk ⟨.unlink location, outcome⟩ ↔
      (outcome.applied = true → location ∈ disk.locations) := by
  rw [Disk.locations, ← OrderedDict.isSome_get]
  simp [Plausible, isPlausible, imp_iff_not_or]

theorem plausible_possible (disk : Disk) (op : Op) :
    ∃ outcome : Outcome effects op, Plausible root listing disk ⟨op, outcome⟩ := by
  cases op with
  | listObjects keyPrefix => exact ⟨.returned listing, plausible_listObjects.mpr rfl⟩
  | rglob base pattern => exact ⟨.returned [], rfl⟩
  | download key path => exact ⟨.raised "" false rfl, rfl⟩
  | unlink location => exact ⟨.raised "" false rfl, rfl⟩
  | s3Available | awsAccessKey | supabaseConfigured | fetchObject _ | pathExists _ | isDir _
  | isFile _ | makeDir _ => exact ⟨.returned true, rfl⟩
  | cachedUserId _ _ | listFolder _ => exact ⟨.returned none, rfl⟩
  | readEtags _ => exact ⟨.returned fun _ => none, rfl⟩
  | reloadPlugins => exact ⟨.returned 0, rfl⟩
  | _ => exact ⟨.returned (), rfl⟩

/-! ### Listings that lead into the scope -/

section Keeps

variable {op : Op}

abbrev KeepsScope (root : DataRoot) (listing : Option (List S3Object)) (username : String)
    (project : Option String) (program : Sync α) : Prop :=
  Keeps (scoping root listing username project) (KeysInScope root listing username project)
    program

theorem keeps_scope
    (changes : ∀ disk (outcome : Outcome effects op),
      Plausible root listing disk ⟨op, outcome⟩ → KeysInScope root listing username project disk →
        ∀ location ∈ changedFiles ⟨op, outcome⟩, scope root username project <+: location)
    (files : ∀ disk (outcome : Outcome effects op),
      Plausible root listing disk ⟨op, outcome⟩ → ∀ item ∈ (observe disk ⟨op, outcome⟩).items,
        item ∈ disk.items ∨ isSwept root item.1 = false ∨
          scope root username project <+: item.1) :
    KeepsScope root listing username project (perform op) := by
  apply keeps_call
  intro disk outcome inScope allowed
  refine ⟨changes disk outcome allowed inScope, inScope.keys, ?_⟩
  intro objects listed nonempty location member swept unnamed
  rcases List.mem_map.mp member with ⟨item, inside, equal⟩
  rw [← equal] at swept unnamed ⊢
  rcases files disk outcome allowed item inside with before | notSwept | new
  · exact inScope.files objects listed nonempty _ (List.mem_map_of_mem before) swept unnamed
  · rw [notSwept] at swept
    cases swept
  · exact new

/-- An operation that changes no file. -/
theorem keeps_scope_idle
    (silent : ∀ outcome : Outcome effects op, changedFiles ⟨op, outcome⟩ = [])
    (same : ∀ disk (outcome : Outcome effects op), observe disk ⟨op, outcome⟩ = disk) :
    KeepsScope root listing username project (perform op) := by
  apply keeps_scope
  · intro disk outcome _ _ location member
    rw [silent outcome] at member
    cases member
  · intro disk outcome _ item member
    rw [same disk outcome] at member
    exact Or.inl member

/-- A file in the data root itself is not swept. -/
theorem isSwept_rootFile {name : String} (plain : name ≠ "..") :
    isSwept root (resolve (root.path ++ [name])) = false := by
  rw [resolve_append_of_plain (by simpa [IsPlain] using plain.symm), resolve_of_plain root.plain]
  simp [isSwept]

theorem keeps_saveEtags_scope (cache : EtagCache) :
    KeepsScope root listing username project (saveEtags root cache) := by
  have temporary : isSwept root (resolve (root.path ++ [etagTemporaryFile])) = false :=
    isSwept_rootFile (by decide)
  have saved : isSwept root (resolve (root.path ++ [etagFile])) = false :=
    isSwept_rootFile (by decide)
  apply keeps_saveEtags (keeps_scope_idle (fun _ => rfl) fun _ _ => rfl)
  · intro cache
    apply keeps_scope (by simp [changedFiles])
    intro disk outcome _ item member
    simp only [observe] at member
    split at member
    · rcases OrderedDict.mem_of_mem_set member with equal | before
      · rw [equal]
        exact Or.inr (Or.inl temporary)
      · exact Or.inl before
    · exact Or.inl member
  · apply keeps_scope (by simp [changedFiles])
    intro disk outcome _ item member
    simp only [observe] at member
    split at member
    · rcases OrderedDict.mem_of_mem_set member with equal | before
      · rw [equal]
        exact Or.inr (Or.inl saved)
      · exact Or.inl (OrderedDict.mem_of_mem_pop before)
    · exact Or.inl member

theorem keeps_download_scope {key name : String}
    (leads : scope root username project <+: resolve (child root.path name) ∨
      resolve (child root.path name) <+: root.path) :
    KeepsScope root listing username project (perform (.download key (child root.path name))) := by
  -- a download that takes effect leads into the scope
  have inside : ∀ disk (outcome : Outcome effects (.download key (child root.path name))),
      Plausible root listing disk ⟨_, outcome⟩ → outcome.applied = true →
        scope root username project <+: resolve (child root.path name) := by
    intro disk outcome allowed applied
    exact leads.resolve_right (plausible_download.mp allowed applied)
  apply keeps_scope
  · intro disk outcome allowed _ location member
    cases applied : outcome.applied with
    | false => simp [changedFiles, applied] at member
    | true =>
        have same : location = resolve (child root.path name) := by
          simpa [changedFiles, applied] using member
        rw [same]
        exact inside disk outcome allowed applied
  · intro disk outcome allowed item member
    simp only [observe] at member
    split at member
    case isFalse => exact Or.inl member
    case isTrue applied =>
      rcases OrderedDict.mem_of_mem_set member with equal | before
      · rw [equal]
        exact Or.inr (Or.inr (inside disk outcome allowed applied))
      · exact Or.inl before

/-- What is cleaned is the scope. -/
theorem resolve_cleanTarget {target : List String}
    (named : cleanTarget root (some username) project = some target) :
    resolve target = scope root username project := by
  unfold cleanTarget at named
  unfold scope
  cases text : given (some username) with
  | none => simp [text] at named
  | some other =>
      have equal : username = other := by
        simpa [given] using (Option.filter_eq_some_iff.mp text).1
      cases chosen : given project with
      | none =>
          rw [text, chosen, ← equal] at named
          exact congrArg resolve (Option.some.inj named).symm
      | some project =>
          rw [text, chosen, ← equal] at named
          exact congrArg resolve (Option.some.inj named).symm

theorem keeps_clean_scope :
    KeepsScope root listing username project (clean root (some username) project) := by
  unfold clean
  cases named : cleanTarget root (some username) project with
  | none => exact keeps_pure _
  | some target =>
      apply keeps_bind (keeps_scope_idle (fun _ => rfl) fun _ _ => rfl)
      intro present
      cases present with
      | false => exact keeps_pure _
      | true =>
          apply keeps_scope
          · intro disk outcome _ _ location member
            have removed : location = resolve target := by
              cases applied : outcome.applied <;> simp_all [changedFiles]
            rw [removed, resolve_cleanTarget named]
          · intro disk outcome _ item member
            simp only [observe] at member
            split at member
            · exact Or.inl (OrderedDict.mem_of_mem_filter member)
            · exact Or.inl member

theorem learns_rglob_scope (base : Location) (pattern : String) :
    Learns (scoping root listing username project) (KeysInScope root listing username project)
      (perform (.rglob base pattern)) fun found =>
        ∀ location ∈ found, base <+: location ∧ location ≠ base ∧
          (pattern ≠ "*" → location.getLast? = some pattern) :=
  learns_call (keeps_scope_idle (fun _ => rfl) fun _ _ => rfl) fun _ _ _ allowed =>
    plausible_rglob.mp allowed

theorem keeps_removeOrphans_scope {objects : List S3Object} (listed : listing = some objects)
    (nonempty : objects ≠ []) :
    KeepsScope root listing username project
      (removeOrphans root (objects.filterMap (selectedKey (some username) project))) := by
  apply keeps_removeOrphans learns_rglob_scope
  · exact fun _ => keeps_scope_idle (fun _ => rfl) fun _ _ => rfl
  intro directory location found within
  have swept : isSwept root location = true :=
    isSwept_of_below found.1 found.2.1 (found.2.2 (by decide)) within.1 within.2.1
  apply keeps_removeOrphan (keeps_scope_idle (fun _ => rfl) fun _ _ => rfl)
  intro unnamed
  apply keeps_scope
  · intro disk outcome allowed inScope removed member
    cases applied : outcome.applied with
    | false => simp [changedFiles, applied] at member
    | true =>
        have same : removed = location := by simpa [changedFiles, applied] using member
        rw [same]
        exact inScope.files objects listed nonempty location
          (plausible_unlink.mp allowed applied) swept unnamed
  · intro disk outcome _ item member
    simp only [observe] at member
    split at member
    · exact Or.inl (OrderedDict.mem_of_mem_pop member)
    · exact Or.inl member

theorem keeps_syncListed_scope {objects : List S3Object} (listed : listing = some objects)
    (nonempty : objects ≠ []) :
    KeepsScope root listing username project
      (syncListed root (some username) project objects) := by
  have etags : KeepsScope root listing username project (loadEtags root) :=
    keeps_loadEtags (keeps_scope_idle (fun _ => rfl) fun _ _ => rfl)
      (fun _ => keeps_scope_idle (fun _ => rfl) fun _ _ => rfl)
      fun _ => keeps_scope_idle (fun _ => rfl) fun _ _ => rfl
  intro disk inScope
  apply Keeps.andThen etags inScope _ fun _ _ holds => holds
  intro cache disk inScope
  -- the downloads lead into the scope
  have downloads : KeepsScope root listing username project
      (syncObjects root (selectedKey (some username) project) ⟨cache, 0, 0⟩ objects) := by
    apply keeps_syncObjects
    intro tally object member key named
    apply keeps_syncObject
    · exact fun _ => keeps_scope_idle (fun _ => rfl) fun _ _ => rfl
    · exact fun _ _ => keeps_scope_idle (fun _ => rfl) fun _ _ => rfl
    · have selected : key ∈ objects.filterMap (selectedKey (some username) project) :=
        List.mem_filterMap.mpr ⟨object, member, named⟩
      exact keeps_download_scope (inScope.keys objects listed key selected)
  apply downloads.andThen inScope _ fun _ _ holds => holds
  intro tally disk inScope
  apply (keeps_removeOrphans_scope listed nonempty).andThen inScope _ fun _ _ holds => holds
  intro deleted disk inScope
  apply (keeps_saveEtags_scope _).andThen inScope _ fun _ _ holds => holds
  intro _ disk inScope
  have reloads : KeepsScope root listing username project (reloadIf (tally.synced + deleted > 0)) :=
    keeps_reloadIf (keeps_scope_idle (fun _ => rfl) fun _ _ => rfl) _
  exact keeps_bind reloads (fun _ => keeps_pure _) disk inScope

theorem keeps_syncAll_scope (cleanFirst : Bool) :
    KeepsScope root listing username project
      (syncAll root (some username) project cleanFirst) := by
  have idle : ∀ {op : Op}, (∀ outcome : Outcome effects op, changedFiles ⟨op, outcome⟩ = []) →
      (∀ disk (outcome : Outcome effects op), observe disk ⟨op, outcome⟩ = disk) →
      KeepsScope root listing username project (perform op) := keeps_scope_idle
  apply keeps_bind (idle (fun _ => rfl) fun _ _ => rfl)
  intro available
  cases available with
  | false => exact keeps_pure _
  | true =>
  apply keeps_bind (idle (fun _ => rfl) fun _ _ => rfl)
  intro key
  cases key with
  | false => exact keeps_pure _
  | true =>
  apply keeps_tryCatch _ fun _ => keeps_pure _
  apply keeps_bind (idle (fun _ => rfl) fun _ _ => rfl)
  intro _
  apply keeps_bind (idle (fun _ => rfl) fun _ _ => rfl)
  intro _
  have lists : Learns (scoping root listing username project)
      (KeysInScope root listing username project) (perform (.listObjects "users/"))
      fun answer => answer = listing :=
    learns_call (idle (fun _ => rfl) fun _ _ => rfl) fun _ _ _ allowed =>
      plausible_listObjects.mp allowed
  apply keeps_bind_of (learns_listAllObjects lists (idle (fun _ => rfl) fun _ _ => rfl))
  intro objects listed
  cases empty : objects.isEmpty with
  | true =>
      simp only [if_true]
      exact keeps_pure _
  | false =>
      have nonempty : objects ≠ [] := by simpa using empty
      have rest : KeepsScope root listing username project
          (syncListed root (some username) project objects) :=
        keeps_syncListed_scope listed.symm nonempty
      simp only [Bool.false_eq_true, if_false]
      cases cleanFirst with
      | false => exact rest
      | true => exact keeps_bind keeps_clean_scope fun _ => rest

end Keeps

/-! ### Syncs that stay in the scope -/

section Reaches

variable {disk : Disk}

abbrev MeetsScope (root : DataRoot) (listing : Option (List S3Object)) (username : String)
    (project : Option String) (disk : Disk) (program : Sync α)
    (post : Except Exc α → Disk → Prop) : Prop :=
  program.Meets (scoping root listing username project) disk post

/-- A download may take effect, or fail and leave the files as they are. -/
theorem of_syncObject_scope {tally : Tally} {object : S3Object} {name : String}
    {post : Except Exc Tally → Disk → Prop}
    (meets : MeetsScope root listing username project disk
      (syncObject root tally object name) post) :
    (scope root username project <+: resolve (child root.path name) ∨
      resolve (child root.path name) <+: root.path) ∧ post (.ok tally) disk := by
  have unknown := of_notCurrent ⟨rfl, rfl⟩ (meets_bind.mp meets)
  have made := of_existingDirs (fun _ => ⟨rfl, rfl⟩) (meets_bind.mp unknown)
  have download := meets_bind.mp (meets_tryCatch.mp made)
  constructor
  · by_cases above : resolve (child root.path name) <+: root.path
    · exact Or.inr above
    · left
      have allowed : Plausible root listing disk
          ⟨.download object.key (child root.path name), .returned ()⟩ :=
        plausible_download.mpr fun _ => above
      have changes := (download.of_call (.returned ()) allowed).1
      exact changes _ (by simp [changedFiles])
  · exact (download.of_call (.raised "" false rfl) rfl).2

theorem of_syncObjects_scope {localKey : S3Object → Option String} {objects : List S3Object}
    {tally : Tally} {post : Except Exc Tally → Disk → Prop}
    (meets : MeetsScope root listing username project disk
      (syncObjects root localKey tally objects) post) :
    (∀ key ∈ objects.filterMap localKey,
      scope root username project <+: resolve (child root.path key) ∨
        resolve (child root.path key) <+: root.path) ∧ post (.ok tally) disk := by
  induction objects with
  | nil => exact ⟨by simp, meets⟩
  | cons object objects induction =>
      unfold syncObjects at meets
      cases named : localKey object with
      | none =>
          rw [named] at meets
          have rest := induction meets
          rw [List.filterMap_cons_none named]
          exact rest
      | some key =>
          rw [named] at meets
          have first := of_syncObject_scope (meets_bind.mp meets)
          have rest := induction first.2
          rw [List.filterMap_cons_some named]
          exact ⟨List.forall_mem_cons.mpr ⟨first.1, rest.1⟩, rest.2⟩

/-- Above each swept location there is a directory called `tools`. -/
theorem exists_tools_of_swept {location : Location} (swept : isSwept root location = true) :
    ∃ directory : Location, (root.path <+: directory ∧ directory ≠ root.path ∧
        directory.getLast? = some "tools") ∧
      directory <+: location ∧ location ≠ directory := by
  simp only [isSwept, Bool.and_eq_true, List.isPrefixOf_iff_prefix, decide_eq_true_eq] at swept
  rcases swept.1 with ⟨below, equal⟩
  rw [← equal, List.drop_left] at swept
  rcases List.append_of_mem swept.2 with ⟨first, last, parts⟩
  have nonempty : below ≠ [] := by
    intro empty
    rw [empty] at swept
    simp at swept
  have whole : below = first ++ ["tools"] ++ (last ++ [below.getLast nonempty]) :=
    calc below = below.dropLast ++ [below.getLast nonempty] :=
          (List.dropLast_append_getLast nonempty).symm
      _ = first ++ ["tools"] ++ (last ++ [below.getLast nonempty]) := by
          rw [parts]
          simp
  refine ⟨root.path ++ (first ++ ["tools"]), ⟨List.prefix_append _ _, by simp, by simp⟩, ?_, ?_⟩
  · rw [← equal, whole, List.prefix_append_right_inj]
    exact List.prefix_append _ _
  · intro same
    have lengths := congrArg List.length same
    rw [← equal, whole] at lengths
    simp at lengths

/-- The sweep may come to any local file below a `tools` directory. -/
theorem of_removeOrphans_scope {names : List String} {post : Except Exc Nat → Disk → Prop}
    (meets : MeetsScope root listing username project disk (removeOrphans root names) post)
    {location : Location} (present : location ∈ disk.locations)
    (swept : isSwept root location = true) (unnamed : nameOf root location ∉ names) :
    scope root username project <+: location := by
  rcases exists_tools_of_swept swept with ⟨directory, found, within⟩
  have finds : Plausible root listing disk ⟨.rglob root.path "tools", .returned [directory]⟩ :=
    plausible_rglob.mpr <| List.forall_mem_singleton.mpr ⟨found.1, found.2.1, fun _ => found.2.2⟩
  have directories := of_answer meets [directory] ⟨finds, rfl⟩
  have entered := of_answer (meets_bind.mp directories) true ⟨rfl, rfl⟩
  have contains : Plausible root listing disk ⟨.rglob directory "*", .returned [location]⟩ :=
    plausible_rglob.mpr <| List.forall_mem_singleton.mpr ⟨within.1, within.2, fun other => absurd rfl other⟩
  have files := of_answer entered [location] ⟨contains, rfl⟩
  have checked := of_answer (meets_bind.mp files) true ⟨rfl, rfl⟩
  have removal := meets_tryCatch.mp checked
  rw [if_neg unnamed] at removal
  have allowed : Plausible root listing disk ⟨.unlink location, .returned ()⟩ :=
    plausible_unlink.mpr fun _ => present
  exact ((meets_bind.mp removal).of_call (.returned ()) allowed).1 location (by simp [changedFiles])

theorem of_listing {keyPrefix : String} {objects : List S3Object}
    {post : Except Exc (List S3Object) → Disk → Prop}
    (meets : MeetsScope root listing username project disk (listAllObjects keyPrefix) post)
    (listed : listing = some objects) : post (.ok objects) disk := by
  have answered := of_answer meets listing ⟨plausible_listObjects.mpr rfl, rfl⟩
  rw [listed] at answered
  exact of_answer answered () ⟨rfl, rfl⟩

/-- Nothing is there to be cleaned. -/
theorem of_kept {post : Except Exc Unit → Disk → Prop}
    (meets : MeetsScope root listing username project disk
      (clean root (some username) project) post) : post (.ok ()) disk := by
  unfold clean at meets
  cases named : cleanTarget root (some username) project with
  | none =>
      rw [named] at meets
      exact meets
  | some target =>
      rw [named] at meets
      exact of_answer meets false ⟨rfl, rfl⟩

theorem of_syncListed_scope {objects : List S3Object} {post : Except Exc SyncResult → Disk → Prop}
    (meets : MeetsScope root listing username project disk
      (syncListed root (some username) project objects) post) :
    (∀ key ∈ objects.filterMap (selectedKey (some username) project),
      scope root username project <+: resolve (child root.path key) ∨
        resolve (child root.path key) <+: root.path) ∧
    ∀ location ∈ disk.locations, isSwept root location = true →
      nameOf root location ∉ objects.filterMap (selectedKey (some username) project) →
        scope root username project <+: location := by
  have loaded := of_missingEtags ⟨rfl, rfl⟩ (fun _ => ⟨rfl, rfl⟩) (meets_bind.mp meets)
  have synced := of_syncObjects_scope (meets_bind.mp loaded)
  refine ⟨synced.1, ?_⟩
  intro location present swept unnamed
  exact of_removeOrphans_scope (meets_bind.mp synced.2) present swept unnamed

theorem of_syncAll_scope {cleanFirst : Bool}
    (meets : MeetsScope root listing username project disk
      (syncAll root (some username) project cleanFirst) fun _ _ => True) :
    KeysInScope root listing username project disk := by
  have enabled := of_answer (of_answer meets true ⟨rfl, rfl⟩) true ⟨rfl, rfl⟩
  have body := of_answer (of_answer (meets_tryCatch.mp enabled) () ⟨rfl, rfl⟩) false ⟨rfl, rfl⟩
  have listed : ∀ objects, listing = some objects → objects ≠ [] → ∃ post,
      MeetsScope root listing username project disk
        (syncListed root (some username) project objects) post := by
    intro objects equal nonempty
    have synced := of_listing (meets_bind.mp body) equal
    have empty : objects.isEmpty = false := by simpa using nonempty
    simp only [andThen, empty, Bool.false_eq_true, if_false] at synced
    cases cleanFirst with
    | false => exact ⟨_, synced⟩
    | true => exact ⟨_, of_kept (meets_bind.mp synced)⟩
  constructor
  · intro objects equal key selected
    have nonempty : objects ≠ [] := by
      intro empty
      rw [empty] at selected
      cases selected
    rcases listed objects equal nonempty with ⟨post, meets⟩
    exact (of_syncListed_scope meets).1 key selected
  · intro objects equal nonempty
    rcases listed objects equal nonempty with ⟨post, meets⟩
    exact (of_syncListed_scope meets).2

end Reaches

/-! ### Every run -/

theorem sync_scoped_iff (root : DataRoot) (listing : Option (List S3Object)) (username : String)
    (project : Option String) (disk : Disk) (cleanFirst : Bool) :
    StaysInScope root listing username project disk cleanFirst ↔
      KeysInScope root listing username project disk := by
  have possible : ∀ (disk : Disk) (op : Op), ∃ outcome : Outcome effects op,
      (scoping root listing username project).assume disk ⟨op, outcome⟩ := plausible_possible
  have runs : MeetsScope root listing username project disk
      (syncAll root (some username) project cleanFirst) (fun _ _ => True) ↔ _ :=
    meets_iff_runs possible
  constructor
  · intro stays
    apply of_syncAll_scope
    apply runs.mpr
    intro environment allowed
    exact eachStep_const_iff.mpr (stays environment allowed)
  · intro inScope environment allowed
    have meets := (keeps_syncAll_scope cleanFirst disk inScope).mono fun _ _ _ => trivial
    exact eachStep_const_iff.mp (runs.mp meets environment allowed)

/-! ### A sync for another user -/

/-- The bucket lists one tool of `bob`. -/
def bobListing : Remote where
  objects _ := some [⟨"users/11/bob/demo/tools/general/sub/sub.py", "1"⟩]
  userIds _ _ := none
  folders _ := none

/-- A sync for `bob` deletes the tool of `ann`. -/
theorem foreign_file_deleted :
    ¬ ∀ root listing username project disk cleanFirst,
      StaysInScope root listing username project disk cleanFirst := by
  intro claimed
  let program := syncAll exampleRoot (some "bob") none false
  let environment := succeeding bobListing [exampleFile]
  let disk : Disk := OrderedDict.empty.set exampleFile .s3
  have allowed : EachStep observe (Plausible exampleRoot (bobListing.objects "users/")) disk
      (program.trace environment) := by
    decide +kernel
  have event : (program.trace environment)[23]? =
      some ⟨.unlink exampleFile, .returned ()⟩ := rfl
  have inScope := claimed exampleRoot _ "bob" none disk false environment allowed _
    (List.mem_of_getElem? event) exampleFile (by simp [changedFiles])
  exact absurd inScope (by decide)

end GrafuxMcp.CloudSync
