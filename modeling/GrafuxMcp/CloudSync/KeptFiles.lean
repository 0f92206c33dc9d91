import GrafuxMcp.CloudSync.Scope
import GrafuxMcp.CloudSync.UpToDate
import Mathlib.Data.Set.Insert

/-! # Files that a sync keeps

`sync_all()` should leave a file for every tool key of the bucket. It skips a key whose
ETag is cached if something stands in its place, and its sweep compares the names of the
files with the keys as the bucket spells them. -/

namespace GrafuxMcp.CloudSync

open GrafuxMcp PosixPath Program

/-! ### The data tree -/

structure Tree where
  files : Set Location
  dirs : Set Location

namespace Tree

variable (tree : Tree)

def write (location : Location) : Tree :=
  { tree with files := insert location tree.files }

def remove (location : Location) : Tree :=
  { tree with files := tree.files \ {location} }

/-- Something stands at the location. -/
def Holds (location : Location) : Prop :=
  location ∈ tree.files ∨ location ∈ tree.dirs

def observe : SyncEvent → Tree
  | ⟨.download _ path, outcome⟩ | ⟨.writeBytes path _, outcome⟩ | ⟨.writeEtags path _, outcome⟩ =>
      if outcome.applied then tree.write (resolve path) else tree
  | ⟨.replace source target, outcome⟩ =>
      if outcome.applied then (tree.remove (resolve source)).write (resolve target) else tree
  | ⟨.unlink location, outcome⟩ => if outcome.applied then tree.remove location else tree
  | ⟨.removeTree path, outcome⟩ =>
      if outcome.applied then
        { files := {location ∈ tree.files | ¬ resolve path <+: location}
          dirs := {location ∈ tree.dirs | ¬ resolve path <+: location} }
      else tree
  | ⟨.makeDir path, .returned true⟩ => { tree with dirs := insert (resolve path) tree.dirs }
  | _ => tree

end Tree

/-! ### The property -/

section Property

variable (root : DataRoot) (listing : List S3Object) (cache : EtagCache)

/-- The listing and the saved ETags are the given ones, `exists` tells what stands in the
tree, every download succeeds, only a file that is there can be unlinked, and `rglob`
finds what its pattern names below its base. -/
def Fits (tree : Tree) : SyncEvent → Prop
  | ⟨.listObjects _, .returned listed⟩ => listed = some listing
  | ⟨.readEtags path, .returned held⟩ => resolve path ∈ tree.files ∧ held = cache
  | ⟨.pathExists path, .returned present⟩ => present = true ↔ tree.Holds (resolve path)
  | ⟨.download _ _, .raised _ _ _⟩ => False
  | ⟨.unlink location, outcome⟩ => outcome.applied = true → location ∈ tree.files
  | ⟨.rglob base pattern, .returned found⟩ =>
      ∀ location ∈ found, base <+: location ∧ location ≠ base ∧
        (pattern ≠ "*" → location.getLast? = some pattern)
  | _ => True

def HasFiles (tree : Tree) : Prop :=
  ∀ object ∈ listing, toolKey object ≠ none → placeOf root object.key ∈ tree.files

def LeavesFiles (result : Except Exc SyncResult) (tree : Tree) : Prop :=
  ∀ returned, result = .ok returned → returned.success = true → HasFiles root listing tree

/-- Every sync that succeeds, and whose downloads do, leaves a file for every tool key. -/
def KeepsSynced (tree : Tree) (username project : Option String) (cleanFirst : Bool) : Prop :=
  ∀ environment : Environment effects,
    EachStep Tree.observe (Fits listing cache) tree
      ((syncAll root username project cleanFirst).trace environment) →
      LeavesFiles root listing ((syncAll root username project cleanFirst).result environment)
        (((syncAll root username project cleanFirst).trace environment).foldl Tree.observe tree)

/-- The tool keys lead to different places inside the data root, and no directory on the
way to one of them is the place of another. -/
structure Compatible : Prop where
  inside : ∀ object ∈ listing, toolKey object ≠ none →
    root.path <+: placeOf root object.key ∧ placeOf root object.key ≠ root.path
  distinct : ∀ first ∈ listing, ∀ second ∈ listing, toolKey first ≠ none →
    toolKey second ≠ none → placeOf root first.key = placeOf root second.key → first = second
  apart : ∀ first ∈ listing, ∀ second ∈ listing, toolKey first ≠ none → toolKey second ≠ none →
    ∀ front ∈ (child root.path (belowUser second.key)).dropLast.inits,
      resolve front ≠ placeOf root first.key

/-! ### The condition -/

open Classical in
/-- The ETags that the sync begins with. -/
noncomputable def loadedEtags (tree : Tree) : EtagCache :=
  if etagLocation root ∈ tree.files then cache else fun _ => none

/-- The sync leaves a file for the object: its local key is spelled as the sweep names the
file, what is taken for an earlier download is a file, and the file is not the syncer's
own. -/
structure Spared (tree : Tree) (object : S3Object) : Prop where
  spelled : isSwept root (placeOf root object.key) = true →
    belowUser object.key = nameOf root (placeOf root object.key)
  isFile : loadedEtags root cache tree object.key = some (stripQuotes object.etag) →
    tree.Holds (placeOf root object.key) → placeOf root object.key ∈ tree.files
  own : placeOf root object.key ≠ temporaryLocation root

/-- What follows the loop over the objects. -/
def finishSync (tally : Tally) : Sync SyncResult := do
  let deleted ← removeOrphans root (listing.filterMap toolKey)
  saveEtags root tally.cache
  let tools ← reloadIf (tally.synced + deleted > 0)
  return {
    success := true
    filesSynced := tally.synced
    filesSkipped := tally.skipped
    filesDeleted := deleted
    toolsLoaded := tools }

def keeping (listing : List S3Object) (cache : EtagCache) : Contract effects Tree where
  observe := Tree.observe
  assume := Fits listing cache
  guarantee _ _ := True

end Property

/-! ### Names and places -/

section Names

variable {root : DataRoot} {listing : List S3Object} {object : S3Object} {key name : String}

theorem toolKey_eq (named : toolKey object = some name) : name = belowUser object.key := by
  unfold toolKey selectedKey at named
  split at named
  · exact (Option.some.inj named).symm
  · cases named

/-- The name of a place leads to that place. -/
theorem resolve_nameOf (inside : root.path <+: resolve (child root.path name))
    (proper : resolve (child root.path name) ≠ root.path) :
    resolve (child root.path (nameOf root (resolve (child root.path name)))) =
      resolve (child root.path name) := by
  rcases inside with ⟨rest, equal⟩
  rw [← equal, nameOf, List.drop_left]
  have nonempty : rest ≠ [] := by
    intro empty
    rw [empty, List.append_nil] at equal
    exact proper equal.symm
  -- what stands below the root are components of the name
  have parts : ∀ part ∈ rest, part ∈ components name ∧ part ≠ ".." := by
    intro part member
    rcases List.mem_iff_getElem?.mp member with ⟨index, found⟩
    have here : (resolve (child root.path name))[root.path.length + index]? = some part := by
      rw [← equal, List.getElem?_append_right (Nat.le_add_right _ _), Nat.add_sub_cancel_left]
      exact found
    have outside : root.path[root.path.length + index]? = none :=
      List.getElem?_eq_none (Nat.le_add_right _ _)
    unfold child at here
    split at here
    · rcases mem_of_foldl_enter here with early | named
      · simp at early
      · exact named
    · rw [resolve, List.foldl_append, ← resolve, resolve_of_plain root.plain] at here
      rcases mem_of_foldl_enter here with early | named
      · rw [outside] at early
        cases early
      · exact named
  have plain : IsPlain rest := fun member => (parts ".." member).2 rfl
  rw [child_join nonempty fun part member => proper_of_mem_components (parts part member).1,
    resolve_append_of_plain plain, resolve_of_plain root.plain]

/-- Only its own local key can be the name of a place. -/
theorem nameOf_not_mem (compatible : Compatible root listing) (member : object ∈ listing)
    (tool : toolKey object ≠ none)
    (misspelled : belowUser object.key ≠ nameOf root (placeOf root object.key)) :
    nameOf root (placeOf root object.key) ∉ listing.filterMap toolKey := by
  intro listed
  rcases List.mem_filterMap.mp listed with ⟨other, otherMember, named⟩
  have otherTool : toolKey other ≠ none := by
    rw [named]
    simp
  have inside := compatible.inside object member tool
  have same : placeOf root other.key = placeOf root object.key := by
    have leads := resolve_nameOf inside.1 inside.2
    rw [← placeOf, toolKey_eq named] at leads
    exact leads
  have equal := compatible.distinct other otherMember object member otherTool tool same
  rw [equal] at named
  exact misspelled (toolKey_eq named).symm

end Names

/-! ### Syncs that keep their files -/

section Keeps

variable {root : DataRoot} {listing objects done : List S3Object} {object : S3Object}
  {cache etags : EtagCache} {start now : Tree}

/-- No file is lost, and no place of a tool object becomes a directory. -/
structure Growing (root : DataRoot) (listing : List S3Object) (start now : Tree) : Prop where
  files : start.files ⊆ now.files
  dirs : ∀ object ∈ listing, toolKey object ≠ none → placeOf root object.key ∈ now.dirs →
    placeOf root object.key ∈ start.dirs

/-- During the loop a tool object that is done has its file, and so has one that the ETags
know and did not know at first. -/
structure Retrieved (root : DataRoot) (listing : List S3Object) (cache : EtagCache)
    (start : Tree) (done : List S3Object) (etags : EtagCache) (now : Tree) : Prop where
  growing : Growing root listing start now
  entries : ∀ object ∈ listing, toolKey object ≠ none → ∀ etag, etags object.key = some etag →
    loadedEtags root cache start object.key = some etag ∨ placeOf root object.key ∈ now.files
  done : ∀ object ∈ done, toolKey object ≠ none → placeOf root object.key ∈ now.files

theorem Growing.makeDir (growing : Growing root listing start now) {location : Location}
    (apart : ∀ object ∈ listing, toolKey object ≠ none → location ≠ placeOf root object.key) :
    Growing root listing start { now with dirs := insert location now.dirs } where
  files := growing.files
  dirs := by
    intro object member tool inside
    rcases Set.mem_insert_iff.mp inside with same | before
    · exact absurd same.symm (apart object member tool)
    · exact growing.dirs object member tool before

theorem Retrieved.makeDir (retrieved : Retrieved root listing cache start done etags now)
    {location : Location}
    (apart : ∀ object ∈ listing, toolKey object ≠ none → location ≠ placeOf root object.key) :
    Retrieved root listing cache start done etags
      { now with dirs := insert location now.dirs } where
  growing := retrieved.growing.makeDir apart
  entries := retrieved.entries
  done := retrieved.done

theorem Retrieved.skip (retrieved : Retrieved root listing cache start done etags now)
    (member : object ∈ listing) (spared : Spared root cache start object)
    (held : etags object.key = some (stripQuotes object.etag))
    (present : now.Holds (placeOf root object.key)) :
    Retrieved root listing cache start (done ++ [object]) etags now where
  growing := retrieved.growing
  entries := retrieved.entries
  done := by
    intro other inside tool
    rcases List.mem_append.mp inside with before | last
    · exact retrieved.done other before tool
    · rw [List.mem_singleton.mp last] at tool ⊢
      rcases retrieved.entries object member tool _ held with loaded | file
      · rcases present with file | directory
        · exact file
        · have early : start.Holds (placeOf root object.key) :=
            Or.inr (retrieved.growing.dirs object member tool directory)
          exact retrieved.growing.files (spared.isFile loaded early)
      · exact file

theorem Retrieved.download (retrieved : Retrieved root listing cache start done etags now)
    (etag : String) :
    Retrieved root listing cache start (done ++ [object])
      (Function.update etags object.key (some etag)) (now.write (placeOf root object.key)) where
  growing := ⟨retrieved.growing.files.trans (Set.subset_insert _ _), retrieved.growing.dirs⟩
  entries := by
    intro other member tool other' held
    by_cases own : other.key = object.key
    · right
      rw [own]
      exact Set.mem_insert _ _
    · rw [Function.update_of_ne own] at held
      rcases retrieved.entries other member tool other' held with loaded | file
      · exact Or.inl loaded
      · exact Or.inr (Set.mem_insert_of_mem _ file)
  done := by
    intro other inside tool
    rcases List.mem_append.mp inside with before | last
    · exact Set.mem_insert_of_mem _ (retrieved.done other before tool)
    · rw [List.mem_singleton.mp last]
      exact Set.mem_insert _ _

/-- An object without a tool key is passed over. -/
theorem Retrieved.pass (retrieved : Retrieved root listing cache start done etags now)
    (noTool : toolKey object = none) :
    Retrieved root listing cache start (done ++ [object]) etags now where
  growing := retrieved.growing
  entries := retrieved.entries
  done := by
    intro other inside tool
    rcases List.mem_append.mp inside with before | last
    · exact retrieved.done other before tool
    · rw [List.mem_singleton.mp last] at tool
      exact absurd noTool tool

/-- An operation that changes nothing. -/
theorem keeps_still {op : Op} {inv : Tree → Prop}
    (same : ∀ tree (outcome : Outcome effects op), Tree.observe tree ⟨op, outcome⟩ = tree) :
    Keeps (keeping listing cache) inv (perform op) := by
  apply keeps_call
  intro tree outcome holds _
  refine ⟨trivial, ?_⟩
  have state : (keeping listing cache).observe tree ⟨op, outcome⟩ = tree := same tree outcome
  rw [state]
  exact holds

theorem keeps_newDir {path : List String} {inv : Tree → Prop}
    (makes : ∀ tree, inv tree → inv { tree with dirs := insert (resolve path) tree.dirs }) :
    Keeps (keeping listing cache) inv (perform (.makeDir path)) := by
  apply keeps_call
  intro tree outcome holds _
  refine ⟨trivial, ?_⟩
  cases outcome with
  | raised _ _ _ => exact holds
  | returned created =>
      cases created with
      | false => exact holds
      | true => exact makes tree holds

theorem meets_isCurrent {path : List String} :
    (isCurrent etags object path).Meets (keeping listing cache) now fun result tree =>
      tree = now ∧ (result = .ok true →
        etags object.key = some (stripQuotes object.etag) ∧ now.Holds (resolve path)) := by
  unfold isCurrent
  split
  case isFalse => exact ⟨rfl, nofun⟩
  case isTrue held =>
      apply meets_call
      intro outcome assumed
      refine ⟨trivial, rfl, ?_⟩
      intro current
      cases outcome with
      | raised _ _ _ => cases current
      | returned present =>
          cases current
          exact ⟨held, assumed.mp rfl⟩

theorem keeps_parents {parents : List String}
    (apart : ∀ object ∈ listing, toolKey object ≠ none → ∀ front ∈ parents.inits,
      resolve front ≠ placeOf root object.key) :
    Keeps (keeping listing cache) (Retrieved root listing cache start done etags)
      (makeDirs parents) := by
  apply keeps_makeDirs
  intro front onWay
  apply keeps_newDir
  intro tree retrieved
  apply retrieved.makeDir
  exact fun object member tool => apart object member tool front onWay

theorem retrieved_syncObject {tally : Tally} (compatible : Compatible root listing)
    (member : object ∈ listing) (tool : toolKey object ≠ none)
    (spared : Spared root cache start object)
    (retrieved : Retrieved root listing cache start done tally.cache now) :
    (syncObject root tally object (belowUser object.key)).Meets (keeping listing cache) now
      fun result tree => ∀ next, result = .ok next →
        Retrieved root listing cache start (done ++ [object]) next.cache tree := by
  refine meets_bind.mpr (meets_isCurrent.mono ?_)
  rintro result tree ⟨rfl, held⟩
  cases result with
  | error _ => exact nofun
  | ok current =>
  cases current with
  | true =>
      intro next equal
      cases equal
      exact retrieved.skip member spared (held rfl).1 (held rfl).2
  | false =>
      have apart := fun other inside otherTool =>
        compatible.apart other inside object member otherTool tool
      generalize (child root.path (belowUser object.key)).dropLast = parents at apart ⊢
      apply (keeps_parents apart).andThen retrieved _ fun _ _ _ => nofun
      intro _ tree retrieved
      apply meets_tryCatch.mpr
      apply meets_bind.mpr
      apply meets_call
      intro outcome assumed
      refine ⟨trivial, ?_⟩
      cases outcome with
      | raised _ _ _ => exact absurd assumed id
      | returned _ =>
          intro next equal
          cases equal
          exact retrieved.download _

theorem retrieved_syncObjects {tally : Tally} (compatible : Compatible root listing)
    (spared : ∀ object ∈ listing, toolKey object ≠ none → Spared root cache start object)
    (parts : listing = done ++ objects)
    (retrieved : Retrieved root listing cache start done tally.cache now) :
    (syncObjects root toolKey tally objects).Meets (keeping listing cache) now
      fun result tree => result.toBool = true → HasFiles root listing tree := by
  induction objects generalizing done tally now with
  | nil =>
      intro _ object member tool
      rw [parts, List.append_nil] at member
      exact retrieved.done object member tool
  | cons object objects induction =>
      have regrouped : listing = (done ++ [object]) ++ objects := by
        rw [parts, List.append_assoc]
        rfl
      have member : object ∈ listing := by
        rw [parts]
        exact List.mem_append_right _ List.mem_cons_self
      unfold syncObjects
      cases named : toolKey object with
      | none => exact induction regrouped (retrieved.pass named)
      | some name =>
          have tool : toolKey object ≠ none := by
            rw [named]
            simp
          rw [toolKey_eq named]
          apply meets_bind.mpr
          apply (retrieved_syncObject compatible member tool (spared object member tool)
            retrieved).mono
          intro result tree after
          cases result with
          | error _ =>
              intro ok
              cases ok
          | ok next => exact induction regrouped (after next rfl)

/-! ### The end of the sync -/

/-- A sweep spares the files whose names are listed. -/
theorem keeps_sweep (spared : ∀ object ∈ listing, toolKey object ≠ none →
      Spared root cache start object) :
    Keeps (keeping listing cache) (HasFiles root listing)
      (removeOrphans root (listing.filterMap toolKey)) := by
  have finds : ∀ base pattern, Learns (keeping listing cache) (HasFiles root listing)
      (perform (.rglob base pattern)) fun found => ∀ location ∈ found,
        base <+: location ∧ location ≠ base ∧
          (pattern ≠ "*" → location.getLast? = some pattern) :=
    fun _ _ => learns_call (keeps_still fun _ _ => rfl) fun _ _ _ assumed => assumed
  apply keeps_removeOrphans finds fun _ => keeps_still fun _ _ => rfl
  intro directory location found within
  have swept : isSwept root location = true :=
    isSwept_of_below found.1 found.2.1 (found.2.2 (by decide)) within.1 within.2.1
  apply keeps_removeOrphan (keeps_still fun _ _ => rfl)
  intro unnamed
  apply keeps_call
  intro tree outcome files _
  refine ⟨trivial, ?_⟩
  simp only [keeping, Tree.observe]
  split
  case isFalse => exact files
  case isTrue =>
      intro object member tool
      refine ⟨files object member tool, ?_⟩
      intro same
      have place : placeOf root object.key = location := same
      rw [← place] at swept unnamed
      -- the tool key of the object names the file
      rcases Option.ne_none_iff_exists'.mp tool with ⟨name, named⟩
      have listed : name ∈ listing.filterMap toolKey :=
        List.mem_filterMap.mpr ⟨object, member, named⟩
      rw [toolKey_eq named, (spared object member tool).spelled swept] at listed
      exact unnamed listed

theorem keeps_saving (spared : ∀ object ∈ listing, toolKey object ≠ none →
      Spared root cache start object) (saved : EtagCache) :
    Keeps (keeping listing cache) (HasFiles root listing) (saveEtags root saved) := by
  apply keeps_saveEtags (keeps_newDir fun _ files => files)
  · intro saved
    apply keeps_call
    intro tree outcome files _
    refine ⟨trivial, ?_⟩
    simp only [keeping, Tree.observe]
    split
    · exact fun object member tool => Set.mem_insert_of_mem _ (files object member tool)
    · exact files
  · apply keeps_call
    intro tree outcome files _
    refine ⟨trivial, ?_⟩
    simp only [keeping, Tree.observe]
    split
    case isFalse => exact files
    case isTrue =>
        intro object member tool
        apply Set.mem_insert_of_mem
        exact ⟨files object member tool, (spared object member tool).own⟩

/-- Before the loop the files are as they were. -/
structure Untouched (root : DataRoot) (listing : List S3Object) (start now : Tree) : Prop where
  same : now.files = start.files
  growing : Growing root listing start now

theorem keeps_rootDir (compatible : Compatible root listing) :
    Keeps (keeping listing cache) (Untouched root listing start)
      (perform (.makeDir root.path)) := by
  apply keeps_newDir
  intro tree untouched
  refine ⟨untouched.same, untouched.growing.makeDir ?_⟩
  intro object member tool
  rw [resolve_of_plain root.plain]
  exact (compatible.inside object member tool).2.symm

theorem learns_loadedEtags (compatible : Compatible root listing) :
    Learns (keeping listing cache) (Untouched root listing start) (loadEtags root) fun etags =>
      ∀ key etag, etags key = some etag →
        loadedEtags root cache start key = some etag := by
  have makes : Keeps (keeping listing cache) (Untouched root listing start)
      (perform (.makeDir root.path)) := keeps_rootDir compatible
  have path := learns_etagPath makes
  have looks : ∀ path, Keeps (keeping listing cache) (Untouched root listing start)
      (perform (.pathExists path)) := fun _ => keeps_still fun _ _ => rfl
  apply path.bind
  intro path' _
  apply (looks path').learns.bind
  intro present _
  cases present with
  | false => exact learns_pure nofun
  | true =>
      apply Learns.tryCatch
      · apply path.bind
        intro _ equal
        rw [equal]
        apply learns_call (keeps_still fun _ _ => rfl)
        intro tree answer untouched assumed key etag held
        have saved : etagLocation root ∈ start.files := by
          rw [← untouched.same]
          exact assumed.1
        rw [loadedEtags, if_pos saved, ← assumed.2]
        exact held
      · exact fun _ => learns_pure nofun

theorem hasFiles_syncListed {username project : Option String}
    (noUser : given username = none) (noProject : given project = none)
    (compatible : Compatible root listing)
    (spared : ∀ object ∈ listing, toolKey object ≠ none → Spared root cache start object)
    (untouched : Untouched root listing start now) :
    (syncListed root username project listing).Meets (keeping listing cache) now
      fun result tree => result.toBool = true → HasFiles root listing tree := by
  unfold syncListed
  rw [selectedKey_of_unfiltered noUser noProject]
  refine meets_bind.mpr ((learns_loadedEtags compatible now untouched).mono ?_)
  intro result tree learned
  cases result with
  | error _ => exact nofun
  | ok etags =>
      have initially : Retrieved root listing cache start [] etags tree := by
        refine ⟨learned.1.growing, ?_, by simp⟩
        intro object _ _ etag held
        exact Or.inl (learned.2 etags rfl _ _ held)
      refine meets_bind.mpr ((retrieved_syncObjects compatible spared rfl initially).mono ?_)
      intro result tree files
      cases result with
      | error _ => exact nofun
      | ok tally =>
          have rest : Keeps (keeping listing cache) (HasFiles root listing)
              (finishSync root listing tally) := by
            apply keeps_bind (keeps_sweep spared)
            intro deleted
            apply keeps_bind (keeps_saving spared _)
            intro _
            exact keeps_bind (keeps_reloadIf (keeps_still fun _ _ => rfl) _) fun _ => keeps_pure _
          exact (rest tree (files rfl)).mono fun _ _ files _ => files

/-- Nothing is cleaned when no user is named. -/
theorem clean_of_unfiltered {username project : Option String}
    (noUser : given username = none) : clean root username project = pure () := by
  have target : cleanTarget root username project = none := by
    rw [cleanTarget, noUser]
  rw [clean, target]

theorem hasFiles_syncAllBody {username project : Option String} (cleanFirst : Bool)
    (noUser : given username = none) (noProject : given project = none)
    (compatible : Compatible root listing)
    (spared : ∀ object ∈ listing, toolKey object ≠ none → Spared root cache start object) :
    (syncAllBody root username project cleanFirst).Meets (keeping listing cache) start
      fun result tree => result.toBool = true → HasFiles root listing tree := by
  have initially : Untouched root listing start start :=
    ⟨rfl, ⟨subset_rfl, fun _ _ _ inside => inside⟩⟩
  have still : ∀ op : Op, (∀ tree (outcome : Outcome effects op),
      Tree.observe tree ⟨op, outcome⟩ = tree) →
      Keeps (keeping listing cache) (Untouched root listing start) (perform op) :=
    fun _ => keeps_still
  apply (still .getClient fun _ _ => rfl).andThen initially _ fun _ _ _ => nofun
  intro _ tree untouched
  apply (keeps_rootDir compatible).andThen untouched _ fun _ _ _ => nofun
  intro _ tree untouched
  have lists : Learns (keeping listing cache) (Untouched root listing start)
      (perform (.listObjects "users/")) fun answer => answer = some listing :=
    learns_call (still _ fun _ _ => rfl) fun _ _ _ assumed => assumed
  have listed := learns_listAllObjects lists (still _ fun _ _ => rfl)
  refine meets_bind.mpr ((listed tree untouched).mono ?_)
  intro result tree learned
  cases result with
  | error _ => exact nofun
  | ok objects =>
      have same : objects = listing := Option.some.inj (learned.2 objects rfl)
      rw [same]
      have rest := hasFiles_syncListed noUser noProject compatible spared learned.1
      cases empty : listing.isEmpty with
      | true =>
          have none : listing = [] := List.isEmpty_iff.mp empty
          simp only [andThen, empty, if_true]
          intro _ object member
          rw [none] at member
          cases member
      | false =>
          simp only [andThen, empty, Bool.false_eq_true, if_false]
          cases cleanFirst with
          | false => exact rest
          | true =>
              rw [if_pos rfl, clean_of_unfiltered noUser]
              exact rest

theorem hasFiles_syncAll {username project : Option String} (cleanFirst : Bool)
    (noUser : given username = none) (noProject : given project = none)
    (compatible : Compatible root listing)
    (spared : ∀ object ∈ listing, toolKey object ≠ none → Spared root cache start object) :
    (syncAll root username project cleanFirst).Meets (keeping listing cache) start
      (LeavesFiles root listing) := by
  have still : ∀ op : Op, (∀ tree (outcome : Outcome effects op),
      Tree.observe tree ⟨op, outcome⟩ = tree) →
      Keeps (keeping listing cache) (· = start) (perform op) := fun _ => keeps_still
  apply (still .s3Available fun _ _ => rfl).andThen rfl _ fun _ _ _ => nofun
  intro available tree same
  rw [same]
  cases available with
  | false => exact fun _ equal succeeds => by cases equal; cases succeeds
  | true =>
  apply (still .awsAccessKey fun _ _ => rfl).andThen rfl _ fun _ _ _ => nofun
  intro key tree same
  rw [same]
  cases key with
  | false => exact fun _ equal succeeds => by cases equal; cases succeeds
  | true =>
      apply meets_tryCatch.mpr
      apply (hasFiles_syncAllBody cleanFirst noUser noProject compatible spared).mono
      intro result tree files
      cases result with
      | ok returned => exact fun _ _ _ => files rfl
      | error _ => exact fun _ equal succeeds => by cases equal; cases succeeds

end Keeps

/-! ### Syncs that lose a file -/

section Loses

variable {root : DataRoot} {listing objects : List S3Object} {object : S3Object}
  {cache etags : EtagCache} {now : Tree} {tally : Tally} {location : Location}
  {inv : EtagCache → Tree → Prop}

/-- The object is taken for an earlier download. -/
def IsTaken (root : DataRoot) (etags : EtagCache) (now : Tree) (object : S3Object) : Prop :=
  etags object.key = some (stripQuotes object.etag) ∧ now.Holds (placeOf root object.key)

open Classical in
theorem of_isCurrent_kept {post : Except Exc Bool → Tree → Prop}
    (meets : (isCurrent etags object (child root.path (belowUser object.key))).Meets
      (keeping listing cache) now post) :
    post (.ok (decide (IsTaken root etags now object))) now := by
  unfold isCurrent at meets
  split at meets
  case isTrue held =>
      have allowed : Fits listing cache now
          ⟨.pathExists (child root.path (belowUser object.key)),
            .returned (decide (now.Holds (placeOf root object.key)))⟩ := decide_eq_true_iff
      have answered :=
        (meets.of_call (.returned (decide (now.Holds (placeOf root object.key)))) allowed).2
      have same : IsTaken root etags now object ↔ now.Holds (placeOf root object.key) :=
        and_iff_right held
      rw [decide_eq_decide.mpr same]
      exact answered
  case isFalse unknown =>
      have different : ¬ IsTaken root etags now object := fun taken => unknown taken.1
      rw [decide_eq_false different]
      exact meets

/-- The directories exist, and the download succeeds. -/
theorem of_syncObject_kept {post : Except Exc Tally → Tree → Prop}
    (meets : (syncObject root tally object (belowUser object.key)).Meets (keeping listing cache)
      now post)
    (holds : inv tally.cache now)
    (downloads : ¬ IsTaken root tally.cache now object →
      inv (Function.update tally.cache object.key (some (stripQuotes object.etag)))
        (now.write (placeOf root object.key))) :
    ∃ next tree, post (.ok next) tree ∧ inv next.cache tree := by
  have checked := of_isCurrent_kept (meets_bind.mp meets)
  by_cases taken : IsTaken root tally.cache now object
  · simp only [andThen, taken, decide_true, if_true] at checked
    exact ⟨_, now, checked, holds⟩
  · simp only [andThen, taken, decide_false, Bool.false_eq_true, if_false] at checked
    generalize (child root.path (belowUser object.key)).dropLast = parents at checked
    have made := of_existingDirs (fun _ => ⟨trivial, rfl⟩) (meets_bind.mp checked)
    have download := meets_bind.mp (meets_tryCatch.mp made)
    exact ⟨_, _, (download.of_call (.returned ()) trivial).2, downloads taken⟩

theorem of_syncObjects_kept {post : Except Exc Tally → Tree → Prop}
    (meets : (syncObjects root toolKey tally objects).Meets (keeping listing cache) now post)
    (holds : inv tally.cache now)
    (downloads : ∀ etags tree, ∀ object ∈ objects, toolKey object ≠ none → inv etags tree →
      ¬ IsTaken root etags tree object →
        inv (Function.update etags object.key (some (stripQuotes object.etag)))
          (tree.write (placeOf root object.key))) :
    ∃ next tree, post (.ok next) tree ∧ inv next.cache tree := by
  induction objects generalizing tally now with
  | nil => exact ⟨tally, now, meets, holds⟩
  | cons object objects induction =>
      have later := fun etags tree other member =>
        downloads etags tree other (List.mem_cons_of_mem _ member)
      unfold syncObjects at meets
      cases named : toolKey object with
      | none =>
          rw [named] at meets
          exact induction meets holds later
      | some name =>
          rw [named, toolKey_eq named] at meets
          have tool : toolKey object ≠ none := by
            rw [named]
            simp
          rcases of_syncObject_kept (meets_bind.mp meets) holds
            (downloads _ now object List.mem_cons_self tool holds) with ⟨next, tree, rest, kept⟩
          exact induction rest kept later

/-- The saved ETags are read when they are there. -/
theorem of_loadEtags_kept {post : Except Exc EtagCache → Tree → Prop}
    (meets : (loadEtags root).Meets (keeping listing cache) now post) :
    post (.ok (loadedEtags root cache now)) now := by
  have path : Allows (keeping listing cache) now ⟨.makeDir root.path, .returned false⟩ :=
    ⟨trivial, rfl⟩
  have looked := of_answer (meets_bind.mp meets) false path
  by_cases present : now.Holds (etagLocation root)
  · have exists' : Allows (keeping listing cache) now
        ⟨.pathExists (root.path ++ [etagFile]), .returned true⟩ :=
      ⟨iff_of_true rfl present, rfl⟩
    have found := meets_tryCatch.mp (of_answer looked true exists')
    have read := of_answer (meets_bind.mp found) false path
    by_cases saved : etagLocation root ∈ now.files
    · have answered := (read.of_call (.returned cache) ⟨saved, rfl⟩).2
      rw [loadedEtags, if_pos saved]
      exact answered
    · have failed := (read.of_call (.raised "" false rfl) trivial).2
      rw [loadedEtags, if_neg saved]
      exact failed
  · have misses : Allows (keeping listing cache) now
        ⟨.pathExists (root.path ++ [etagFile]), .returned false⟩ := by
      refine ⟨iff_of_false Bool.false_ne_true present, rfl⟩
    have unsaved : etagLocation root ∉ now.files := fun file => present (Or.inl file)
    rw [loadedEtags, if_neg unsaved]
    exact of_answer looked false misses

/-- The sweep finds nothing. -/
theorem of_emptySweep {names : List String} {post : Except Exc Nat → Tree → Prop}
    (meets : (removeOrphans root names).Meets (keeping listing cache) now post) :
    post (.ok 0) now :=
  of_answer meets [] ⟨nofun, rfl⟩

/-- After some sweep a file whose name is not listed is gone. -/
theorem of_sweep {names : List String} {post : Except Exc Nat → Tree → Prop}
    (meets : (removeOrphans root names).Meets (keeping listing cache) now post)
    (swept : isSwept root location = true) (unnamed : nameOf root location ∉ names) :
    ∃ deleted tree, post (.ok deleted) tree ∧ location ∉ tree.files := by
  by_cases present : location ∈ now.files
  case neg => exact ⟨0, now, of_emptySweep meets, present⟩
  case pos =>
      rcases exists_tools_of_swept swept with ⟨directory, found, within⟩
      have finds : Fits listing cache now ⟨.rglob root.path "tools", .returned [directory]⟩ :=
        List.forall_mem_singleton.mpr ⟨found.1, found.2.1, fun _ => found.2.2⟩
      have directories := of_answer meets [directory] ⟨finds, rfl⟩
      have entered := of_answer (meets_bind.mp directories) true ⟨trivial, rfl⟩
      have contains : Fits listing cache now ⟨.rglob directory "*", .returned [location]⟩ :=
        List.forall_mem_singleton.mpr
          ⟨within.1, within.2, fun other => absurd rfl other⟩
      have files := of_answer entered [location] ⟨contains, rfl⟩
      have checked := of_answer (meets_bind.mp files) true ⟨trivial, rfl⟩
      have removal := meets_tryCatch.mp checked
      rw [if_neg unnamed] at removal
      have allowed : Fits listing cache now ⟨.unlink location, .returned ()⟩ := fun _ => present
      have removed := ((meets_bind.mp removal).of_call (.returned ()) allowed).2
      exact ⟨1, now.remove location, removed, fun inside => inside.2 rfl⟩

/-- The ETags cannot be written. -/
theorem of_unwrittenEtags {post : Except Exc Unit → Tree → Prop} {saved : EtagCache}
    (meets : (saveEtags root saved).Meets (keeping listing cache) now post) :
    post (.ok ()) now := by
  have path := of_answer (meets_bind.mp meets) false ⟨trivial, rfl⟩
  have write := meets_bind.mp (meets_tryCatch.mp path)
  exact (write.of_call (.raised "" false rfl) trivial).2

/-- The saved ETags take the place of their temporary file. -/
theorem of_savedEtags {post : Except Exc Unit → Tree → Prop} {saved : EtagCache}
    (meets : (saveEtags root saved).Meets (keeping listing cache) now post) :
    ∃ tree, post (.ok ()) tree ∧ temporaryLocation root ∉ tree.files := by
  have path := of_answer (meets_bind.mp meets) false ⟨trivial, rfl⟩
  have write := meets_bind.mp (meets_tryCatch.mp path)
  have written := (write.of_call (.returned ()) trivial).2
  rw [List.dropLast_concat] at written
  have named : (perform (.replace (root.path ++ [etagTemporaryFile])
      (root.path ++ [etagFile]))).Meets (keeping listing cache)
        (now.write (temporaryLocation root)) _ :=
    of_answer (meets_bind.mp written) false ⟨trivial, rfl⟩
  have replaced := (named.of_call (.returned ()) trivial).2
  refine ⟨_, replaced, ?_⟩
  intro inside
  rcases Set.mem_insert_iff.mp inside with same | kept
  · exact temporary_ne_etag same
  · exact kept.2 rfl

theorem of_reloadIf_kept {changed : Bool} {post : Except Exc Nat → Tree → Prop}
    (meets : (reloadIf changed).Meets (keeping listing cache) now post) :
    ∃ tools, post (.ok tools) now := by
  cases changed with
  | false => exact ⟨0, meets⟩
  | true => exact ⟨0, (meets.of_call (.returned 0) trivial).2⟩

theorem of_syncAll_kept (inv : EtagCache → Tree → Prop) {username project : Option String}
    {cleanFirst : Bool}
    (noUser : given username = none) (noProject : given project = none)
    (nonempty : listing ≠ [])
    (meets : (syncAll root username project cleanFirst).Meets (keeping listing cache) now
      (LeavesFiles root listing))
    (initially : inv (loadedEtags root cache now) now)
    (downloads : ∀ etags tree, ∀ object ∈ listing, toolKey object ≠ none → inv etags tree →
      ¬ IsTaken root etags tree object →
        inv (Function.update etags object.key (some (stripQuotes object.etag)))
          (tree.write (placeOf root object.key))) :
    ∃ tally tree, (finishSync root listing tally).Meets (keeping listing cache) tree
      (LeavesFiles root listing) ∧ inv tally.cache tree := by
  have enabled := of_answer (of_answer meets true ⟨trivial, rfl⟩) true ⟨trivial, rfl⟩
  have body := of_answer (meets_tryCatch.mp enabled) () ⟨trivial, rfl⟩
  have listed := meets_bind.mp (of_answer body false ⟨trivial, rfl⟩)
  have answered := of_answer listed (some listing) ⟨rfl, rfl⟩
  have pages := of_answer answered () ⟨trivial, rfl⟩
  have filled : listing.isEmpty = false := by simpa using nonempty
  have guarded : (syncListed root username project listing).Meets (keeping listing cache) now
      (orElse (keeping listing cache) (fun error => pure (failure error))
        (LeavesFiles root listing)) := by
    simp only [meets_pure, andThen, filled, Bool.false_eq_true, if_false] at pages
    cases cleanFirst with
    | false => exact pages
    | true =>
        rw [if_pos rfl, clean_of_unfiltered noUser] at pages
        exact pages
  unfold syncListed at guarded
  rw [selectedKey_of_unfiltered noUser noProject] at guarded
  have loaded := of_loadEtags_kept (meets_bind.mp guarded)
  rcases of_syncObjects_kept (meets_bind.mp loaded) initially downloads with
    ⟨tally, tree, rest, kept⟩
  have finish : (finishSync root listing tally).Meets (keeping listing cache) tree
      (orElse (keeping listing cache) (fun error => pure (failure error))
        (LeavesFiles root listing)) := rest
  refine ⟨tally, tree, finish.mono ?_, kept⟩
  intro result tree ended
  cases result with
  | ok _ => exact ended
  | error _ =>
      intro returned equal
      cases equal

section Finish

variable (meets : (finishSync root listing tally).Meets (keeping listing cache) now
  (LeavesFiles root listing))
include meets

/-- The sweep may remove nothing, and the ETags may stay unsaved. -/
theorem of_finishSync : HasFiles root listing now := by
  have swept := of_emptySweep (meets_bind.mp meets)
  have saved := of_unwrittenEtags (meets_bind.mp swept)
  rcases of_reloadIf_kept (meets_bind.mp saved) with ⟨tools, ended⟩
  exact ended _ rfl rfl

theorem of_finishSync_swept (swept : isSwept root location = true)
    (unnamed : nameOf root location ∉ listing.filterMap toolKey) :
    ∃ tree, HasFiles root listing tree ∧ location ∉ tree.files := by
  rcases of_sweep (meets_bind.mp meets) swept unnamed with ⟨deleted, tree, rest, gone⟩
  have saved := of_unwrittenEtags (meets_bind.mp rest)
  rcases of_reloadIf_kept (meets_bind.mp saved) with ⟨tools, ended⟩
  exact ⟨tree, ended _ rfl rfl, gone⟩

theorem of_finishSync_saved :
    ∃ tree, HasFiles root listing tree ∧ temporaryLocation root ∉ tree.files := by
  have swept := of_emptySweep (meets_bind.mp meets)
  rcases of_savedEtags (meets_bind.mp swept) with ⟨tree, rest, gone⟩
  rcases of_reloadIf_kept (meets_bind.mp rest) with ⟨tools, ended⟩
  exact ⟨tree, ended _ rfl rfl, gone⟩

end Finish

/-- A sync that always leaves the file of an object spares it. -/
theorem spared_of_meets {username project : Option String} {cleanFirst : Bool}
    (noUser : given username = none) (noProject : given project = none)
    (compatible : Compatible root listing) (member : object ∈ listing)
    (tool : toolKey object ≠ none)
    (meets : (syncAll root username project cleanFirst).Meets (keeping listing cache) now
      (LeavesFiles root listing)) : Spared root cache now object where
  spelled := by
    intro swept
    by_contra misspelled
    have unnamed := nameOf_not_mem compatible member tool misspelled
    rcases of_syncAll_kept (fun _ _ => True) noUser noProject
      (List.ne_nil_of_mem member) meets trivial (fun _ _ _ _ _ _ _ => trivial) with
      ⟨tally, tree, rest, -⟩
    rcases of_finishSync_swept rest swept unnamed with ⟨tree, files, gone⟩
    exact gone (files object member tool)
  isFile := by
    intro loaded present
    by_contra missing
    -- the object is skipped, and no other one is downloaded to its place
    let stays : EtagCache → Tree → Prop := fun etags tree =>
      IsTaken root etags tree object ∧ placeOf root object.key ∉ tree.files
    have downloads : ∀ etags tree, ∀ other ∈ listing, toolKey other ≠ none → stays etags tree →
        ¬ IsTaken root etags tree other →
          stays (Function.update etags other.key (some (stripQuotes other.etag)))
            (tree.write (placeOf root other.key)) := by
      intro etags tree other otherMember otherTool kept unknown
      have apart : placeOf root object.key ≠ placeOf root other.key := by
        intro same
        have equal := compatible.distinct object member other otherMember tool otherTool same
        rw [← equal] at unknown
        exact unknown kept.1
      have keys : object.key ≠ other.key := by
        intro same
        rw [same] at apart
        exact apart rfl
      have directory := kept.1.2.resolve_left kept.2
      refine ⟨⟨?_, Or.inr directory⟩, ?_⟩
      · rw [Function.update_of_ne keys]
        exact kept.1.1
      · intro inside
        exact kept.2 (Set.mem_of_mem_insert_of_ne inside apart)
    rcases of_syncAll_kept stays noUser noProject (List.ne_nil_of_mem member) meets
      ⟨⟨loaded, present⟩, missing⟩ downloads with ⟨tally, tree, rest, kept⟩
    exact kept.2 (of_finishSync rest object member tool)
  own := by
    intro same
    rcases of_syncAll_kept (fun _ _ => True) noUser noProject
      (List.ne_nil_of_mem member) meets trivial (fun _ _ _ _ _ _ _ => trivial) with
      ⟨tally, tree, rest, -⟩
    rcases of_finishSync_saved rest with ⟨tree, files, gone⟩
    rw [← same] at gone
    exact gone (files object member tool)

end Loses

/-! ### Every run -/

section Runs

variable (root : DataRoot) (listing : List S3Object) (cache : EtagCache) (tree : Tree)
  (username project : Option String) (cleanFirst : Bool)

open Classical in
theorem fits_possible (op : Op) :
    ∃ outcome : Outcome effects op, Fits listing cache tree ⟨op, outcome⟩ := by
  cases op with
  | listObjects _ => exact ⟨.returned (some listing), rfl⟩
  | pathExists path => exact ⟨.returned (decide (tree.Holds (resolve path))), decide_eq_true_iff⟩
  | rglob _ _ => exact ⟨.returned [], nofun⟩
  | unlink _ => exact ⟨.raised "" false rfl, nofun⟩
  | readEtags _ => exact ⟨.raised "" false rfl, trivial⟩
  | s3Available | awsAccessKey | supabaseConfigured | fetchObject _ | isDir _ | isFile _
  | makeDir _ => exact ⟨.returned true, trivial⟩
  | cachedUserId _ _ | listFolder _ => exact ⟨.returned none, trivial⟩
  | reloadPlugins => exact ⟨.returned 0, trivial⟩
  | _ => exact ⟨.returned (), trivial⟩

variable {root listing cache tree username project cleanFirst}

theorem keepsSynced_iff_meets :
    KeepsSynced root listing cache tree username project cleanFirst ↔
      (syncAll root username project cleanFirst).Meets (keeping listing cache) tree
        (LeavesFiles root listing) := by
  constructor
  · intro keeps
    apply meets_of_runs fun tree op => fits_possible listing cache tree op
    intro environment fits
    exact ⟨fun _ _ _ _ => trivial, keeps environment fits⟩
  · intro meets environment fits
    exact (meets.sound environment fits).2

theorem spared_of_keeps (noUser : given username = none) (noProject : given project = none)
    (compatible : Compatible root listing)
    (keeps : KeepsSynced root listing cache tree username project cleanFirst) :
    ∀ object ∈ listing, toolKey object ≠ none → Spared root cache tree object :=
  fun _ member tool =>
    spared_of_meets noUser noProject compatible member tool (keepsSynced_iff_meets.mp keeps)

theorem sync_keeps_iff (noUser : given username = none) (noProject : given project = none)
    (compatible : Compatible root listing) :
    KeepsSynced root listing cache tree username project cleanFirst ↔
      ∀ object ∈ listing, toolKey object ≠ none → Spared root cache tree object := by
  constructor
  · exact spared_of_keeps noUser noProject compatible
  · intro spared
    apply keepsSynced_iff_meets.mpr
    exact hasFiles_syncAll cleanFirst noUser noProject compatible spared

end Runs

/-- A listing of one object is compatible when its place is inside the data root and no
directory on the way is that place. -/
theorem compatible_singleton {root : DataRoot} {object : S3Object}
    (inside : root.path <+: placeOf root object.key ∧ placeOf root object.key ≠ root.path)
    (apart : ∀ front ∈ (child root.path (belowUser object.key)).dropLast.inits,
      resolve front ≠ placeOf root object.key) : Compatible root [object] where
  inside := List.forall_mem_singleton.mpr fun _ => inside
  distinct := by
    intro first firstMember second secondMember _ _ _
    rw [List.mem_singleton.mp firstMember, List.mem_singleton.mp secondMember]
  apart := by
    intro first firstMember second secondMember _ _
    rw [List.mem_singleton.mp firstMember, List.mem_singleton.mp secondMember]
    exact apart

/-- The first sync of the example bucket keeps its file. -/
theorem sync_keeps_example :
    KeepsSynced exampleRoot [⟨exampleKey, "1"⟩] (fun _ => none) ⟨∅, ∅⟩ none none false := by
  apply (sync_keeps_iff rfl rfl (compatible_singleton (by decide +kernel) (by decide +kernel))).mpr
  intro object member _
  rw [List.mem_singleton.mp member]
  constructor
  · decide +kernel
  · intro loaded
    have nothing : loadedEtags exampleRoot (fun _ => none) ⟨∅, ∅⟩ exampleKey = none := by
      simp [loadedEtags]
    rw [nothing] at loaded
    cases loaded
  · decide +kernel

/-- A key with an empty segment, as S3 allows it. -/
def doubledKey : String := "users/10/ann//demo/tools/general/add/add.py"

theorem doubledKey_is_tool : toolKey ⟨doubledKey, "1"⟩ ≠ none := by decide +kernel

theorem doubledKey_misspelled :
    isSwept exampleRoot (placeOf exampleRoot doubledKey) = true ∧
      belowUser doubledKey ≠ nameOf exampleRoot (placeOf exampleRoot doubledKey) := by
  decide +kernel

/-- The sweep removes the file that was downloaded just before. -/
theorem downloaded_file_removed :
    ¬ ∀ root listing cache tree username project cleanFirst,
      given username = none → given project = none → Compatible root listing →
        KeepsSynced root listing cache tree username project cleanFirst := by
  intro claimed
  have compatible : Compatible exampleRoot [⟨doubledKey, "1"⟩] :=
    compatible_singleton (by decide +kernel) (by decide +kernel)
  have keeps := claimed exampleRoot _ (fun _ => none) ⟨∅, ∅⟩ none none false rfl rfl compatible
  have spared := spared_of_keeps rfl rfl compatible keeps _ List.mem_cons_self doubledKey_is_tool
  exact doubledKey_misspelled.2 (spared.spelled doubledKey_misspelled.1)

end GrafuxMcp.CloudSync
