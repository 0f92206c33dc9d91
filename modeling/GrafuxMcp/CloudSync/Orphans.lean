import GrafuxMcp.CloudSync.StaysInside
import GrafuxMcp.Foundation.OrderedDict

/-! # Files that the unfiltered sync deletes

`sync_all()` deletes what the bucket does not list below the directories called
`tools`. The data tree has other writers: the Supabase sync, the tools, the
clients that upload their inputs. They do not take the lock that keeps the S3
syncs apart, so their changes may fall between the steps of a sync. -/

namespace GrafuxMcp.CloudSync

open GrafuxMcp PosixPath Program

/-! ### Files -/

/-- Who wrote a file last: a download of an S3 sync, or anyone else. -/
inductive Origin
  | s3
  | other
  deriving DecidableEq, Repr

abbrev Disk := OrderedDict Location Origin

def observe (disk : Disk) : SyncEvent → Disk
  | ⟨.download _ path, outcome⟩ => if outcome.applied then disk.set (resolve path) .s3 else disk
  | ⟨.writeBytes path _, outcome⟩ | ⟨.writeEtags path _, outcome⟩ =>
      if outcome.applied then disk.set (resolve path) .other else disk
  | ⟨.replace source target, outcome⟩ =>
      if outcome.applied then (disk.pop (resolve source)).set (resolve target) .other else disk
  | ⟨.unlink location, outcome⟩ => if outcome.applied then disk.pop location else disk
  | ⟨.removeTree path, outcome⟩ =>
      if outcome.applied then disk.filter fun item => !(resolve path).isPrefixOf item.1 else disk
  | _ => disk

/-- The answers of an operation about the bucket and the files: the listing is
the given one, listed keys have the prefix, `rglob` finds what its pattern names
below its base, and only a file that is there can be unlinked. -/
def agrees (objects : Option (List S3Object)) (disk : Disk) : SyncEvent → Bool
  | ⟨.listObjects keyPrefix, .returned listed⟩ =>
      (keyPrefix != "users/" || listed = objects) &&
        (listed.getD []).all fun object => keyPrefix.toList.isPrefixOf object.key.toList
  | ⟨.rglob base pattern, .returned found⟩ =>
      found.all fun location => base.isPrefixOf location && location != base &&
        (pattern = "*" || location.getLast? = some pattern)
  | ⟨.unlink location, outcome⟩ => !outcome.applied || location ∈ disk.items.map Prod.fst
  | _ => true

/-! ### Histories -/

/-- What the other writers do to a file. -/
inductive Change
  | written (location : Location)
  | removed (location : Location)
  deriving DecidableEq, Repr

def change (disk : Disk) : Change → Disk
  | .written location => disk.set location .other
  | .removed location => disk.pop location

/-- The files during a sync, and the changes by others before each of its next
operations. -/
structure Moment where
  disk : Disk
  coming : List (List Change)

/-- The files when the next operation is performed. -/
def Moment.now (moment : Moment) : Disk :=
  (moment.coming.headD []).foldl change moment.disk

def Moment.next (moment : Moment) (event : SyncEvent) : Moment where
  disk := observe moment.now event
  coming := moment.coming.tail

/-- What happens to the data tree. A sync comes with the listing of the bucket
below `users/` that it is given and with the changes by others meanwhile. -/
inductive Action
  | sync (request : Request) (objects : Option (List S3Object))
      (environment : Environment effects) (meanwhile : List (List Change))
  | others (changes : List Change)

variable (root : DataRoot)

def Action.events : Action → List SyncEvent
  | .sync request _ environment _ => (request.program root).trace environment
  | .others _ => []

def step (disk : Disk) : Action → Disk
  | .others changes => changes.foldl change disk
  | .sync request _ environment meanwhile =>
      (((request.program root).trace environment).foldl Moment.next ⟨disk, meanwhile⟩).disk

def Action.agrees (disk : Disk) : Action → Prop
  | .sync request objects environment meanwhile =>
      EachStep Moment.next
        (fun moment event => CloudSync.agrees objects moment.now event = true)
        ⟨disk, meanwhile⟩ ((request.program root).trace environment)
  | .others _ => True

instance (disk : Disk) : (action : Action) → Decidable (action.agrees root disk)
  | .sync request objects environment meanwhile =>
      inferInstanceAs (Decidable (EachStep Moment.next
        (fun moment event => CloudSync.agrees objects moment.now event = true)
        ⟨disk, meanwhile⟩ ((request.program root).trace environment)))
  | .others _ => isTrue trivial

def Request.isUnfiltered : Request → Bool
  | .all username project _ => (given username).isNone && (given project).isNone
  | _ => false

def DownloadsTo (location : Location) (event : SyncEvent) : Prop :=
  ∃ key path, event.op = .download key path ∧ event.outcome.applied = true ∧
    resolve path = location

/-- The local path of the key leads to the location. -/
def MapsTo (key : String) (location : Location) : Prop :=
  isFolderMarker key = false ∧ resolve (child root.path (belowUser key)) = location

/-- An earlier S3 sync downloaded the file, nobody else has written it since, and
no listed key maps to it. -/
structure IsOrphan (before : List Action) (disk : Disk) (objects : List S3Object)
    (location : Location) : Prop where
  downloaded : ∃ earlier ∈ before, ∃ event ∈ earlier.events root, DownloadsTo location event
  notOthers : disk.get location = some .s3
  unlisted : ∀ object ∈ objects, ¬ MapsTo root object.key location

/-- The files after a history that began with an empty data tree. -/
def filesAfter (before : List Action) : Disk :=
  before.foldl (step root) OrderedDict.empty

/-- Every file that an unfiltered sync of the history deletes is an orphan. -/
def DeletesOrphans (actions : List Action) : Prop :=
  ∀ before request objects environment meanwhile after,
    actions = before ++ .sync request objects environment meanwhile :: after →
    request.isUnfiltered = true →
    EachStep Moment.next
      (fun moment event => ∀ location, event.op = .unlink location →
        event.outcome.applied = true →
        IsOrphan root before moment.now (objects.getD []) location)
      ⟨filesAfter root before, meanwhile⟩ ((request.program root).trace environment)

/-! ### The condition -/

/-- The key of a tool file, as the unfiltered sync names it. -/
def toolKey (object : S3Object) : Option String :=
  selectedKey none none object

/-- The file lies below a directory called `tools`. -/
def isSwept (location : Location) : Bool :=
  root.path.isPrefixOf location && "tools" ∈ (location.drop root.path.length).dropLast

def Change.target : Change → Option Location
  | .written location => some location
  | .removed _ => none

/-- The files that a sync with this listing must not delete: what others wrote
before or meanwhile, and what the tool keys lead to. -/
def spared (disk : Disk) (listing : List S3Object) (meanwhile : List (List Change)) :
    List Location :=
  (disk.items.filter fun item => item.2 = .other).map Prod.fst ++
    meanwhile.flatten.filterMap Change.target ++
    (listing.filterMap toolKey).map fun key => resolve (child root.path key)

/-- When an unfiltered sync lists the bucket, a tool key names each of the files
below the `tools` directories that it must not delete. -/
def SparedListed (disk : Disk) : Action → Prop
  | .sync request (some listing) _ meanwhile =>
      request.isUnfiltered = true →
        ∀ location ∈ spared root disk listing meanwhile, isSwept root location = true →
          nameOf root location ∈ listing.filterMap toolKey
  | _ => True

instance (disk : Disk) : (action : Action) → Decidable (SparedListed root disk action)
  | .sync request (some listing) _ meanwhile =>
      inferInstanceAs (Decidable (request.isUnfiltered = true →
        ∀ location ∈ spared root disk listing meanwhile, isSwept root location = true →
          nameOf root location ∈ listing.filterMap toolKey))
  | .sync _ none _ _ => isTrue trivial
  | .others _ => isTrue trivial

/-! ### Names of files -/

section Names

variable {root} {object : S3Object} {location : Location}

theorem selectedKey_of_unfiltered {username project : Option String}
    (noUser : given username = none) (noProject : given project = none) :
    selectedKey username project = toolKey := by
  have empty : given none = none := rfl
  funext object
  simp only [selectedKey, toolKey, isSelected, noUser, noProject, empty]

/-- A file below a `tools` directory has a name with a component `tools` that
another follows, however the name climbs. -/
theorem followed_of_swept {name : String} (swept : isSwept root location = true)
    (leads : resolve (child root.path name) = location) :
    Followed "tools" (components name) := by
  simp only [isSwept, Bool.and_eq_true, List.isPrefixOf_iff_prefix, decide_eq_true_eq] at swept
  obtain ⟨rest, rfl⟩ := swept.1
  rw [List.drop_left] at swept
  obtain ⟨index, bound, found⟩ := List.mem_iff_getElem.mp swept.2
  rw [List.length_dropLast] at bound
  rw [List.getElem_dropLast] at found
  -- the component at this place of the location
  have here : (root.path ++ rest)[root.path.length + index]? = some "tools" := by
    rw [List.getElem?_append_right (Nat.le_add_right _ _), Nat.add_sub_cancel_left,
      List.getElem?_eq_getElem (by omega), found]
  have notLast : root.path.length + index + 1 < (root.path ++ rest).length := by
    rw [List.length_append]
    omega
  rw [← leads] at here notLast
  unfold child at here notLast
  split at here
  case isTrue absolute =>
    rw [if_pos absolute] at notLast
    rcases followed_of_foldl_enter here notLast with early | followed
    · simp at early
    · exact followed
  case isFalse relative =>
    rw [if_neg relative] at notLast
    have through : resolve (root.path ++ components name) =
        (components name).foldl enter root.path := by
      rw [resolve, List.foldl_append, ← resolve, resolve_of_plain root.plain]
    rw [through] at here notLast
    rcases followed_of_foldl_enter here notLast with early | followed
    · rw [List.getElem?_eq_none (Nat.le_add_right _ _)] at early
      cases early
    · exact followed

theorem split_of_users {key : String} (below : "users/".toList <+: key.toList) :
    ∃ rest, split key = "users" :: rest := by
  obtain ⟨rest, equal⟩ := below
  refine ⟨(rest.splitOn '/').map String.ofList, ?_⟩
  have shape : key.toList = "users".toList ++ '/' :: rest := by
    rw [← equal]
    rfl
  rw [split, shape, List.splitOn_append_cons_self_of_not_mem (by decide)]
  rfl

/-- The filter on `/tools/` drops no key of a file below a `tools` directory. -/
theorem contains_tools {key : String} (below : "users/".toList <+: key.toList)
    (followed : Followed "tools" (split (belowUser key))) : contains key "/tools/" = true := by
  obtain ⟨rest, pieces⟩ := split_of_users below
  have named : Followed "tools" rest := by
    unfold belowUser at followed
    split at followed
    case h_1 uid first others shape =>
      have same : rest = uid :: first :: others := by
        rw [pieces] at shape
        exact (List.cons.inj shape).2
      have clean : ∀ part ∈ first :: others, '/' ∉ part.toList := by
        intro part member
        have inside : part ∈ split key := by
          rw [shape]
          exact List.mem_cons_of_mem _ (List.mem_cons_of_mem _ member)
        exact not_mem_of_mem_split inside
      rw [split_join (by simp) clean] at followed
      rw [same]
      exact followed.of_sublist (List.sublist_cons_self _ _)
    case h_2 other =>
      rw [pieces] at followed
      rcases followed_cons.mp followed with ⟨equal, -⟩ | later
      · exact absurd equal (by decide)
      · exact later
  have spelled : "/" ++ "tools" ++ "/" = "/tools/" := by decide
  rw [← spelled]
  exact contains_of_followed pieces named

theorem toolKey_of_mapsTo (below : "users/".toList <+: object.key.toList)
    (maps : MapsTo root object.key location) (swept : isSwept root location = true) :
    toolKey object = some (belowUser object.key) := by
  have followed := followed_of_swept swept maps.2
  have within := contains_tools below (followed.of_sublist List.filter_sublist)
  have empty : given none = none := rfl
  simp [toolKey, selectedKey, isSelected, empty, maps.1, within]

end Names

/-! ### One unfiltered sync -/

/-- What an unfiltered sync may delete, given the files when it started and the
files at the time. -/
structure Deletable (start now : Disk) (listing : List S3Object) (location : Location) :
    Prop where
  before : start.get location = some .s3
  notOthers : now.get location = some .s3
  unlisted : ∀ object ∈ listing, ¬ MapsTo root object.key location

def sweeping (objects : Option (List S3Object)) (start : Disk) : Contract effects Moment where
  observe := Moment.next
  assume moment event := agrees objects moment.now event = true
  guarantee moment event := ∀ location, event.op = .unlink location →
    event.outcome.applied = true →
      Deletable root start moment.now (objects.getD []) location

/-- The file was there when the sync started, others wrote it meanwhile, or it
was downloaded for a tool key. -/
inductive Traced (start : Disk) (listing : List S3Object) (meanwhile : List (List Change)) :
    Location × Origin → Prop
  | before {item} (early : item ∈ start.items) : Traced start listing meanwhile item
  | written {location} (change : .written location ∈ meanwhile.flatten) :
      Traced start listing meanwhile (location, .other)
  | downloaded {key location} (named : key ∈ listing.filterMap toolKey)
      (leads : resolve (child root.path key) = location) :
      Traced start listing meanwhile (location, .s3)

structure AllTraced (start : Disk) (listing : List S3Object) (meanwhile : List (List Change))
    (moment : Moment) : Prop where
  files : ∀ item ∈ moment.disk.items, Traced root start listing meanwhile item
  coming : moment.coming.flatten ⊆ meanwhile.flatten

/-- The listing of a sync whose steps agree with it. -/
structure Listed (objects : Option (List S3Object)) (start : Disk)
    (listing : List S3Object) (meanwhile : List (List Change)) : Prop where
  listed : objects = some listing
  below : ∀ object ∈ listing, "users/".toList <+: object.key.toList
  spared : ∀ location ∈ spared root start listing meanwhile, isSwept root location = true →
    nameOf root location ∈ listing.filterMap toolKey

section Sweep

variable {root} {objects : Option (List S3Object)} {listing : List S3Object} {start : Disk}
  {meanwhile : List (List Change)} {moment : Moment}

theorem mem_of_mem_change {disk : Disk} {next : Change} {item : Location × Origin}
    (member : item ∈ (change disk next).items) :
    item ∈ disk.items ∨ ∃ location, next = .written location ∧ item = (location, .other) := by
  cases next with
  | written location =>
      rcases OrderedDict.mem_of_mem_set member with rfl | before
      · exact Or.inr ⟨location, rfl, rfl⟩
      · exact Or.inl before
  | removed location => exact Or.inl (OrderedDict.mem_of_mem_pop member)

theorem mem_of_mem_changes {disk : Disk} {changes : List Change} {item : Location × Origin}
    (member : item ∈ (changes.foldl change disk).items) :
    item ∈ disk.items ∨ ∃ location, .written location ∈ changes ∧ item = (location, .other) := by
  induction changes generalizing disk with
  | nil => exact Or.inl member
  | cons next changes induction =>
      rcases induction member with before | ⟨location, later, equal⟩
      · rcases mem_of_mem_change before with early | ⟨location, rfl, equal⟩
        · exact Or.inl early
        · exact Or.inr ⟨location, List.mem_cons_self, equal⟩
      · exact Or.inr ⟨location, List.mem_cons_of_mem _ later, equal⟩

theorem mem_flatten_of_mem_head {coming : List (List Change)} {next : Change}
    (member : next ∈ coming.headD []) : next ∈ coming.flatten := by
  cases coming with
  | nil => cases member
  | cons first later => exact List.mem_append_left _ member

theorem AllTraced.now (traced : AllTraced root start listing meanwhile moment) :
    ∀ item ∈ moment.now.items, Traced root start listing meanwhile item := by
  intro item member
  rcases mem_of_mem_changes member with before | ⟨location, change, rfl⟩
  · exact traced.files item before
  · exact .written (traced.coming (mem_flatten_of_mem_head change))

theorem AllTraced.next (traced : AllTraced root start listing meanwhile moment)
    {event : SyncEvent}
    (files : ∀ item ∈ (observe moment.now event).items,
      item ∈ moment.now.items ∨ Traced root start listing meanwhile item) :
    AllTraced root start listing meanwhile (moment.next event) where
  files item member := by
    rcases files item member with before | new
    · exact traced.now item before
    · exact new
  coming change member := by
    apply traced.coming
    cases coming : moment.coming with
    | nil =>
        simp only [Moment.next, coming] at member
        cases member
    | cons first later =>
        simp only [Moment.next, coming] at member
        exact List.mem_append_right _ member

/-- A file below a `tools` directory that no tool key names is an S3 orphan. -/
theorem deletable_of_unnamed {location : Location}
    (below : ∀ object ∈ listing, "users/".toList <+: object.key.toList)
    (listed : ∀ location ∈ spared root start listing meanwhile, isSwept root location = true →
      nameOf root location ∈ listing.filterMap toolKey)
    (traced : AllTraced root start listing meanwhile moment)
    (present : location ∈ moment.now.items.map Prod.fst) (swept : isSwept root location = true)
    (unnamed : nameOf root location ∉ listing.filterMap toolKey) :
    Deletable root start moment.now listing location := by
  have notSpared : location ∉ spared root start listing meanwhile :=
    fun member => unnamed (listed location member swept)
  simp only [spared, List.mem_append, not_or] at notSpared
  obtain ⟨⟨notBefore, notMeanwhile⟩, noKey⟩ := notSpared
  obtain ⟨⟨location, origin⟩, inside, rfl⟩ := List.mem_map.mp present
  -- the file is one of those that were there at the start
  have early : (location, Origin.s3) ∈ start.items ∧ origin = .s3 := by
    cases traced.now _ inside with
    | before early =>
        cases origin with
        | s3 => exact ⟨early, rfl⟩
        | other =>
            exfalso
            apply notBefore
            exact List.mem_map_of_mem (f := Prod.fst) (List.mem_filter.mpr ⟨early, rfl⟩)
    | written change =>
        have target : location ∈ meanwhile.flatten.filterMap Change.target :=
          List.mem_filterMap.mpr ⟨.written location, change, rfl⟩
        exact absurd target notMeanwhile
    | downloaded named leads =>
        exact absurd (List.mem_map.mpr ⟨_, named, leads⟩) noKey
  obtain ⟨early, rfl⟩ := early
  constructor
  · exact OrderedDict.get_of_mem early
  · exact OrderedDict.get_of_mem inside
  · intro object member maps
    have named := toolKey_of_mapsTo (below object member) maps swept
    apply noKey
    exact List.mem_map.mpr ⟨_, List.mem_filterMap.mpr ⟨object, member, named⟩, maps.2⟩

theorem isSwept_of_below {directory location : Location}
    (below : root.path <+: directory) (proper : directory ≠ root.path)
    (called : directory.getLast? = some "tools") (within : directory <+: location)
    (inside : location ≠ directory) : isSwept root location = true := by
  obtain ⟨middle, rfl⟩ := below
  obtain ⟨rest, rfl⟩ := within
  have nonempty : middle ≠ [] := by
    rintro rfl
    exact proper (List.append_nil _)
  have last : middle.getLast? = some "tools" := by
    rwa [List.getLast?_append_of_ne_nil _ nonempty] at called
  have restNonempty : rest ≠ [] := by
    rintro rfl
    exact inside (List.append_nil _)
  simp only [isSwept, Bool.and_eq_true, List.isPrefixOf_iff_prefix, decide_eq_true_eq]
  constructor
  · exact (List.prefix_append _ _).trans (List.prefix_append _ _)
  · rw [List.append_assoc, List.drop_left, List.dropLast_append_of_ne_nil restNonempty]
    exact List.mem_append_left _ (List.mem_of_getLast? last)

theorem keeps_traced {op : Op} (other : ∀ location, op ≠ .unlink location)
    (files : ∀ (disk : Disk) (outcome : Outcome effects op),
      ∀ item ∈ (observe disk ⟨op, outcome⟩).items,
        item ∈ disk.items ∨ Traced root start listing meanwhile item) :
    Keeps (sweeping root objects start) (AllTraced root start listing meanwhile) (perform op) := by
  apply keeps_call
  intro moment outcome traced _
  constructor
  · exact fun location equal => absurd equal (other location)
  · exact traced.next (files moment.now outcome)

/-- An operation that leaves the files alone. -/
theorem keeps_idle {op : Op} (other : ∀ location, op ≠ .unlink location)
    (same : ∀ disk (outcome : Outcome effects op), observe disk ⟨op, outcome⟩ = disk) :
    Keeps (sweeping root objects start) (AllTraced root start listing meanwhile) (perform op) := by
  apply keeps_traced other
  intro disk outcome item member
  rw [same disk outcome] at member
  exact Or.inl member

theorem keeps_syncObjects_traced (tally : Tally) :
    Keeps (sweeping root objects start) (AllTraced root start listing meanwhile)
      (syncObjects root toolKey tally listing) := by
  apply keeps_syncObjects
  intro tally object member key named
  apply keeps_syncObject
  · exact fun _ => keeps_idle (by simp) fun _ _ => rfl
  · exact fun _ _ => keeps_idle (by simp) fun _ _ => rfl
  · apply keeps_traced (by simp)
    intro disk outcome item inside
    simp only [observe] at inside
    split at inside
    · rcases OrderedDict.mem_of_mem_set inside with rfl | before
      · have selected : key ∈ listing.filterMap toolKey :=
          List.mem_filterMap.mpr ⟨object, member, named⟩
        exact Or.inr (.downloaded selected rfl)
      · exact Or.inl before
    · exact Or.inl inside

theorem keeps_unlink_traced (given : Listed root objects start listing meanwhile)
    {location : Location} (swept : isSwept root location = true)
    (unnamed : nameOf root location ∉ listing.filterMap toolKey) :
    Keeps (sweeping root objects start) (AllTraced root start listing meanwhile)
      (perform (.unlink location)) := by
  apply keeps_call
  intro moment outcome traced agreed
  constructor
  · intro other equal applied
    cases equal
    have present : location ∈ moment.now.items.map Prod.fst := by
      simpa [sweeping, agrees, applied] using agreed
    rw [given.listed]
    exact deletable_of_unnamed given.below given.spared traced present swept unnamed
  · apply traced.next
    intro item member
    simp only [observe] at member
    split at member
    · exact Or.inl (OrderedDict.mem_of_mem_pop member)
    · exact Or.inl member

/-- What `rglob` is known to find. -/
theorem learns_rglob_traced (base : Location) (pattern : String) :
    Learns (sweeping root objects start) (AllTraced root start listing meanwhile)
      (perform (.rglob base pattern)) fun found =>
        ∀ location ∈ found, base <+: location ∧ location ≠ base ∧
          (pattern ≠ "*" → location.getLast? = some pattern) := by
  apply learns_call (keeps_idle (by simp) fun _ _ => rfl)
  intro moment found _ agreed location member
  have all := List.all_eq_true.mp agreed location member
  simp only [Bool.and_eq_true, Bool.or_eq_true, decide_eq_true_eq, bne_iff_ne,
    List.isPrefixOf_iff_prefix] at all
  exact ⟨all.1.1, all.1.2, fun other => all.2.resolve_left other⟩

theorem keeps_removeOrphans_traced (given : Listed root objects start listing meanwhile) :
    Keeps (sweeping root objects start) (AllTraced root start listing meanwhile)
      (removeOrphans root (listing.filterMap toolKey)) := by
  apply keeps_removeOrphans learns_rglob_traced fun _ => keeps_idle (by simp) fun _ _ => rfl
  intro directory location found within
  apply keeps_removeOrphan (keeps_idle (by simp) fun _ _ => rfl)
  apply keeps_unlink_traced given
  exact isSwept_of_below found.1 found.2.1 (found.2.2 (by decide)) within.1 within.2.1

/-- An operation after the sweep. -/
theorem keeps_after {op : Op} (other : ∀ location, op ≠ .unlink location) :
    Keeps (sweeping root objects start) (fun _ => True) (perform op) := by
  apply keeps_call
  intro moment outcome _ _
  exact ⟨fun location equal => absurd equal (other location), trivial⟩

theorem meets_syncListed (given : Listed root objects start listing meanwhile)
    {username project : Option String} (unfiltered : selectedKey username project = toolKey)
    (traced : AllTraced root start listing meanwhile moment) :
    (syncListed root username project listing).Meets (sweeping root objects start) moment
      fun _ _ => True := by
  unfold syncListed
  rw [unfiltered]
  have etags : Keeps (sweeping root objects start) (AllTraced root start listing meanwhile)
      (loadEtags root) :=
    keeps_loadEtags (keeps_idle (by simp) fun _ _ => rfl)
      (fun _ => keeps_idle (by simp) fun _ _ => rfl) fun _ => keeps_idle (by simp) fun _ _ => rfl
  apply etags.andThen traced _ fun _ _ _ => trivial
  intro cache moment traced
  apply (keeps_syncObjects_traced _).andThen traced _ fun _ _ _ => trivial
  intro tally moment traced
  apply (keeps_removeOrphans_traced given).andThen traced _ fun _ _ _ => trivial
  intro deleted moment _
  have saves : Keeps (sweeping root objects start) (fun _ => True)
      (saveEtags root tally.cache) :=
    keeps_saveEtags (keeps_after (by simp)) (fun _ => keeps_after (by simp))
      (keeps_after (by simp)) _
  apply saves.andThen trivial _ fun _ _ _ => trivial
  intro _ moment _
  apply (keeps_reloadIf (keeps_after (by simp)) _).andThen trivial _ fun _ _ _ => trivial
  exact fun _ _ _ => trivial

theorem learns_listAllObjects_traced :
    Learns (sweeping root objects start) (AllTraced root start listing meanwhile)
      (listAllObjects "users/") fun found =>
        objects = some found ∧ ∀ object ∈ found, "users/".toList <+: object.key.toList := by
  have lists : Learns (sweeping root objects start) (AllTraced root start listing meanwhile)
      (perform (.listObjects "users/")) fun answer =>
        objects = answer ∧ ∀ object ∈ answer.getD [], "users/".toList <+: object.key.toList := by
    apply learns_call (keeps_idle (by simp) fun _ _ => rfl)
    intro moment answer _ agreed
    simp only [sweeping, agrees, bne_self_eq_false, Bool.false_or, Bool.and_eq_true,
      decide_eq_true_eq, List.all_eq_true, List.isPrefixOf_iff_prefix] at agreed
    exact ⟨agreed.1.symm, agreed.2⟩
  exact learns_listAllObjects lists (keeps_idle (by simp) fun _ _ => rfl)

theorem meets_syncAll {username project : Option String} (cleanFirst : Bool)
    (noUser : given username = none) (noProject : given project = none)
    (listed : ∀ listing, objects = some listing →
      ∀ location ∈ spared root start listing meanwhile, isSwept root location = true →
        nameOf root location ∈ listing.filterMap toolKey) :
    (syncAll root username project cleanFirst).Meets (sweeping root objects start)
      ⟨start, meanwhile⟩ fun _ _ => True := by
  -- the listing is known only later
  have initially : AllTraced root start (objects.getD []) meanwhile ⟨start, meanwhile⟩ :=
    ⟨fun _ member => .before member, fun _ member => member⟩
  have idle : ∀ {op : Op}, (∀ location, op ≠ .unlink location) →
      (∀ disk (outcome : Outcome effects op), observe disk ⟨op, outcome⟩ = disk) →
      Keeps (sweeping root objects start) (AllTraced root start (objects.getD []) meanwhile)
        (perform op) := keeps_idle
  apply (idle (by simp) fun _ _ => rfl).andThen initially _ fun _ _ _ => trivial
  intro available moment traced
  cases available with
  | false => trivial
  | true =>
  apply (idle (by simp) fun _ _ => rfl).andThen traced _ fun _ _ _ => trivial
  intro configured moment traced
  cases configured with
  | false => trivial
  | true =>
  apply meets_tryCatch.mpr
  have body : (syncAllBody root username project cleanFirst).Meets
      (sweeping root objects start) moment fun _ _ => True := by
    apply (idle (by simp) fun _ _ => rfl).andThen traced _ fun _ _ _ => trivial
    intro _ moment traced
    apply (idle (by simp) fun _ _ => rfl).andThen traced _ fun _ _ _ => trivial
    intro _ moment traced
    refine meets_bind.mpr ((learns_listAllObjects_traced moment traced).mono ?_)
    intro result moment learned
    cases result with
    | error _ => trivial
    | ok found =>
    have traced := learned.1
    obtain ⟨known, below⟩ := learned.2 found rfl
    have given : Listed root objects start found meanwhile :=
      ⟨known, below, listed found known⟩
    rw [known, Option.getD_some] at traced
    have rest := meets_syncListed given (selectedKey_of_unfiltered noUser noProject) traced
    have cleaned : clean root username project = pure () := by
      simp [clean, cleanTarget, noUser]
    simp only [andThen, cleaned]
    cases found.isEmpty with
    | true => trivial
    | false =>
        cases cleanFirst with
        | true => exact rest
        | false => exact rest
  refine body.mono ?_
  intro result moment _
  cases result <;> trivial

end Sweep

/-! ### Where the downloaded files come from -/

section Origins

variable {root} {location : Location}

theorem downloaded_of_observe {disk : Disk} {event : SyncEvent}
    (member : (location, Origin.s3) ∈ (observe disk event).items) :
    (location, Origin.s3) ∈ disk.items ∨ DownloadsTo location event := by
  obtain ⟨op, outcome⟩ := event
  cases op with
  | download key path =>
      simp only [observe] at member
      split at member
      case isFalse => exact Or.inl member
      case isTrue applied =>
        rcases OrderedDict.mem_of_mem_set member with equal | before
        · right
          simp only [Prod.mk.injEq] at equal
          exact ⟨key, path, rfl, applied, equal.1.symm⟩
        · exact Or.inl before
  | writeBytes path _ | writeEtags path _ =>
      simp only [observe] at member
      split at member
      · rcases OrderedDict.mem_of_mem_set member with equal | before
        · simp at equal
        · exact Or.inl before
      · exact Or.inl member
  | replace source target =>
      simp only [observe] at member
      split at member
      · rcases OrderedDict.mem_of_mem_set member with equal | before
        · simp at equal
        · exact Or.inl (OrderedDict.mem_of_mem_pop before)
      · exact Or.inl member
  | unlink _ =>
      simp only [observe] at member
      split at member
      · exact Or.inl (OrderedDict.mem_of_mem_pop member)
      · exact Or.inl member
  | removeTree _ =>
      simp only [observe] at member
      split at member
      · exact Or.inl (OrderedDict.mem_of_mem_filter member)
      · exact Or.inl member
  | _ => exact Or.inl member

theorem downloaded_of_changes {disk : Disk} {changes : List Change}
    (member : (location, Origin.s3) ∈ (changes.foldl change disk).items) :
    (location, Origin.s3) ∈ disk.items := by
  rcases mem_of_mem_changes member with before | ⟨other, -, equal⟩
  · exact before
  · simp at equal

theorem downloaded_of_next {events : List SyncEvent} {moment : Moment}
    (member : (location, Origin.s3) ∈ (events.foldl Moment.next moment).disk.items) :
    (location, Origin.s3) ∈ moment.disk.items ∨ ∃ event ∈ events, DownloadsTo location event := by
  induction events generalizing moment with
  | nil => exact Or.inl member
  | cons event events induction =>
      rcases induction member with early | ⟨later, inside, downloads⟩
      · rcases downloaded_of_observe early with before | downloads
        · exact Or.inl (downloaded_of_changes before)
        · exact Or.inr ⟨event, List.mem_cons_self, downloads⟩
      · exact Or.inr ⟨later, List.mem_cons_of_mem _ inside, downloads⟩

theorem downloaded_of_step {disk : Disk} {action : Action}
    (member : (location, Origin.s3) ∈ (step root disk action).items) :
    (location, Origin.s3) ∈ disk.items ∨
      ∃ event ∈ action.events root, DownloadsTo location event := by
  cases action with
  | sync request objects environment meanwhile => exact downloaded_of_next member
  | others changes => exact Or.inl (downloaded_of_changes member)

theorem downloaded_of_steps {disk : Disk} {actions : List Action}
    (member : (location, Origin.s3) ∈ (actions.foldl (step root) disk).items) :
    (location, Origin.s3) ∈ disk.items ∨
      ∃ action ∈ actions, ∃ event ∈ action.events root, DownloadsTo location event := by
  induction actions generalizing disk with
  | nil => exact Or.inl member
  | cons action actions induction =>
      rcases induction member with early | ⟨later, inside, downloads⟩
      · rcases downloaded_of_step early with before | downloads
        · exact Or.inl before
        · exact Or.inr ⟨action, List.mem_cons_self, downloads⟩
      · exact Or.inr ⟨later, List.mem_cons_of_mem _ inside, downloads⟩

/-- A file of an S3 sync was downloaded by one of the history. -/
theorem exists_download {before : List Action}
    (found : (filesAfter root before).get location = some .s3) :
    ∃ earlier ∈ before, ∃ event ∈ earlier.events root, DownloadsTo location event := by
  rcases downloaded_of_steps (OrderedDict.mem_of_get found) with initially | downloads
  · cases initially
  · exact downloads

end Origins

/-! ### Two histories -/

def exampleTools : Location := ["srv", "data", "ann", "demo", "tools"]

def exampleFile : Location := exampleTools ++ ["general", "add", "add.py"]

/-- Everything succeeds, and the data tree has one `tools` directory. -/
def succeeding (remote : Remote) (found : List Location) : Environment effects
  | _, .download _ _ | _, .writeBytes _ _ => .returned ()
  | _, .rglob _ pattern => .returned (if pattern = "*" then found else [exampleTools])
  | history, op => existing remote history op

/-- The bucket lists the object of one tool, and the storage lists `add.py`. -/
def listingOf (tool : String) : Remote where
  objects _ := some [⟨s!"users/10/ann/demo/tools/general/{tool}/{tool}.py", "1"⟩]
  userIds _ _ := none
  folders _ := some [⟨"add.py", true⟩]

/-- The periodic sync. -/
def periodicSync (remote : Remote) (found : List Location) : Action :=
  .sync (.all none none false) (remote.objects "users/") (succeeding remote found) []

def supabaseSync (remote : Remote) : Action :=
  .sync (.toolFromSupabase 9 "ann" "demo" "add" (some "general")) (remote.objects "users/")
    (succeeding remote []) []

/-! ### Every history -/

/-- The contract of one sync, read off its run. -/
theorem deletable_of_unfiltered {request : Request} {objects : Option (List S3Object)}
    {environment : Environment effects} {meanwhile : List (List Change)} {start : Disk}
    (unfiltered : request.isUnfiltered = true)
    (agreed : (Action.sync request objects environment meanwhile).agrees root start)
    (listed : SparedListed root start (.sync request objects environment meanwhile)) :
    EachStep Moment.next (sweeping root objects start).guarantee ⟨start, meanwhile⟩
      ((request.program root).trace environment) := by
  cases request with
  | tool _ _ _ _ _ => cases unfiltered
  | toolFromSupabase _ _ _ _ _ => cases unfiltered
  | all username project cleanFirst =>
      have none := unfiltered
      simp only [Request.isUnfiltered, Bool.and_eq_true, Option.isNone_iff_eq_none] at none
      have spares : ∀ listing, objects = some listing →
          ∀ location ∈ spared root start listing meanwhile, isSwept root location = true →
            nameOf root location ∈ listing.filterMap toolKey := by
        rintro listing rfl
        exact listed unfiltered
      have meets := meets_syncAll cleanFirst none.1 none.2 spares
      exact (meets.sound environment agreed).1

theorem only_orphans_deleted (actions : List Action)
    (agreed : EachStep (step root) (Action.agrees root) OrderedDict.empty actions)
    (listed : EachStep (step root) (SparedListed root) OrderedDict.empty actions) :
    DeletesOrphans root actions := by
  intro before request objects environment meanwhile after equal unfiltered
  have deletable := deletable_of_unfiltered root unfiltered (agreed before _ after equal)
    (listed before _ after equal)
  intro earlier event later split location unlinks applied
  have orphan := deletable earlier event later split location unlinks applied
  exact ⟨exists_download orphan.before, orphan.notOthers, orphan.unlisted⟩

/-- `add.py` is deleted once the bucket lists another tool only. -/
theorem only_orphans_deleted_unlisted :
    (filesAfter exampleRoot [periodicSync (listingOf "add") []]).get exampleFile = some .s3 ∧
      DeletesOrphans exampleRoot
        [periodicSync (listingOf "add") [], periodicSync (listingOf "sub") [exampleFile]] ∧
      ((periodicSync (listingOf "sub") [exampleFile]).events exampleRoot)[23]? =
        some ⟨.unlink exampleFile, .returned ()⟩ := by
  refine ⟨by decide, ?_, rfl⟩
  exact only_orphans_deleted exampleRoot _ (by decide +kernel) (by decide +kernel)

/-- A file of the Supabase sync is deleted when the bucket does not list it. -/
theorem supabase_file_deleted :
    ¬ ∀ root actions, EachStep (step root) (Action.agrees root) OrderedDict.empty actions →
      DeletesOrphans root actions := by
  intro claimed
  let before := [supabaseSync (listingOf "sub")]
  let events := (periodicSync (listingOf "sub") [exampleFile]).events exampleRoot
  have agreed : EachStep (step exampleRoot) (Action.agrees exampleRoot) OrderedDict.empty
      [supabaseSync (listingOf "sub"), periodicSync (listingOf "sub") [exampleFile]] := by
    decide
  have deletes := claimed exampleRoot _ agreed before _ _ _ _ [] rfl rfl
  have unlinks : events[23]? = some ⟨.unlink exampleFile, .returned ()⟩ := rfl
  obtain ⟨bound, event⟩ := List.getElem?_eq_some_iff.mp unlinks
  have split : events = events.take 23 ++ ⟨.unlink exampleFile, .returned ()⟩ :: events.drop 24 := by
    rw [← event, ← List.drop_eq_getElem_cons bound, List.take_append_drop]
  have orphan := deletes _ _ _ split exampleFile rfl rfl
  have others : ((events.take 23).foldl Moment.next
      ⟨filesAfter exampleRoot before, []⟩).now.get exampleFile = some .other := by decide
  have same := others.symm.trans orphan.notOthers
  cases same

end GrafuxMcp.CloudSync
