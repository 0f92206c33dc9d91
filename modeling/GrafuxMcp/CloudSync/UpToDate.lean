import GrafuxMcp.CloudSync.Orphans

/-! # Downloads that are skipped

A sync skips an object whose ETag the cache holds when a file is at its local
path. The cache is kept by remote key, the file by the shorter local path, and the
cache is saved only at the end of a sync. -/

namespace GrafuxMcp.CloudSync

open GrafuxMcp PosixPath Program

/-! ### Files and the bucket -/

/-- The content of an object is what its ETag stands for. -/
inductive Content
  | object (etag : String)
  | etags (cache : EtagCache)

/-- The objects of the bucket by their ETags, and what the pages list. -/
structure Bucket where
  etag : String → String
  listing : String → Option (List S3Object)
  listed : ∀ keyPrefix objects, listing keyPrefix = some objects → ∀ object ∈ objects,
    keyPrefix.toList <+: object.key.toList ∧ stripQuotes object.etag = etag object.key

/-- The local files. `outdated` says that a download replaced content whose ETag
the saved cache holds, and that no cache was saved since. -/
structure Store where
  files : OrderedDict Location Content
  outdated : Bool := false

variable (root : DataRoot) (bucket : Bucket)

def etagLocation : Location :=
  resolve (root.path ++ [etagFile])

def temporaryLocation : Location :=
  resolve (root.path ++ [etagTemporaryFile])

/-- The file at which an object with this key is stored. -/
def placeOf (key : String) : Location :=
  resolve (child root.path (belowUser key))

def savedCache (files : OrderedDict Location Content) : EtagCache := fun key =>
  match files.get (etagLocation root) with
  | some (.etags cache) => cache key
  | _ => none

def Store.observe (store : Store) : SyncEvent → Store
  | ⟨.download key path, outcome⟩ =>
      if outcome.applied then
        { files := store.files.set (resolve path) (.object (bucket.etag key))
          outdated := store.outdated ||
            (savedCache root store.files key).any (· != bucket.etag key) }
      else store
  | ⟨.writeEtags path cache, outcome⟩ =>
      if outcome.applied then { store with files := store.files.set (resolve path) (.etags cache) }
      else store
  | ⟨.replace source target, outcome⟩ =>
      if outcome.applied then
        match store.files.get (resolve source) with
        | some content =>
            { files := (store.files.pop (resolve source)).set (resolve target) content }
        | none => store
      else store
  | ⟨.unlink location, outcome⟩ =>
      if outcome.applied then { store with files := store.files.pop location } else store
  | ⟨.removeTree path, outcome⟩ =>
      if outcome.applied then
        { store with files := store.files.filter fun item => !(resolve path).isPrefixOf item.1 }
      else store
  | _ => store

/-- The listings are those of the bucket, the ETag cache is read as it was saved,
and a download that fails leaves the file as it was. -/
def Pulls (store : Store) : SyncEvent → Prop
  | ⟨.listObjects keyPrefix, .returned listed⟩ => listed = bucket.listing keyPrefix
  | ⟨.readEtags path, .returned cache⟩ => store.files.get (resolve path) = some (.etags cache)
  | ⟨.download _ _, .raised _ applied _⟩ => applied = false
  | _ => True

def failsDownload : SyncEvent → Bool
  | ⟨.download _ _, .raised _ _ _⟩ => true
  | _ => false

/-! ### Histories -/

/-- A sync and the bucket that it finds. -/
structure SyncRun where
  request : Request
  bucket : Bucket
  environment : Environment effects

def SyncRun.trace (run : SyncRun) : List SyncEvent :=
  (run.request.program root).trace run.environment

def SyncRun.result (run : SyncRun) : Except Exc SyncResult :=
  (run.request.program root).result run.environment

def afterRun (store : Store) (run : SyncRun) : Store :=
  (run.trace root).foldl (Store.observe root run.bucket) store

def Store.empty : Store where
  files := OrderedDict.empty

/-- No two tool keys of the listing have the same local path. -/
def DistinctPlaces (objects : List S3Object) : Prop :=
  ∀ first ∈ objects, ∀ second ∈ objects, toolKey first ≠ none → toolKey second ≠ none →
    placeOf root first.key = placeOf root second.key → first.key = second.key

/-- The prefixes under which a request lists the objects that it downloads. -/
def Request.Lists (keyPrefix : String) : Request → Prop
  | .all _ _ _ => keyPrefix = "users/"
  | .tool username project toolName category _ =>
      ∃ uid, keyPrefix = toolPrefix uid username project toolName category
  | .toolFromSupabase _ _ _ _ _ => False

def Request.usesS3 : Request → Bool
  | .toolFromSupabase _ _ _ _ _ => false
  | _ => true

/-- A sync with S3 whose listings have distinct local paths. -/
structure SyncRun.Agrees (store : Store) (run : SyncRun) : Prop where
  usesS3 : run.request.usesS3 = true
  distinct : ∀ keyPrefix, run.request.Lists keyPrefix →
    ∀ objects, run.bucket.listing keyPrefix = some objects → DistinctPlaces root objects
  pulls : EachStep (Store.observe root run.bucket) (Pulls run.bucket) store (run.trace root)

/-- After an unfiltered sync that succeeds and in which no download failed, each
listed tool file that is there has the content of its object. -/
def Fresh (store : Store) (run : SyncRun) : Prop :=
  run.request.isUnfiltered = true →
    (∀ result, run.result root = .ok result → result.success = true →
      (∀ event ∈ run.trace root, failsDownload event = false) →
      ∀ objects, run.bucket.listing "users/" = some objects → ∀ object ∈ objects,
        toolKey object ≠ none → ∀ content,
          (afterRun root store run).files.get (placeOf root object.key) = some content →
            content = .object (stripQuotes object.etag))

/-! ### The condition -/

/-- A download does not touch the files of the ETag cache, and no other key of the
same local path is saved with another ETag. -/
def DownloadsAlone (store : Store) : SyncEvent → Prop
  | ⟨.download key path, outcome⟩ => outcome.applied = true →
      resolve path ≠ etagLocation root ∧ resolve path ≠ temporaryLocation root ∧
        ∀ other etag, other ≠ key → placeOf root other = resolve path →
          savedCache root store.files other = some etag → etag = bucket.etag key
  | _ => True

/-- Before the sync the saved cache is not outdated, and its downloads displace no
content that the cache knows under another key. -/
structure KeepsCacheTrue (store : Store) (run : SyncRun) : Prop where
  saved : store.outdated = false
  alone : EachStep (Store.observe root run.bucket) (DownloadsAlone root run.bucket) store
    (run.trace root)

/-! ### Caches that match the files -/

/-- The content of each file is what the cache says of the keys stored there. -/
structure Matches (cache : EtagCache) (files : OrderedDict Location Content) : Prop where
  content : ∀ key etag content, cache key = some etag →
    files.get (placeOf root key) = some content → content = .object etag
  apart : ∀ key etag, cache key = some etag →
    placeOf root key ≠ etagLocation root ∧ placeOf root key ≠ temporaryLocation root

/-- The saved cache matches the files unless it is outdated. -/
def Store.Kept (store : Store) : Prop :=
  store.outdated = false → Matches root (savedCache root store.files) store.files

section Matches

variable {root bucket} {cache : EtagCache} {files smaller : OrderedDict Location Content}
  {store : Store}

theorem Matches.mono {less : EtagCache} (matched : Matches root cache files)
    (fewer : ∀ key etag, less key = some etag → cache key = some etag) :
    Matches root less files where
  content key etag content held := matched.content key etag content (fewer key etag held)
  apart key etag held := matched.apart key etag (fewer key etag held)

/-- Files may be removed. -/
theorem Matches.shrink (matched : Matches root cache files)
    (within : ∀ location content, smaller.get location = some content →
      files.get location = some content) : Matches root cache smaller where
  content key etag content held present :=
    matched.content key etag content held (within _ _ present)
  apart := matched.apart

theorem savedCache_eq {saved : EtagCache}
    (found : files.get (etagLocation root) = some (.etags saved)) :
    savedCache root files = saved := by
  funext key
  rw [savedCache, found]

theorem exists_saved {key etag : String} (held : savedCache root files key = some etag) :
    ∃ saved, files.get (etagLocation root) = some (.etags saved) ∧ saved key = some etag := by
  unfold savedCache at held
  split at held
  case h_1 saved found => exact ⟨saved, found, held⟩
  case h_2 => cases held

theorem savedCache_shrink
    (within : ∀ location content, smaller.get location = some content →
      files.get location = some content) {key etag : String}
    (held : savedCache root smaller key = some etag) : savedCache root files key = some etag := by
  rcases exists_saved held with ⟨saved, found, entry⟩
  rw [savedCache_eq (within _ _ found)]
  exact entry

theorem savedCache_set {location : Location} (other : location ≠ etagLocation root)
    (content : Content) : savedCache root (files.set location content) = savedCache root files := by
  funext key
  rw [savedCache, savedCache, OrderedDict.get_set, if_neg other.symm]

theorem Store.Kept.shrink (kept : store.Kept root)
    (within : ∀ location content, smaller.get location = some content →
      store.files.get location = some content) :
    Store.Kept root { store with files := smaller } := by
  intro current
  exact ((kept current).shrink within).mono fun _ _ held => savedCache_shrink within held

/-- A file of the ETag cache is no place of a key that the cache holds. -/
theorem Matches.set_etags (matched : Matches root cache files) {location : Location}
    (own : location = etagLocation root ∨ location = temporaryLocation root)
    (content : Content) : Matches root cache (files.set location content) where
  content key etag found held present := by
    have apart := matched.apart key etag held
    have different : placeOf root key ≠ location := by
      rcases own with same | same
      · rw [same]
        exact apart.1
      · rw [same]
        exact apart.2
    rw [OrderedDict.get_set, if_neg different] at present
    exact matched.content key etag found held present
  apart := matched.apart

/-- A new file: the entries that stay agree with it if they lead there. -/
theorem Matches.set_object (matched : Matches root cache files) {next : EtagCache}
    {location : Location} {new : String}
    (apart : location ≠ etagLocation root ∧ location ≠ temporaryLocation root)
    (entries : ∀ key etag, next key = some etag →
      (cache key = some etag ∧ (placeOf root key = location → etag = new)) ∨
        (placeOf root key = location ∧ etag = new)) :
    Matches root next (files.set location (.object new)) where
  content key etag content held present := by
    rw [OrderedDict.get_set] at present
    rcases entries key etag held with ⟨before, agrees⟩ | ⟨here, same⟩
    · split at present
      case isTrue here =>
        rw [agrees here]
        exact (Option.some.inj present).symm
      case isFalse => exact matched.content key etag content before present
    · rw [if_pos here] at present
      rw [same]
      exact (Option.some.inj present).symm
  apart key etag held := by
    rcases entries key etag held with ⟨before, -⟩ | ⟨here, -⟩
    · exact matched.apart key etag before
    · rw [here]
      exact apart

end Matches

/-! ### The loop over the objects -/

/-- While the loop runs, its cache matches the files, and it holds what was saved
and what the loop downloaded. -/
structure Looping (objects : List S3Object) (cache : EtagCache) (store : Store) : Prop where
  kept : store.Kept root
  matched : Matches root cache store.files
  known : ∀ key etag, cache key = some etag → savedCache root store.files key = some etag ∨
    ∃ object ∈ objects, toolKey object ≠ none ∧ object.key = key

def pulling (faultless : Bool) : Contract effects Store where
  observe := Store.observe root bucket
  assume store event := Pulls bucket store event ∧ DownloadsAlone root bucket store event ∧
    (faultless = true → failsDownload event = false)
  guarantee _ _ := True

section Loop

variable {root bucket} {faultless : Bool} {objects : List S3Object} {object : S3Object}
  {cache : EtagCache} {store : Store}

theorem keeps_quiet {op : Op} {inv : Store → Prop}
    (same : ∀ store (outcome : Outcome effects op),
      Store.observe root bucket store ⟨op, outcome⟩ = store) :
    Keeps (pulling root bucket faultless) inv (perform op) := by
  apply keeps_call
  intro store outcome holds _
  refine ⟨trivial, ?_⟩
  have state : (pulling root bucket faultless).observe store ⟨op, outcome⟩ = store :=
    same store outcome
  rw [state]
  exact holds

theorem Looping.download (looping : Looping root objects cache store) (member : object ∈ objects)
    (tool : toolKey object ≠ none) (distinct : DistinctPlaces root objects)
    (apart : placeOf root object.key ≠ etagLocation root ∧
      placeOf root object.key ≠ temporaryLocation root)
    (alone : ∀ other etag, other ≠ object.key → placeOf root other = placeOf root object.key →
      savedCache root store.files other = some etag → etag = bucket.etag object.key) :
    Looping root objects
      (Function.update cache object.key (some (bucket.etag object.key)))
      { files := store.files.set (placeOf root object.key) (.object (bucket.etag object.key))
        outdated := store.outdated ||
          (savedCache root store.files object.key).any (· != bucket.etag object.key) } where
  kept := by
    intro current
    rw [Bool.or_eq_false_iff] at current
    rw [savedCache_set apart.1]
    apply (looping.kept current.1).set_object apart
    intro key etag held
    left
    refine ⟨held, ?_⟩
    intro here
    by_cases own : key = object.key
    · rw [own] at held
      rw [held] at current
      simpa using current.2
    · exact alone key etag own here held
  matched := by
    apply looping.matched.set_object apart
    intro key etag held
    by_cases own : key = object.key
    · rw [own, Function.update_self] at held
      rw [own]
      exact Or.inr ⟨rfl, (Option.some.inj held).symm⟩
    · rw [Function.update_of_ne own] at held
      left
      refine ⟨held, ?_⟩
      intro here
      rcases looping.known key etag held with saved | ⟨other, listed, otherTool, equal⟩
      · exact alone key etag own here saved
      · rw [← equal] at own here
        exact absurd (distinct other listed object member otherTool tool here) own
  known key etag held := by
    rw [savedCache_set apart.1]
    by_cases own : key = object.key
    · exact Or.inr ⟨object, member, tool, own.symm⟩
    · rw [Function.update_of_ne own] at held
      exact looping.known key etag held

/-- An object that is skipped has its entry in the cache. -/
theorem learns_isCurrent {inv : Store → Prop} {localPath : List String} :
    Learns (pulling root bucket faultless) inv (isCurrent cache object localPath) fun current =>
      current = true → cache object.key = some (stripQuotes object.etag) := by
  unfold isCurrent
  split
  case isTrue held =>
    exact learns_call (keeps_quiet fun _ _ => rfl) fun _ _ _ _ _ => held
  case isFalse => exact learns_pure nofun

/-- What a loop over some of the objects leaves. -/
def AfterObjects (root : DataRoot) (bucket : Bucket) (faultless : Bool)
    (listing : List S3Object) (cache : EtagCache) (objects : List S3Object) :
    Except Exc Tally → Store → Prop
  | .ok tally, store => Looping root listing tally.cache store ∧
      (∀ key, cache key = some (bucket.etag key) → tally.cache key = some (bucket.etag key)) ∧
      (faultless = true → ∀ object ∈ objects, tally.cache object.key = some (bucket.etag object.key))
  | .error _, store => store.Kept root

theorem meets_syncObject {tally : Tally} (listed : stripQuotes object.etag = bucket.etag object.key)
    (looping : Looping root objects tally.cache store) (member : object ∈ objects)
    (tool : toolKey object ≠ none) (distinct : DistinctPlaces root objects) :
    (syncObject root tally object (belowUser object.key)).Meets (pulling root bucket faultless)
      store (AfterObjects root bucket faultless objects tally.cache [object]) := by
  refine meets_bind.mpr ((learns_isCurrent store looping).mono ?_)
  intro result store learned
  cases result with
  | error exception => exact learned.1.kept
  | ok current =>
  cases current with
  | true =>
      have held := learned.2 true rfl rfl
      rw [listed] at held
      exact ⟨learned.1, fun _ same => same, fun _ => List.forall_mem_singleton.mpr held⟩
  | false =>
      have makes : ∀ path, Keeps (pulling root bucket faultless)
          (Looping root objects tally.cache) (makeDirs path) :=
        fun _ => keeps_makeDirs fun _ _ => keeps_quiet fun _ _ => rfl
      generalize (child root.path (belowUser object.key)).dropLast = parents
      apply (makes parents).andThen learned.1 _ fun _ _ looping => looping.kept
      intro _ store looping
      apply meets_tryCatch.mpr
      apply meets_bind.mpr
      apply meets_call
      intro outcome assumed
      refine ⟨trivial, ?_⟩
      cases outcome with
      | raised exception applied possible =>
          -- a failed download leaves the files and the cache as they were
          have unapplied : applied = false := assumed.1
          have state : (pulling root bucket faultless).observe store
              ⟨.download object.key (child root.path (belowUser object.key)),
                .raised exception applied possible⟩ = store := by
            simp [pulling, Store.observe, unapplied]
          rw [state]
          refine ⟨looping, fun _ same => same, ?_⟩
          intro noFailure
          have failed := assumed.2.2 noFailure
          cases failed
      | returned answer =>
          have alone := assumed.2.1 rfl
          have entry : ∀ key, key = object.key ∨ tally.cache key = some (bucket.etag key) →
              Function.update tally.cache object.key (some (stripQuotes object.etag)) key =
                some (bucket.etag key) := by
            intro key cached
            by_cases own : key = object.key
            · rw [own, listed, Function.update_self]
            · rw [Function.update_of_ne own]
              exact cached.resolve_left own
          refine ⟨?_, fun key same => entry key (Or.inr same), ?_⟩
          · rw [listed]
            exact looping.download member tool distinct ⟨alone.1, alone.2.1⟩ alone.2.2
          · exact fun _ => List.forall_mem_singleton.mpr (entry _ (Or.inl rfl))

/-- The local key of a listed tool object is the part of its key below the user. -/
def NamesTools (localKey : S3Object → Option String) (objects : List S3Object) : Prop :=
  ∀ object ∈ objects, ∀ name, localKey object = some name →
    toolKey object ≠ none ∧ name = belowUser object.key

theorem meets_syncObjects {localKey : S3Object → Option String} {listing : List S3Object}
    {tally : Tally}
    (etags : ∀ object ∈ objects, stripQuotes object.etag = bucket.etag object.key)
    (names : NamesTools localKey objects) (distinct : DistinctPlaces root listing)
    (within : objects ⊆ listing) (looping : Looping root listing tally.cache store) :
    (syncObjects root localKey tally objects).Meets (pulling root bucket faultless) store
      (AfterObjects root bucket faultless listing tally.cache
        (objects.filter fun object => (localKey object).isSome)) := by
  induction objects generalizing tally store with
  | nil => exact ⟨looping, fun _ same => same, fun _ => by simp⟩
  | cons object objects induction =>
      have laterEtags := fun other member => etags other (List.mem_cons_of_mem _ member)
      have laterNames : NamesTools localKey objects :=
        fun other member => names other (List.mem_cons_of_mem _ member)
      have laterWithin : objects ⊆ listing := (List.cons_subset.mp within).2
      unfold syncObjects
      cases named : localKey object with
      | none =>
          have skipped : (object :: objects).filter (fun object => (localKey object).isSome) =
              objects.filter fun object => (localKey object).isSome := by
            simp [named]
          rw [skipped]
          exact induction laterEtags laterNames laterWithin looping
      | some name =>
          have parts := names object List.mem_cons_self name named
          have kept : (object :: objects).filter (fun object => (localKey object).isSome) =
              object :: objects.filter fun object => (localKey object).isSome := by
            simp [named]
          rw [kept, parts.2]
          have first : (syncObject root tally object (belowUser object.key)).Meets
              (pulling root bucket faultless) store
              (AfterObjects root bucket faultless listing tally.cache [object]) :=
            meets_syncObject (etags object List.mem_cons_self) looping
              (within List.mem_cons_self) parts.1 distinct
          refine meets_bind.mpr (first.mono ?_)
          intro result store after
          cases result with
          | error exception => exact after
          | ok next =>
              have rest := induction laterEtags laterNames laterWithin after.1
              refine rest.mono ?_
              intro result store ended
              cases result with
              | error exception => exact ended
              | ok last =>
                  refine ⟨ended.1, fun key same => ended.2.1 key (after.2.1 key same), ?_⟩
                  intro noFailure other member
                  rcases List.mem_cons.mp member with same | later
                  · rw [same]
                    exact ended.2.1 _ (after.2.2 noFailure object List.mem_cons_self)
                  · exact ended.2.2 noFailure other later

end Loop

/-! ### The rest of a sync -/

/-- The loop is over: its cache is to be saved. -/
structure Saving (cache : EtagCache) (store : Store) : Prop where
  kept : store.Kept root
  matched : Matches root cache store.files

section Rest

variable {root bucket} {faultless : Bool} {cache : EtagCache} {store : Store}
  {inv : Store → Prop}

/-- The invariants that a removal of files keeps. -/
def Shrinks (inv : Store → Prop) : Prop :=
  ∀ store files, inv store →
    (∀ location content, files.get location = some content →
      store.files.get location = some content) → inv { store with files := files }

theorem shrinks_saving : Shrinks (Saving root cache) :=
  fun _ _ saving within => ⟨saving.kept.shrink within, saving.matched.shrink within⟩

theorem get_of_filter {files : OrderedDict Location Content}
    {keeps : Location × Content → Bool} {location : Location} {content : Content}
    (found : (files.filter keeps).get location = some content) :
    files.get location = some content :=
  OrderedDict.get_of_mem (OrderedDict.mem_of_mem_filter (OrderedDict.mem_of_get found))

theorem keeps_unlinking (shrinks : Shrinks inv) (location : Location) :
    Keeps (pulling root bucket faultless) inv (perform (.unlink location)) := by
  apply keeps_call
  intro store outcome holds _
  refine ⟨trivial, ?_⟩
  simp only [pulling, Store.observe]
  split
  · exact shrinks store _ holds fun _ _ => get_of_filter
  · exact holds

theorem keeps_removingTree (shrinks : Shrinks inv) (path : List String) :
    Keeps (pulling root bucket faultless) inv (perform (.removeTree path)) := by
  apply keeps_call
  intro store outcome holds _
  refine ⟨trivial, ?_⟩
  simp only [pulling, Store.observe]
  split
  · exact shrinks store _ holds fun _ _ => get_of_filter
  · exact holds

theorem keeps_cleaning (shrinks : Shrinks inv) (username project : Option String) :
    Keeps (pulling root bucket faultless) inv (clean root username project) := by
  unfold clean
  cases cleanTarget root username project with
  | none => exact keeps_pure _
  | some target =>
      apply keeps_bind (keeps_quiet fun _ _ => rfl)
      intro present
      cases present with
      | false => exact keeps_pure _
      | true => exact keeps_removingTree shrinks target

theorem keeps_sweeping (shrinks : Shrinks inv) (s3Files : List String) :
    Keeps (pulling root bucket faultless) inv (removeOrphans root s3Files) := by
  have finds : ∀ base pattern, Learns (pulling root bucket faultless) inv
      (perform (.rglob base pattern)) fun found => ∀ location ∈ found, True :=
    fun _ _ => learns_call (keeps_quiet fun _ _ => rfl) fun _ _ _ _ _ _ => trivial
  apply keeps_removeOrphans finds fun _ => keeps_quiet fun _ _ => rfl
  intro _ location _ _
  exact keeps_removeOrphan (keeps_quiet fun _ _ => rfl) fun _ => keeps_unlinking shrinks location

/-- The loaded cache is the saved one, or empty. -/
theorem learns_loadEtags :
    Learns (pulling root bucket faultless) (· = store) (loadEtags root) fun cache =>
      ∀ key etag, cache key = some etag → savedCache root store.files key = some etag := by
  have quiet : ∀ {op : Op}, (∀ store (outcome : Outcome effects op),
      Store.observe root bucket store ⟨op, outcome⟩ = store) →
      Keeps (pulling root bucket faultless) (· = store) (perform op) := keeps_quiet
  have path : Learns (pulling root bucket faultless) (· = store) (etagPath root) _ :=
    learns_etagPath (quiet fun _ _ => rfl)
  apply path.bind
  intro _ _
  apply (quiet fun _ _ => rfl).learns.bind
  intro present _
  cases present with
  | false => exact learns_pure nofun
  | true =>
      apply Learns.tryCatch
      · apply path.bind
        intro _ equal
        rw [equal]
        apply learns_call (quiet fun _ _ => rfl)
        intro now answer same assumed key etag held
        rw [same] at assumed
        have read : savedCache root store.files = answer := savedCache_eq assumed.1
        rw [read]
        exact held
      · exact fun _ => learns_pure nofun

/-- The temporary file holds the cache. -/
structure Written (root : DataRoot) (cache : EtagCache) (store : Store) : Prop where
  saving : Saving root cache store
  temporary : store.files.get (temporaryLocation root) = some (.etags cache)

theorem temporary_ne_etag : temporaryLocation root ≠ etagLocation root := by
  have temporary : temporaryLocation root = root.path ++ [etagTemporaryFile] := by
    rw [temporaryLocation, resolve_append_of_plain (by decide), resolve_of_plain root.plain]
  have saved : etagLocation root = root.path ++ [etagFile] := by
    rw [etagLocation, resolve_append_of_plain (by decide), resolve_of_plain root.plain]
  rw [temporary, saved]
  intro same
  have names := List.append_cancel_left same
  exact absurd names (by decide)

theorem Saving.write (saving : Saving root cache store) :
    Written root cache
      { store with files := store.files.set (temporaryLocation root) (.etags cache) } where
  saving := by
    constructor
    · intro current
      rw [savedCache_set temporary_ne_etag]
      exact (saving.kept current).set_etags (Or.inr rfl) _
    · exact saving.matched.set_etags (Or.inr rfl) _
  temporary := by rw [OrderedDict.get_set, if_pos rfl]

theorem Written.replace (written : Written root cache store) :
    Saving root cache
      { files := (store.files.pop (temporaryLocation root)).set (etagLocation root)
          (.etags cache) } := by
  have matched : Matches root cache
      ((store.files.pop (temporaryLocation root)).set (etagLocation root) (.etags cache)) :=
    (written.saving.matched.shrink fun _ _ => get_of_filter).set_etags (Or.inl rfl) _
  constructor
  · intro _
    rw [savedCache_eq (by rw [OrderedDict.get_set, if_pos rfl])]
    exact matched
  · exact matched

theorem keeps_savingEtags :
    Keeps (pulling root bucket faultless) (Saving root cache) (saveEtags root cache) := by
  have path : ∀ {inv : Store → Prop},
      Learns (pulling root bucket faultless) inv (etagPath root) _ :=
    learns_etagPath (keeps_quiet fun _ _ => rfl)
  apply keeps_bind_of path
  intro _ equal
  rw [equal, List.dropLast_concat]
  apply keeps_tryCatch _ fun _ => keeps_pure _
  intro store saving
  apply meets_bind.mpr
  apply meets_call
  intro outcome _
  refine ⟨trivial, ?_⟩
  cases outcome with
  | raised exception applied possible =>
      cases applied with
      | true => exact saving.write.saving
      | false => exact saving
  | returned answer =>
      refine meets_bind.mpr ((path _ saving.write).mono ?_)
      intro result store learned
      cases result with
      | error exception => exact learned.1.saving
      | ok target =>
          rw [andThen, learned.2 target rfl]
          apply meets_call
          intro outcome _
          refine ⟨trivial, ?_⟩
          have moved := learned.1.replace
          have found : store.files.get (resolve (root.path ++ [etagTemporaryFile])) = _ :=
            learned.1.temporary
          simp only [pulling, Store.observe]
          split
          · rw [found]
            exact moved
          · exact learned.1.saving

end Rest

/-! ### Tool keys -/

section Keys

variable {objects : List S3Object} {object : S3Object}

theorem namesTools_selectedKey (username project : Option String) :
    NamesTools (selectedKey username project) objects := by
  intro object _ name named
  unfold selectedKey at named
  split at named
  case isFalse => cases named
  case isTrue selected =>
    rw [isSelected] at selected
    simp only [Bool.and_eq_true] at selected
    have empty : given none = none := rfl
    have tool : isSelected none none object.key = true := by
      simp [isSelected, empty, selected.1.1.1, selected.2]
    refine ⟨?_, (Option.some.inj named).symm⟩
    simp [toolKey, selectedKey, tool]

/-- Below `users/` the two ways to drop the user agree. -/
theorem belowTwo_eq_belowUser {key : String} (below : "users/".toList <+: key.toList) :
    belowTwo key = belowUser key := by
  rcases split_of_users below with ⟨rest, pieces⟩
  rw [belowTwo, belowUser, pieces]
  rcases rest with _ | ⟨uid, _ | ⟨first, rest⟩⟩ <;> rfl

/-- The prefix of a tool lies below `users/` and names the directory `tools`. -/
theorem toolPrefix_shape (uid username project toolName : String) (category : Option String) :
    "users/".toList <+: (toolPrefix uid username project toolName category).toList ∧
      "/tools/".toList <:+: (toolPrefix uid username project toolName category).toList := by
  have shape : ∃ before after, (toolPrefix uid username project toolName category).toList =
      "users/".toList ++ before ++ "/tools/".toList ++ after := by
    unfold toolPrefix
    cases given category with
    | none =>
        refine ⟨uid.toList ++ '/' :: username.toList ++ '/' :: project.toList,
          toolName.toList ++ ['/'], ?_⟩
        simp [toString]
    | some category =>
        refine ⟨uid.toList ++ '/' :: username.toList ++ '/' :: project.toList,
          category.toList ++ '/' :: toolName.toList ++ ['/'], ?_⟩
        simp [toString]
  rcases shape with ⟨before, after, equal⟩
  rw [equal]
  constructor
  · rw [List.append_assoc, List.append_assoc]
    exact List.prefix_append _ _
  · exact ⟨_, _, rfl⟩

theorem namesTools_fileKey {uid username project toolName : String} {category : Option String}
    (below : ∀ object ∈ objects,
      (toolPrefix uid username project toolName category).toList <+: object.key.toList) :
    NamesTools fileKey objects := by
  intro object member name named
  have shape := toolPrefix_shape uid username project toolName category
  have within := below object member
  unfold fileKey at named
  split at named
  case isTrue => cases named
  case isFalse file =>
    have tools : contains object.key "/tools/" = true :=
      decide_eq_true (shape.2.trans within.isInfix)
    have empty : given none = none := rfl
    have tool : isSelected none none object.key = true := by
      simp [isSelected, empty, file, tools]
    constructor
    · simp [toolKey, selectedKey, tool]
    · rw [← Option.some.inj named, belowTwo_eq_belowUser (shape.1.trans within)]

end Keys

/-! ### One sync -/

section Sync

variable {root bucket} {faultless : Bool} {objects : List S3Object} {store : Store}

/-- The saved cache matches the files. -/
def Current (root : DataRoot) (store : Store) : Prop :=
  Matches root (savedCache root store.files) store.files

theorem shrinks_current : Shrinks (Current root) :=
  fun _ _ current within =>
    (current.shrink within).mono fun _ _ held => savedCache_shrink within held

theorem Current.kept (current : Current root store) : store.Kept root :=
  fun _ => current

theorem Current.looping (current : Current root store) {cache : EtagCache}
    (loaded : ∀ key etag, cache key = some etag → savedCache root store.files key = some etag) :
    Looping root objects cache store where
  kept := current.kept
  matched := current.mono loaded
  known key etag held := Or.inl (loaded key etag held)

/-- The selected objects that are there have the content of the bucket. -/
def FilesFresh (root : DataRoot) (bucket : Bucket) (objects : List S3Object) (store : Store) :
    Prop :=
  ∀ object ∈ objects, ∀ content, store.files.get (placeOf root object.key) = some content →
    content = .object (bucket.etag object.key)

theorem Saving.fresh {cache : EtagCache} (saving : Saving root cache store)
    (entries : ∀ object ∈ objects, cache object.key = some (bucket.etag object.key)) :
    FilesFresh root bucket objects store :=
  fun object member content present =>
    saving.matched.content object.key _ content (entries object member) present

theorem learns_listing (inv : Store → Prop) (keyPrefix : String) :
    Learns (pulling root bucket faultless) inv (perform (.listObjects keyPrefix)) fun listed =>
      listed = bucket.listing keyPrefix :=
  learns_call (keeps_quiet fun _ _ => rfl) fun _ _ _ assumed => assumed.1

/-- What `sync_all` leaves. -/
def AfterSync (root : DataRoot) (bucket : Bucket) (faultless : Bool)
    (localKey : S3Object → Option String) (result : Except Exc SyncResult) (store : Store) :
    Prop :=
  store.Kept root ∧ (faultless = true → ∀ answer, result = .ok answer → answer.success = true →
    ∀ objects, bucket.listing "users/" = some objects →
      FilesFresh root bucket (objects.filter fun object => (localKey object).isSome) store)

theorem AfterSync.failed {localKey : S3Object → Option String} {result : Except Exc SyncResult}
    (kept : store.Kept root)
    (unsuccessful : ∀ answer, result = .ok answer → answer.success = false) :
    AfterSync root bucket faultless localKey result store := by
  refine ⟨kept, ?_⟩
  intro _ answer equal success
  rw [unsuccessful answer equal] at success
  cases success

theorem meets_syncListed_fresh {username project : Option String}
    (listed : bucket.listing "users/" = some objects) (distinct : DistinctPlaces root objects)
    (current : Current root store) :
    (syncListed root username project objects).Meets (pulling root bucket faultless) store
      (AfterSync root bucket faultless (selectedKey username project)) := by
  have broken : ∀ {exception : Exc} {store : Store}, store.Kept root →
      AfterSync root bucket faultless (selectedKey username project) (.error exception) store :=
    fun kept => AfterSync.failed kept nofun
  refine meets_bind.mpr ((learns_loadEtags store rfl).mono ?_)
  intro result now loaded
  rw [loaded.1]
  cases result with
  | error exception => exact broken current.kept
  | ok cache =>
  have etags : ∀ object ∈ objects, stripQuotes object.etag = bucket.etag object.key :=
    fun object member => (bucket.listed _ objects listed object member).2
  have loop : (syncObjects root (selectedKey username project) ⟨cache, 0, 0⟩ objects).Meets
      (pulling root bucket faultless) store _ :=
    meets_syncObjects etags (namesTools_selectedKey username project) distinct
      (List.Subset.refl objects) (current.looping (loaded.2 cache rfl))
  refine meets_bind.mpr (loop.mono ?_)
  intro result store after
  cases result with
  | error exception => exact broken after
  | ok tally =>
  have saving : Saving root tally.cache store := ⟨after.1.kept, after.1.matched⟩
  apply (keeps_sweeping shrinks_saving _).andThen saving _ fun _ _ saving => broken saving.kept
  intro deleted store saving
  apply keeps_savingEtags.andThen saving _ fun _ _ saving => broken saving.kept
  intro _ store saving
  have reloads : Keeps (pulling root bucket faultless) (Saving root tally.cache)
      (reloadIf (tally.synced + deleted > 0)) := keeps_reloadIf (keeps_quiet fun _ _ => rfl) _
  apply reloads.andThen saving _ fun _ _ saving => broken saving.kept
  intro tools store saving
  refine ⟨saving.kept, ?_⟩
  intro noFailure _ _ _ others same
  rw [listed, Option.some.injEq] at same
  rw [← same]
  exact saving.fresh (after.2.2 noFailure)

theorem meets_syncAll_fresh {username project : Option String} (cleanFirst : Bool)
    (distinct : ∀ objects, bucket.listing "users/" = some objects → DistinctPlaces root objects)
    (current : Current root store) :
    (syncAll root username project cleanFirst).Meets (pulling root bucket faultless) store
      (AfterSync root bucket faultless (selectedKey username project)) := by
  have quiet : ∀ {op : Op}, (∀ store (outcome : Outcome effects op),
      Store.observe root bucket store ⟨op, outcome⟩ = store) →
      Keeps (pulling root bucket faultless) (Current root) (perform op) := keeps_quiet
  have broken : ∀ {exception : Exc} {store : Store}, store.Kept root →
      AfterSync root bucket faultless (selectedKey username project) (.error exception) store :=
    fun kept => AfterSync.failed kept nofun
  have refused : ∀ {text : String} {store : Store}, Current root store →
      AfterSync root bucket faultless (selectedKey username project) (.ok (failure text)) store := by
    intro text store current
    apply AfterSync.failed current.kept
    intro answer equal
    rw [← Except.ok.inj equal]
    rfl
  apply (quiet fun _ _ => rfl).andThen current _ fun _ _ current => broken current.kept
  intro available store current
  cases available with
  | false => exact refused current
  | true =>
  apply (quiet fun _ _ => rfl).andThen current _ fun _ _ current => broken current.kept
  intro configured store current
  cases configured with
  | false => exact refused current
  | true =>
  have body : (syncAllBody root username project cleanFirst).Meets (pulling root bucket faultless)
      store (AfterSync root bucket faultless (selectedKey username project)) := by
    apply (quiet fun _ _ => rfl).andThen current _ fun _ _ current => broken current.kept
    intro _ store current
    apply (quiet fun _ _ => rfl).andThen current _ fun _ _ current => broken current.kept
    intro _ store current
    have lists := learns_listAllObjects (learns_listing (Current root) "users/")
      (quiet fun _ _ => rfl)
    refine meets_bind.mpr ((lists store current).mono ?_)
    intro result store learned
    cases result with
    | error exception => exact broken learned.1.kept
    | ok objects =>
    have listed := (learned.2 objects rfl).symm
    have synced : ∀ store, Current root store →
        (syncListed root username project objects).Meets (pulling root bucket faultless) store
          (AfterSync root bucket faultless (selectedKey username project)) :=
      fun _ current => meets_syncListed_fresh listed (distinct objects listed) current
    cases empty : objects.isEmpty with
    | true =>
        simp only [andThen, empty, if_true]
        refine ⟨learned.1.kept, ?_⟩
        intro _ _ _ _ others same
        rw [listed, Option.some.injEq, List.isEmpty_iff.mp empty] at same
        rw [← same]
        exact nofun
    | false =>
        simp only [andThen, empty, Bool.false_eq_true, if_false]
        cases cleanFirst with
        | false => exact synced store learned.1
        | true =>
            have cleans : Keeps (pulling root bucket faultless) (Current root)
                (clean root username project) := keeps_cleaning shrinks_current username project
            apply cleans.andThen learned.1 _ fun _ _ current => broken current.kept
            exact fun _ store current => synced store current
  apply meets_tryCatch.mpr
  refine body.mono ?_
  intro result store after
  cases result with
  | ok answer => exact after
  | error exception =>
      apply AfterSync.failed after.1
      intro answer equal
      rw [← Except.ok.inj equal]
      rfl

theorem keeps_toolUserId (inv : Store → Prop) (username project : String)
    (userId : Option String) :
    Keeps (pulling root bucket faultless) inv (toolUserId username project userId) := by
  have quiet : ∀ {op : Op}, (∀ store (outcome : Outcome effects op),
      Store.observe root bucket store ⟨op, outcome⟩ = store) →
      Keeps (pulling root bucket faultless) inv (perform op) := keeps_quiet
  unfold toolUserId
  cases given userId with
  | some uid => exact keeps_pure _
  | none =>
      apply keeps_bind (quiet fun _ _ => rfl)
      intro cached
      cases cached with
      | some uid => exact keeps_pure _
      | none =>
          have finds : Keeps (pulling root bucket faultless) inv
              (findUserId username (some project)) := by
            apply keeps_tryCatch _ fun _ => keeps_pure _
            apply keeps_bind (quiet fun _ _ => rfl)
            intro _
            apply keeps_bind (quiet fun _ _ => rfl)
            intro listed
            cases listed <;> exact keeps_pure _
          apply keeps_bind finds
          intro found
          exact keeps_bind (quiet fun _ _ => rfl) fun _ => keeps_pure _

theorem meets_syncTool_kept {username project toolName : String}
    {category userId : Option String}
    (distinct : ∀ uid objects,
      bucket.listing (toolPrefix uid username project toolName category) = some objects →
        DistinctPlaces root objects)
    (current : Current root store) :
    (syncTool root username project toolName category userId).Meets
      (pulling root bucket faultless) store fun _ store => store.Kept root := by
  have quiet : ∀ {op : Op}, (∀ store (outcome : Outcome effects op),
      Store.observe root bucket store ⟨op, outcome⟩ = store) →
      Keeps (pulling root bucket faultless) (Current root) (perform op) := keeps_quiet
  apply (quiet fun _ _ => rfl).andThen current _ fun _ _ current => current.kept
  intro available store current
  cases available with
  | false => exact current.kept
  | true =>
  apply (quiet fun _ _ => rfl).andThen current _ fun _ _ current => current.kept
  intro configured store current
  cases configured with
  | false => exact current.kept
  | true =>
  have body : (syncToolBody root username project toolName category userId).Meets
      (pulling root bucket faultless) store fun _ store => store.Kept root := by
    apply (quiet fun _ _ => rfl).andThen current _ fun _ _ current => current.kept
    intro _ store current
    have finds : Keeps (pulling root bucket faultless) (Current root)
        (toolUserId username project userId) := keeps_toolUserId _ username project userId
    apply finds.andThen current _ fun _ _ current => current.kept
    intro uid store current
    refine meets_bind.mpr ((learns_loadEtags store rfl).mono ?_)
    intro result now loaded
    rw [loaded.1]
    cases result with
    | error exception => exact current.kept
    | ok cache =>
    have loaded := loaded.2 cache rfl
    refine meets_bind.mpr ((learns_listing (· = store) _ store rfl).mono ?_)
    intro result now listed
    rw [listed.1]
    cases result with
    | error exception => exact current.kept
    | ok answer =>
    have listed := (listed.2 answer rfl).symm
    cases answer with
    | none => exact current.kept
    | some objects =>
    have etags : ∀ object ∈ objects, stripQuotes object.etag = bucket.etag object.key :=
      fun object member => (bucket.listed _ objects listed object member).2
    have names : NamesTools fileKey objects :=
      namesTools_fileKey fun object member => (bucket.listed _ objects listed object member).1
    have loop : (syncObjects root fileKey ⟨cache, 0, 0⟩ objects).Meets
        (pulling root bucket faultless) store _ :=
      meets_syncObjects etags names (distinct uid objects listed) (List.Subset.refl objects)
        (current.looping loaded)
    refine meets_bind.mpr (loop.mono ?_)
    intro result store after
    cases result with
    | error exception => exact after
    | ok tally =>
    have saving : Saving root tally.cache store := ⟨after.1.kept, after.1.matched⟩
    have ends : Keeps (pulling root bucket faultless) (Saving root tally.cache)
        (perform (.endOfPages (toolPrefix uid username project toolName category))) :=
      keeps_quiet fun _ _ => rfl
    apply ends.andThen saving _ fun _ _ saving => saving.kept
    intro _ store saving
    apply keeps_savingEtags.andThen saving _ fun _ _ saving => saving.kept
    intro _ store saving
    have reloads : Keeps (pulling root bucket faultless) (Saving root tally.cache)
        (reloadIf (tally.synced > 0)) := keeps_reloadIf (keeps_quiet fun _ _ => rfl) _
    apply reloads.andThen saving _ fun _ _ saving => saving.kept
    exact fun _ _ saving => saving.kept
  apply meets_tryCatch.mpr
  refine body.mono ?_
  intro result store kept
  cases result <;> exact kept

end Sync

/-! ### Every history -/

section Histories

variable {root} {store : Store} {run : SyncRun}

/-- A sync of the history meets its contract. -/
theorem pulls_run {faultless : Bool} (agrees : run.Agrees root store)
    (keeps : KeepsCacheTrue root store run)
    (clean : faultless = true → ∀ event ∈ run.trace root, failsDownload event = false) :
    EachStep (pulling root run.bucket faultless).observe (pulling root run.bucket faultless).assume
      store (run.trace root) := by
  intro before event after equal
  refine ⟨agrees.pulls before event after equal, keeps.alone before event after equal, ?_⟩
  exact fun noFailure => clean noFailure event (by simp [equal])

theorem kept_afterRun (agrees : run.Agrees root store) (keeps : KeepsCacheTrue root store run)
    (kept : store.Kept root) : (afterRun root store run).Kept root := by
  have current : Current root store := kept keeps.saved
  have assumed : EachStep (pulling root run.bucket false).observe
      (pulling root run.bucket false).assume store (run.trace root) :=
    pulls_run agrees keeps nofun
  rcases run with ⟨request, bucket, environment⟩
  cases request with
  | all username project cleanFirst =>
      have meets : (syncAll root username project cleanFirst).Meets (pulling root bucket false)
          store _ := meets_syncAll_fresh cleanFirst (agrees.distinct "users/" rfl) current
      exact (meets.sound environment assumed).2.1
  | tool username project toolName category userId =>
      have meets : (syncTool root username project toolName category userId).Meets
          (pulling root bucket false) store _ :=
        meets_syncTool_kept (fun uid => agrees.distinct _ ⟨uid, rfl⟩) current
      exact (meets.sound environment assumed).2
  | toolFromSupabase _ _ _ _ _ => cases agrees.usesS3

theorem fresh_afterRun (agrees : run.Agrees root store) (keeps : KeepsCacheTrue root store run)
    (kept : store.Kept root) : Fresh root store run := by
  have current : Current root store := kept keeps.saved
  intro unfiltered result returned success clean objects listed object member tool content present
  have assumed : EachStep (pulling root run.bucket true).observe
      (pulling root run.bucket true).assume store (run.trace root) :=
    pulls_run agrees keeps fun _ => clean
  have etags := (run.bucket.listed _ objects listed object member).2
  rcases run with ⟨request, bucket, environment⟩
  cases request with
  | tool _ _ _ _ _ => cases unfiltered
  | toolFromSupabase _ _ _ _ _ => cases unfiltered
  | all username project cleanFirst =>
      simp only [Request.isUnfiltered, Bool.and_eq_true, Option.isNone_iff_eq_none] at unfiltered
      have meets : (syncAll root username project cleanFirst).Meets (pulling root bucket true)
          store _ := meets_syncAll_fresh cleanFirst (agrees.distinct "users/" rfl) current
      have after := (meets.sound environment assumed).2.2 rfl result returned success objects listed
      rw [selectedKey_of_unfiltered unfiltered.1 unfiltered.2] at after
      rw [etags]
      apply after object _ content present
      simpa [List.mem_filter, Option.isSome_iff_ne_none] using ⟨member, tool⟩

end Histories

/-! ### A bucket with one object -/

/-- Nothing fails, and the files are as the sync finds and changes them. -/
def answering (root : DataRoot) (bucket : Bucket) (store : Store) : Environment effects :=
  fun history op =>
    let files := (history.foldl (Store.observe root bucket) store).files
    match op with
    | .listObjects keyPrefix => .returned (bucket.listing keyPrefix)
    | .pathExists path => .returned (files.get (resolve path)).isSome
    | .readEtags path =>
        match files.get (resolve path) with
        | some (.etags cache) => .returned cache
        | _ => .raised "" false rfl
    | op => succeeding ⟨fun _ => none, fun _ _ => none, fun _ => none⟩ [] history op

theorem pulls_answering {bucket : Bucket} (store : Store) (history : List SyncEvent) (op : Op) :
    Pulls bucket (history.foldl (Store.observe root bucket) store)
      ⟨op, answering root bucket store history op⟩ := by
  cases op with
  | readEtags path =>
      simp only [answering]
      split
      case h_1 cache found => exact found
      case h_2 => trivial
  | listObjects keyPrefix => rfl
  | _ => trivial

def bucketOf (key etag : String) (below : "users/".toList <+: key.toList) : Bucket where
  etag _ := stripQuotes etag
  listing keyPrefix := if keyPrefix = "users/" then some [⟨key, etag⟩] else none
  listed keyPrefix objects listed object member := by
    split at listed
    case isFalse => cases listed
    case isTrue users =>
      rw [← Option.some.inj listed, List.mem_singleton] at member
      rw [users, member]
      exact ⟨below, rfl⟩

/-- The periodic sync of a bucket with one object. -/
def syncOf (store : Store) (bucket : Bucket) : SyncRun where
  request := .all none none false
  bucket := bucket
  environment := answering exampleRoot bucket store

theorem agrees_syncOf {store : Store} {key etag : String}
    {below : "users/".toList <+: key.toList} :
    (syncOf store (bucketOf key etag below)).Agrees exampleRoot store where
  usesS3 := rfl
  distinct keyPrefix users objects listed := by
    have one : objects = [⟨key, etag⟩] := by
      rw [users] at listed
      exact (Option.some.inj listed).symm
    intro first firstMember second secondMember _ _ _
    rw [one, List.mem_singleton] at firstMember secondMember
    rw [firstMember, secondMember]
  pulls := eachStep_trace (pulls_answering exampleRoot store) _

def exampleKey : String := "users/10/ann/demo/tools/general/add/add.py"

def movedKey : String := "users/11/ann/demo/tools/general/add/add.py"

def exampleBucket : Bucket := bucketOf exampleKey "1" (by decide)

/-- The user has another id, and the tool another content. -/
def movedBucket : Bucket := bucketOf movedKey "2" (by decide)

/-- The files after syncs of these buckets, one after the other. -/
def storeAfter (buckets : List Bucket) : Store :=
  buckets.foldl (fun store bucket => afterRun exampleRoot store (syncOf store bucket)) Store.empty

def Content.etag? : Content → Option String
  | .object etag => some etag
  | .etags _ => none

/-- A download before a cache is saved. -/
def downloadsUnsaved (store : Store) : SyncEvent → Bool
  | ⟨.download _ path, _⟩ =>
      resolve path != etagLocation root && resolve path != temporaryLocation root &&
        (store.files.get (etagLocation root)).isNone
  | _ => true

theorem skipped_up_to_date (runs : List SyncRun)
    (agreed : EachStep (afterRun root) (fun store run => run.Agrees root store) Store.empty runs)
    (keeps : EachStep (afterRun root) (KeepsCacheTrue root) Store.empty runs) :
    EachStep (afterRun root) (Fresh root) Store.empty runs := by
  have both : EachStep (afterRun root)
      (fun store run => run.Agrees root store ∧ KeepsCacheTrue root store run) Store.empty runs :=
    fun before run after equal => ⟨agreed before run after equal, keeps before run after equal⟩
  have initially : Store.empty.Kept root := by
    intro _
    constructor
    · exact fun _ _ _ held => by cases held
    · exact fun _ _ held => by cases held
  have fresh : ∀ store run, store.Kept root →
      run.Agrees root store ∧ KeepsCacheTrue root store run → Fresh root store run :=
    fun _ _ kept parts => fresh_afterRun parts.1 parts.2 kept
  have preserved : ∀ store run, store.Kept root →
      run.Agrees root store ∧ KeepsCacheTrue root store run → (afterRun root store run).Kept root :=
    fun _ _ kept parts => kept_afterRun parts.1 parts.2 kept
  exact both.of_invariant initially preserved fresh

theorem downloadsAlone_of_unsaved {bucket : Bucket} {store : Store} {event : SyncEvent}
    (unsaved : downloadsUnsaved root store event = true) :
    DownloadsAlone root bucket store event := by
  rcases event with ⟨op, outcome⟩
  cases op with
  | download key path =>
      simp only [downloadsUnsaved, Bool.and_eq_true, bne_iff_ne, Option.isNone_iff_eq_none]
        at unsaved
      intro _
      refine ⟨unsaved.1.1, unsaved.1.2, ?_⟩
      intro other etag _ _ held
      rcases exists_saved held with ⟨saved, found, _⟩
      rw [unsaved.2] at found
      cases found
  | _ => trivial

/-- The second sync of the bucket skips its object. -/
theorem skipped_up_to_date_unchanged :
    EachStep (afterRun exampleRoot) (Fresh exampleRoot) Store.empty
        [syncOf Store.empty exampleBucket, syncOf (storeAfter [exampleBucket]) exampleBucket] ∧
      (syncOf (storeAfter [exampleBucket]) exampleBucket).result exampleRoot =
        .ok { success := true, filesSkipped := 1 } := by
  have agreed : EachStep (afterRun exampleRoot) (fun store run => run.Agrees exampleRoot store)
      Store.empty
      [syncOf Store.empty exampleBucket, syncOf (storeAfter [exampleBucket]) exampleBucket] := by
    rw [eachStep_cons, eachStep_cons]
    exact ⟨agrees_syncOf, agrees_syncOf, eachStep_nil _⟩
  have first : EachStep (Store.observe exampleRoot exampleBucket)
      (fun store event => downloadsUnsaved exampleRoot store event = true) Store.empty
      ((syncOf Store.empty exampleBucket).trace exampleRoot) := by decide +kernel
  have second : EachStep (Store.observe exampleRoot exampleBucket)
      (fun store event => downloadsUnsaved exampleRoot store event = true)
      (storeAfter [exampleBucket])
      ((syncOf (storeAfter [exampleBucket]) exampleBucket).trace exampleRoot) := by decide +kernel
  have kept : EachStep (afterRun exampleRoot) (KeepsCacheTrue exampleRoot) Store.empty
      [syncOf Store.empty exampleBucket, syncOf (storeAfter [exampleBucket]) exampleBucket] := by
    rw [eachStep_cons, eachStep_cons]
    refine ⟨⟨rfl, ?_⟩, ⟨?_, ?_⟩, eachStep_nil _⟩
    · intro before event after equal
      exact downloadsAlone_of_unsaved exampleRoot (first before event after equal)
    · have current : (storeAfter [exampleBucket]).outdated = false := by decide +kernel
      exact current
    · intro before event after equal
      exact downloadsAlone_of_unsaved exampleRoot (second before event after equal)
  refine ⟨?_, by decide +kernel⟩
  exact skipped_up_to_date exampleRoot _ agreed kept

/-- The last of three syncs: it finds the tool under its first key again. -/
def returningSync : SyncRun :=
  syncOf (storeAfter [exampleBucket, movedBucket]) exampleBucket

/-- It succeeds, skips the object, and leaves the content that the second found. -/
theorem returningSync_skips :
    returningSync.result exampleRoot = .ok { success := true, filesSkipped := 1 } ∧
      (∀ event ∈ returningSync.trace exampleRoot, failsDownload event = false) ∧
      ((afterRun exampleRoot (storeAfter [exampleBucket, movedBucket]) returningSync).files.get
        (placeOf exampleRoot exampleKey)).bind Content.etag? = some "2" := by
  decide +kernel

theorem not_fresh_returningSync :
    ¬ Fresh exampleRoot (storeAfter [exampleBucket, movedBucket]) returningSync := by
  intro fresh
  rcases returningSync_skips with ⟨returned, clean, content⟩
  rcases Option.bind_eq_some_iff.mp content with ⟨stored, present, etag⟩
  have listed : exampleBucket.listing "users/" = some [⟨exampleKey, "1"⟩] := by decide +kernel
  have tool : toolKey ⟨exampleKey, "1"⟩ ≠ none := by decide +kernel
  have same := fresh rfl _ returned rfl clean _ listed _ List.mem_cons_self tool stored present
  rw [same] at etag
  exact absurd etag (by decide +kernel)

/-- The sync after a change of the user id and back skips a file that is out of date. -/
theorem skipped_out_of_date :
    ¬ ∀ root runs,
      EachStep (afterRun root) (fun store run => run.Agrees root store) Store.empty runs →
        EachStep (afterRun root) (Fresh root) Store.empty runs := by
  intro claimed
  have reached : afterRun exampleRoot
      (afterRun exampleRoot Store.empty (syncOf Store.empty exampleBucket))
      (syncOf (storeAfter [exampleBucket]) movedBucket) =
      storeAfter [exampleBucket, movedBucket] := by
    simp only [storeAfter, List.foldl_cons, List.foldl_nil]
  have agreed : EachStep (afterRun exampleRoot) (fun store run => run.Agrees exampleRoot store)
      Store.empty [syncOf Store.empty exampleBucket,
        syncOf (storeAfter [exampleBucket]) movedBucket, returningSync] := by
    rw [eachStep_cons, eachStep_cons, eachStep_cons, reached]
    exact ⟨agrees_syncOf, agrees_syncOf, agrees_syncOf, eachStep_nil _⟩
  have fresh := claimed exampleRoot _ agreed
  rw [eachStep_cons, eachStep_cons, eachStep_cons, reached] at fresh
  exact not_fresh_returningSync fresh.2.2.1

end GrafuxMcp.CloudSync
