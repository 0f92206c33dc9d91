import GrafuxMcp.CloudSync.Containment

/-! # Syncs that stay inside the data tree

A request whose syncs touch nothing beside the data tree, whatever the file
system and the downloads do, meets the condition of `Request.StaysInside`. -/

namespace GrafuxMcp.CloudSync

open GrafuxMcp PosixPath Program

variable {root : DataRoot} {remote : Remote} {post : Except Exc α → Unit → Prop}

abbrev MeetsInside (root : DataRoot) (remote : Remote) (program : Sync α)
    (post : Except Exc α → Unit → Prop) : Prop :=
  program.Meets (containment root remote) () post

/-- An answer that the surroundings may give to the first operation. -/
theorem of_perform {op : Op} {next : op.Answer → Sync α}
    (meets : MeetsInside root remote (perform op >>= next) post) (answer : op.Answer)
    (realistic : Realistic root remote ⟨op, .returned answer⟩) :
    MeetsInside root remote (next answer) post :=
  ((meets_bind.mp meets).of_call (.returned answer) realistic).2

theorem onLine_of_contained {op : Op} {outcome : Outcome effects op} {location : Location}
    (contained : Contained root ⟨op, outcome⟩) (touched : location ∈ touches ⟨op, outcome⟩) :
    OnLine root.path location :=
  Or.inl (contained location touched).1

/-- A directory above the data root exists; any other may have to be created. -/
theorem of_makeDir {path : List String} {next : Bool → Sync α}
    (meets : MeetsInside root remote (perform (.makeDir path) >>= next) post) :
    OnLine root.path (resolve path) ∧ ∃ created, MeetsInside root remote (next created) post := by
  by_cases above : IsAncestor root (resolve path)
  · exact ⟨Or.inr above.1, false, of_perform meets false (by simp [Realistic, touches])⟩
  · have realistic : Realistic root remote ⟨.makeDir path, .returned true⟩ := by
      simpa [Realistic, touches] using above
    have parts := (meets_bind.mp meets).of_call (.returned true) realistic
    exact ⟨onLine_of_contained parts.1 (by simp [touches]), true, parts.2⟩

theorem of_makeFronts {fronts : List (List String)}
    {post : Except Exc PUnit → Unit → Prop}
    (meets : MeetsInside root remote
      (fronts.forM fun front => do let _ ← perform (.makeDir front)) post) :
    (∀ front ∈ fronts, OnLine root.path (resolve front)) ∧ post (.ok ⟨⟩) () := by
  induction fronts with
  | nil => exact ⟨by simp, meets⟩
  | cons front fronts induction =>
      simp only [List.forM] at meets
      obtain ⟨line, created, rest⟩ := of_makeDir (meets_bind.mp meets)
      have later := induction rest
      exact ⟨List.forall_mem_cons.mpr ⟨line, later.1⟩, later.2⟩

theorem of_makeDirs {path : List String} {post : Except Exc PUnit → Unit → Prop}
    (meets : MeetsInside root remote (makeDirs path) post) :
    (∀ front ∈ path.inits, OnLine root.path (resolve front)) ∧ post (.ok ⟨⟩) () :=
  of_makeFronts meets

/-- A file at the end of a path that was made can be written, or is one of the
directories above the data root. -/
theorem of_file {op : Op} {path : List String} {post : Except Exc op.Answer → Unit → Prop}
    (meets : MeetsInside root remote (perform op) post) (answer : op.Answer)
    (touched : touches ⟨op, .returned answer⟩ = [resolve path])
    (realistic : ¬ IsAncestor root (resolve path) → Realistic root remote ⟨op, .returned answer⟩) :
    OnLine root.path (resolve path) := by
  by_cases above : IsAncestor root (resolve path)
  · exact Or.inr above.1
  · have parts := meets.of_call (.returned answer) (realistic above)
    exact onLine_of_contained parts.1 (by simp [touched])

theorem of_isCurrent {cache : EtagCache} {object : S3Object} {path : List String}
    {post : Except Exc Bool → Unit → Prop}
    (meets : MeetsInside root remote (isCurrent cache object path) post) : post (.ok false) () := by
  unfold isCurrent at meets
  split at meets
  · exact (meets.of_call (.returned false) trivial).2
  · exact meets

theorem of_syncObject {tally : Tally} {object : S3Object} {localKey : String}
    {post : Except Exc Tally → Unit → Prop}
    (meets : MeetsInside root remote (syncObject root tally object localKey) post) :
    FileStays root localKey ∧ ∃ next, post (.ok next) () := by
  have made := of_makeDirs (meets_bind.mp (of_isCurrent (meets_bind.mp meets)))
  have download := meets_tryCatch.mp made.2
  constructor
  · refine staysOn_iff.mpr ⟨made.1, ?_⟩
    have realistic : ¬ IsAncestor root (resolve (child root.path localKey)) →
        Realistic root remote ⟨.download object.key (child root.path localKey), .returned ()⟩ :=
      fun below _ => below
    exact of_file (meets_bind.mp download) () rfl realistic
  · have fails : Realistic root remote
        ⟨.download object.key (child root.path localKey), .raised "" false rfl⟩ :=
      fun applied => by cases applied
    exact ⟨tally, ((meets_bind.mp download).of_call _ fails).2⟩

theorem of_syncObjects {localKey : S3Object → Option String} {objects : List S3Object}
    {tally : Tally} {post : Except Exc Tally → Unit → Prop}
    (meets : MeetsInside root remote (syncObjects root localKey tally objects) post) :
    ∀ object ∈ objects, ∀ key, localKey object = some key → FileStays root key := by
  induction objects generalizing tally with
  | nil => simp
  | cons object objects induction =>
      unfold syncObjects at meets
      cases named : localKey object with
      | none =>
          rw [named] at meets
          refine List.forall_mem_cons.mpr ⟨?_, induction meets⟩
          intro key equal
          rw [named] at equal
          cases equal
      | some key =>
          rw [named] at meets
          obtain ⟨stays, next, rest⟩ := of_syncObject (meets_bind.mp meets)
          refine List.forall_mem_cons.mpr ⟨?_, induction rest⟩
          intro other equal
          rw [named, Option.some.injEq] at equal
          rw [← equal]
          exact stays

/-- The directory that is to be removed exists. -/
theorem of_clean {username project : Option String} {post : Except Exc Unit → Unit → Prop}
    (meets : MeetsInside root remote (clean root username project) post) :
    (∀ target, cleanTarget root username project = some target →
      Inside root (resolve target) ∧ resolve target ≠ root.path) ∧ post (.ok ()) () := by
  unfold clean at meets
  cases named : cleanTarget root username project with
  | none =>
      rw [named] at meets
      exact ⟨by simp, meets⟩
  | some target =>
      rw [named] at meets
      have removed := (of_perform meets true trivial).of_call (.returned ()) trivial
      have contained := removed.1 (resolve target) (by simp [touches])
      refine ⟨?_, removed.2⟩
      intro other equal
      rw [Option.some.injEq] at equal
      rw [← equal]
      exact ⟨contained.1, contained.2 rfl⟩

theorem of_loadEtags {post : Except Exc EtagCache → Unit → Prop}
    (meets : MeetsInside root remote (loadEtags root) post) : ∃ cache, post (.ok cache) () := by
  obtain ⟨-, created, rest⟩ := of_makeDir (meets_bind.mp meets)
  exact ⟨_, of_perform rest false trivial⟩

theorem of_listAllObjects {keyPrefix : String} {objects : List S3Object}
    {post : Except Exc (List S3Object) → Unit → Prop}
    (meets : MeetsInside root remote (listAllObjects keyPrefix) post)
    (listed : remote.objects keyPrefix = some objects) : post (.ok objects) () := by
  have answered := of_perform meets (remote.objects keyPrefix) rfl
  rw [listed] at answered
  exact of_perform answered () trivial

theorem of_syncListed {username project : Option String} {objects : List S3Object}
    {post : Except Exc SyncResult → Unit → Prop}
    (meets : MeetsInside root remote (syncListed root username project objects) post) :
    ∀ object ∈ objects, ∀ key, selectedKey username project object = some key →
      FileStays root key := by
  obtain ⟨cache, rest⟩ := of_loadEtags (meets_bind.mp meets)
  exact of_syncObjects (meets_bind.mp rest)

theorem of_syncAll {username project : Option String} {cleanFirst : Bool}
    (meets : MeetsInside root remote (syncAll root username project cleanFirst) fun _ _ => True) :
    (Request.all username project cleanFirst).StaysInside root remote := by
  intro objects listed nonempty
  have body := meets_tryCatch.mp (of_perform (of_perform meets true trivial) true trivial)
  obtain ⟨-, created, rest⟩ := of_makeDir (of_perform body () trivial)
  have synced := of_listAllObjects (meets_bind.mp rest) listed
  have empty : objects.isEmpty = false := by simpa using nonempty
  simp only [andThen, empty, Bool.false_eq_true, if_false] at synced
  cases cleanFirst with
  | false => exact ⟨by simp, of_syncListed synced⟩
  | true =>
      have cleaned := of_clean (meets_bind.mp synced)
      exact ⟨fun _ => cleaned.1, of_syncListed cleaned.2⟩

/-- The bucket and the cached user ids may be read, and the client may be refused. -/
structure AllowsUserIds {σ : Type} (contract : Contract effects σ) (remote : Remote) (s : σ) :
    Prop where
  client : Allows contract s ⟨.getClient, .returned ()⟩
  refused : Allows contract s ⟨.getClient, .raised "" false rfl⟩
  lists : ∀ keyPrefix,
    Allows contract s ⟨.listObjects keyPrefix, .returned (remote.objects keyPrefix)⟩
  cached : ∀ username project,
    Allows contract s ⟨.cachedUserId username project, .returned (remote.userIds username project)⟩
  stores : ∀ username project uid,
    Allows contract s ⟨.cacheUserId username project uid, .returned ()⟩

theorem containment_allowsUserIds : AllowsUserIds (containment root remote) remote () where
  client := ⟨trivial, rfl⟩
  refused := ⟨trivial, rfl⟩
  lists _ := ⟨rfl, rfl⟩
  cached _ _ := ⟨rfl, rfl⟩
  stores _ _ _ := ⟨trivial, rfl⟩

section UserIds

variable {σ : Type} {contract : Contract effects σ} {s : σ}

theorem of_findUserId (allows : AllowsUserIds contract remote s) {username : String}
    {project : Option String} {post : Except Exc (Option String) → σ → Prop}
    (meets : (findUserId username project).Meets contract s post) :
    post (.ok none) s ∧ post (.ok ((remote.objects "users/").bind
      (userIdOf (userPattern username project)))) s := by
  have body := meets_bind.mp (meets_tryCatch.mp meets)
  constructor
  · have handled := (body.of_call (.raised "" false rfl) allows.refused.1).2
    rw [allows.refused.2] at handled
    exact handled
  · have listed := of_answer (meets_bind.mpr body) () allows.client
    have answered := of_answer listed (remote.objects "users/") (allows.lists "users/")
    cases objects : remote.objects "users/" with
    | none =>
        rw [objects] at answered
        exact answered
    | some listing =>
        rw [objects] at answered
        exact answered

theorem of_toolUserId (allows : AllowsUserIds contract remote s) {username project : String}
    {userId : Option String} {post : Except Exc String → σ → Prop}
    (meets : (toolUserId username project userId).Meets contract s post) :
    ∀ uid ∈ remote.possibleUserIds username project userId, post (.ok uid) s := by
  unfold toolUserId at meets
  unfold Remote.possibleUserIds
  cases supplied : given userId with
  | some uid =>
      rw [supplied] at meets
      simpa using meets
  | none =>
      rw [supplied] at meets
      have answered := of_answer meets
        (remote.userIds username ((given (some project)).getD "")) (allows.cached _ _)
      cases cached : remote.userIds username ((given (some project)).getD "") with
      | some uid =>
          rw [cached] at answered
          simpa using answered
      | none =>
          rw [cached] at answered
          have found := of_findUserId allows (meets_bind.mp answered)
          refine List.forall_mem_cons.mpr ⟨?_, List.forall_mem_singleton.mpr ?_⟩
          · exact of_answer found.1 () (allows.stores _ _ _)
          · exact of_answer found.2 () (allows.stores _ _ _)

end UserIds

theorem of_syncTool {username project toolName : String} {category userId : Option String}
    (meets : MeetsInside root remote
      (syncTool root username project toolName category userId) fun _ _ => True) :
    (Request.tool username project toolName category userId).StaysInside root remote := by
  intro uid possible objects listed
  have body := meets_tryCatch.mp (of_perform (of_perform meets true trivial) true trivial)
  have named := of_toolUserId containment_allowsUserIds
    (meets_bind.mp (of_perform body () trivial)) uid possible
  obtain ⟨cache, rest⟩ := of_loadEtags (meets_bind.mp named)
  have answered := of_perform rest
    (remote.objects (toolPrefix uid username project toolName category)) rfl
  rw [listed] at answered
  exact of_syncObjects (meets_bind.mp answered)

theorem of_fetch {path : String} {post : Except Exc Bool → Unit → Prop}
    (meets : MeetsInside root remote (fetch path) post) (fetched : Bool) :
    post (.ok fetched) () :=
  ((meets_tryCatch.mp meets).of_call (.returned fetched) trivial).2

/-- A file that is not fetched stops nothing, and one that is fetched is written. -/
theorem of_pullFile {path : String} {post : Except Exc Nat → Unit → Prop}
    (meets : MeetsInside root remote (pullFile root path) post) :
    (isToolFile path = true → FileStays root path) ∧ post (.ok 0) () := by
  unfold pullFile at meets
  split at meets
  case isFalse other => exact ⟨fun tool => absurd tool other, meets⟩
  case isTrue =>
      have pulled := meets_bind.mp meets
      refine ⟨fun _ => ?_, of_fetch pulled false⟩
      have made := of_makeDirs (meets_bind.mp (of_fetch pulled true))
      refine staysOn_iff.mpr ⟨made.1, ?_⟩
      have realistic : ¬ IsAncestor root (resolve (child root.path path)) →
          Realistic root remote ⟨.writeBytes (child root.path path) path, .returned ()⟩ :=
        fun below _ => below
      exact of_file (meets_bind.mp made.2) () rfl realistic

theorem of_pullFiles {paths : List String} {post : Except Exc Nat → Unit → Prop}
    (meets : MeetsInside root remote (pullFiles root paths) post) :
    ∀ path ∈ paths, isToolFile path = true → FileStays root path := by
  induction paths generalizing post with
  | nil => simp
  | cons path paths induction =>
      have pulled := of_pullFile (meets_bind.mp meets)
      exact List.forall_mem_cons.mpr ⟨pulled.1, induction (meets_bind.mp pulled.2)⟩

theorem of_syncToolFromSupabase {depth : Nat} {username project toolName : String}
    {category : Option String}
    (meets : MeetsInside root remote
      (syncToolFromSupabase root depth username project toolName category) fun _ _ => True) :
    (Request.toolFromSupabase depth username project toolName category).StaysInside
      root remote := by
  intro paths listed
  have body := meets_tryCatch.mp (of_perform meets true trivial)
  have prefixes := (yields_prefixesToTry containment_lists username project toolName
    category _).mp (meets_bind.mp body)
  have files := (yields_firstListed containment_lists depth _ _).mp (meets_bind.mp prefixes)
  rw [listed] at files
  exact of_pullFiles (meets_bind.mp files)

theorem of_program {request : Request}
    (meets : MeetsInside root remote (request.program root) fun _ _ => True) :
    request.StaysInside root remote := by
  cases request with
  | all username project cleanFirst => exact of_syncAll meets
  | tool username project toolName category userId => exact of_syncTool meets
  | toolFromSupabase depth username project toolName category =>
      exact of_syncToolFromSupabase meets

/-! ### Every run -/

/-- In every run of the request with these listings, everything that is written,
created or removed is inside the data tree, and the tree itself is not removed. -/
def StaysContained (root : DataRoot) (remote : Remote) (request : Request) : Prop :=
  ∀ environment : Environment effects,
    (∀ event ∈ (request.program root).trace environment, Realistic root remote event) →
      ∀ event ∈ (request.program root).trace environment, Contained root event

theorem sync_contained_iff (root : DataRoot) (remote : Remote) (request : Request) :
    StaysContained root remote request ↔ request.StaysInside root remote := by
  have possible : ∀ (s : Unit) (op : Op), ∃ outcome : Outcome effects op,
      (containment root remote).assume s ⟨op, outcome⟩ := fun _ op => realistic_possible op
  have runs : MeetsInside root remote (request.program root) (fun _ _ => True) ↔ _ :=
    meets_iff_runs possible
  constructor
  · intro contained
    apply of_program
    apply runs.mpr
    intro environment realistic
    exact eachStep_const_iff.mpr (contained environment (eachStep_const_iff.mp realistic))
  · intro stays environment realistic
    exact eachStep_const_iff.mp
      (runs.mp (keeps_program stays () trivial) environment (eachStep_const_iff.mpr realistic))

/-! ### A user name that climbs -/

def exampleRoot : DataRoot where
  path := ["srv", "data"]
  plain := by decide

def exampleRemote : Remote where
  objects _ := some [⟨"users/10/ann/demo/tools/general/add/add.py", "1"⟩]
  userIds _ _ := none
  folders _ := none

/-- Every path exists and no download succeeds. -/
def existing (remote : Remote) : Environment effects
  | _, .listObjects keyPrefix => .returned (remote.objects keyPrefix)
  | _, .cachedUserId username project => .returned (remote.userIds username project)
  | _, .listFolder folder => .returned (remote.folders folder)
  | _, .download _ _ | _, .writeBytes _ _ => .raised "" false rfl
  | _, .makeDir _ => .returned false
  | _, .rglob _ _ => .returned []
  | _, .readEtags _ => .returned fun _ => none
  | _, .reloadPlugins => .returned 0
  | _, .s3Available | _, .awsAccessKey | _, .supabaseConfigured | _, .fetchObject _
  | _, .pathExists _ | _, .isDir _ | _, .isFile _ => .returned true
  | _, .getClient | _, .endOfPages _ | _, .cacheUserId _ _ _ | _, .removeTree _ | _, .unlink _
  | _, .writeEtags _ _ | _, .replace _ _ => .returned ()

theorem realistic_existing (history : List SyncEvent) (op : Op) :
    Realistic root remote ⟨op, existing remote history op⟩ := by
  cases op with
  | makeDir path => simp [Realistic, touches, existing]
  | rglob base pattern => simp [Realistic, existing]
  | download _ _ | writeBytes _ _ => exact fun applied => by cases applied
  | _ => trivial

/-- A client that names its user `..` removes the directory of the application. -/
theorem application_removed :
    ¬ ∀ root remote request, StaysContained root remote request := by
  intro contained
  let program := (Request.all (some "..") none true).program exampleRoot
  have realistic : ∀ event ∈ program.trace (existing exampleRemote),
      Realistic exampleRoot exampleRemote event := forall_mem_trace realistic_existing program
  have event : (program.trace (existing exampleRemote))[7]? =
      some ⟨.removeTree ["srv", "data", ".."], .returned ()⟩ := rfl
  have removed := contained exampleRoot exampleRemote _ _ realistic _ (List.mem_of_getElem? event)
  have inside : ["srv", "data"] <+: ["srv"] := (removed ["srv"] List.mem_cons_self).1
  exact absurd inside (by decide)

end GrafuxMcp.CloudSync
