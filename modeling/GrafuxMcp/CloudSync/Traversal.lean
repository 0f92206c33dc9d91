import GrafuxMcp.CloudSync.CloudSyncer
import GrafuxMcp.Foundation.AllRuns

/-! # The parts of a sync

A part of the syncer keeps an invariant that its operations keep. A part that meets
a contract goes on after each outcome that the contract allows. -/

namespace GrafuxMcp.CloudSync

open GrafuxMcp PosixPath Program

variable {σ : Type} {contract : Contract effects σ} {inv : σ → Prop} {root : DataRoot}

/-! ### Directories and the ETag cache -/

theorem keeps_makeDirs {path : List String}
    (makes : ∀ front ∈ path.inits, Keeps contract inv (perform (.makeDir front))) :
    Keeps contract inv (makeDirs path) :=
  keeps_forM fun front member => keeps_bind (makes front member) fun _ => keeps_pure _

theorem learns_etagPath (makes : Keeps contract inv (perform (.makeDir root.path))) :
    Learns contract inv (etagPath root) fun path => path = root.path ++ [etagFile] :=
  makes.learns.bind fun _ _ => learns_pure rfl

theorem keeps_loadEtags (makes : Keeps contract inv (perform (.makeDir root.path)))
    (looks : ∀ path, Keeps contract inv (perform (.pathExists path)))
    (reads : ∀ path, Keeps contract inv (perform (.readEtags path))) :
    Keeps contract inv (loadEtags root) := by
  apply keeps_bind_of (learns_etagPath makes)
  intro path _
  apply keeps_bind (looks path)
  intro present
  cases present with
  | false => exact keeps_pure _
  | true =>
      apply keeps_tryCatch _ fun _ => keeps_pure _
      exact keeps_bind_of (learns_etagPath makes) fun path _ => reads path

theorem keeps_saveEtags (makes : Keeps contract inv (perform (.makeDir root.path)))
    (writes : ∀ cache,
      Keeps contract inv (perform (.writeEtags (root.path ++ [etagTemporaryFile]) cache)))
    (replaces : Keeps contract inv
      (perform (.replace (root.path ++ [etagTemporaryFile]) (root.path ++ [etagFile]))))
    (cache : EtagCache) : Keeps contract inv (saveEtags root cache) := by
  apply keeps_bind_of (learns_etagPath makes)
  rintro path rfl
  rw [List.dropLast_concat]
  apply keeps_tryCatch _ fun _ => keeps_pure _
  apply keeps_bind (writes cache)
  intro _
  apply keeps_bind_of (learns_etagPath makes)
  rintro path rfl
  exact replaces

/-! ### Downloads -/

theorem keeps_syncObject {tally : Tally} {object : S3Object} {key : String}
    (looks : ∀ path, Keeps contract inv (perform (.pathExists path)))
    (makes : ∀ front ∈ (child root.path key).dropLast.inits,
      Keeps contract inv (perform (.makeDir front)))
    (downloads : Keeps contract inv (perform (.download object.key (child root.path key)))) :
    Keeps contract inv (syncObject root tally object key) := by
  apply keeps_bind
  · unfold isCurrent
    split
    · exact looks _
    · exact keeps_pure _
  · intro current
    cases current with
    | true => exact keeps_pure _
    | false =>
        apply keeps_bind (keeps_makeDirs makes)
        intro _
        apply keeps_tryCatch _ fun _ => keeps_pure _
        exact keeps_bind downloads fun _ => keeps_pure _

theorem keeps_syncObjects {localKey : S3Object → Option String} {objects : List S3Object}
    (each : ∀ tally, ∀ object ∈ objects, ∀ key, localKey object = some key →
      Keeps contract inv (syncObject root tally object key)) (tally : Tally) :
    Keeps contract inv (syncObjects root localKey tally objects) := by
  induction objects generalizing tally with
  | nil => exact keeps_pure _
  | cons object objects induction =>
      have later := induction fun tally other member =>
        each tally other (List.mem_cons_of_mem _ member)
      unfold syncObjects
      cases named : localKey object with
      | none => exact later tally
      | some key => exact keeps_bind (each tally object List.mem_cons_self key named) later

/-! ### Orphans -/

theorem keeps_removeOrphan {s3Files : List String} {location : Location}
    (looks : Keeps contract inv (perform (.isFile location)))
    (unlinks : nameOf root location ∉ s3Files →
      Keeps contract inv (perform (.unlink location))) :
    Keeps contract inv (removeOrphan root s3Files location) := by
  apply keeps_bind looks
  intro isFile
  cases isFile with
  | false => exact keeps_pure _
  | true =>
      apply keeps_tryCatch _ fun _ => keeps_pure _
      split
      · exact keeps_pure _
      case isFalse unnamed => exact keeps_bind (unlinks unnamed) fun _ => keeps_pure _

theorem keeps_removeEach {remove : Location → Sync Nat} {locations : List Location}
    (each : ∀ location ∈ locations, Keeps contract inv (remove location)) :
    Keeps contract inv (removeEach remove locations) := by
  induction locations with
  | nil => exact keeps_pure _
  | cons location locations induction =>
      apply keeps_bind (each location List.mem_cons_self)
      intro _
      apply keeps_bind _ fun _ => keeps_pure _
      exact induction fun other member => each other (List.mem_cons_of_mem _ member)

theorem keeps_removeOrphans {s3Files : List String}
    {known : Location → String → Location → Prop}
    (finds : ∀ base pattern, Learns contract inv (perform (.rglob base pattern)) fun found =>
      ∀ location ∈ found, known base pattern location)
    (looks : ∀ directory, Keeps contract inv (perform (.isDir directory)))
    (each : ∀ directory location, known root.path "tools" directory →
      known directory "*" location → Keeps contract inv (removeOrphan root s3Files location)) :
    Keeps contract inv (removeOrphans root s3Files) := by
  apply keeps_bind_of (finds root.path "tools")
  intro directories below
  apply keeps_removeEach
  intro directory member
  apply keeps_bind (looks directory)
  intro isDir
  cases isDir with
  | false => exact keeps_pure _
  | true =>
      apply keeps_bind_of (finds directory "*")
      intro locations within
      apply keeps_removeEach
      intro location found
      exact each directory location (below directory member) (within location found)

/-! ### Listings and the end of a sync -/

theorem learns_listAllObjects {keyPrefix : String} {known : Option (List S3Object) → Prop}
    (lists : Learns contract inv (perform (.listObjects keyPrefix)) known)
    (ends : Keeps contract inv (perform (.endOfPages keyPrefix))) :
    Learns contract inv (listAllObjects keyPrefix) fun objects => known (some objects) := by
  apply lists.bind
  intro answer known
  cases answer with
  | none => exact learns_throw _
  | some objects => exact ends.learns.bind fun _ _ => learns_pure known

theorem keeps_reloadIf (reloads : Keeps contract inv (perform .reloadPlugins)) (changed : Bool) :
    Keeps contract inv (reloadIf changed) := by
  cases changed with
  | true => exact reloads
  | false => exact keeps_pure _

/-! ### Chosen outcomes -/

section Chosen

variable {s : σ} {α : Type}

/-- The event may come and changes nothing. -/
def Allows (contract : Contract effects σ) (s : σ) (event : SyncEvent) : Prop :=
  contract.assume s event ∧ contract.observe s event = s

theorem of_answer {op : Op} {next : op.Answer → Sync α} {post : Except Exc α → σ → Prop}
    (meets : (perform op >>= next).Meets contract s post) (answer : op.Answer)
    (allows : Allows contract s ⟨op, .returned answer⟩) :
    (next answer).Meets contract s post := by
  have rest := ((meets_bind.mp meets).of_call (.returned answer) allows.1).2
  rw [allows.2] at rest
  exact rest

theorem of_existingFronts {fronts : List (List String)} {post : Except Exc PUnit → σ → Prop}
    (allows : ∀ front, Allows contract s ⟨.makeDir front, .returned false⟩)
    (meets : (fronts.forM fun front => do let _ ← perform (.makeDir front)).Meets contract s
      post) : post (.ok ⟨⟩) s := by
  induction fronts with
  | nil => exact meets
  | cons front fronts induction =>
      simp only [List.forM] at meets
      exact induction (of_answer (meets_bind.mp meets) false (allows front))

/-- The directories on the way exist. -/
theorem of_existingDirs {path : List String} {post : Except Exc PUnit → σ → Prop}
    (allows : ∀ front, Allows contract s ⟨.makeDir front, .returned false⟩)
    (meets : (makeDirs path).Meets contract s post) : post (.ok ⟨⟩) s :=
  of_existingFronts allows meets

theorem of_notCurrent {cache : EtagCache} {object : S3Object} {path : List String}
    {post : Except Exc Bool → σ → Prop}
    (allows : Allows contract s ⟨.pathExists path, .returned false⟩)
    (meets : (isCurrent cache object path).Meets contract s post) : post (.ok false) s := by
  unfold isCurrent at meets
  split at meets
  · have rest := (meets.of_call (.returned false) allows.1).2
    rw [allows.2] at rest
    exact rest
  · exact meets

/-- No ETag cache was saved. -/
theorem of_missingEtags {post : Except Exc EtagCache → σ → Prop}
    (makes : Allows contract s ⟨.makeDir root.path, .returned false⟩)
    (misses : ∀ path, Allows contract s ⟨.pathExists path, .returned false⟩)
    (meets : (loadEtags root).Meets contract s post) : post (.ok fun _ => none) s :=
  of_answer (of_answer (meets_bind.mp meets) false makes) false (misses _)

end Chosen

end GrafuxMcp.CloudSync
