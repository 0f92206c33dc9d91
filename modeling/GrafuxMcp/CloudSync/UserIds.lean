import GrafuxMcp.CloudSync.StaysInside

/-! # User ids

`lookup_user_id` takes the id from the first key of the bucket that contains the names, or
a default, and keeps its answer for all later calls. -/

namespace GrafuxMcp.CloudSync

open GrafuxMcp PosixPath Program

/-- `self._uid_cache`. -/
abbrev UidCache := String → String → Option String

/-- A call of `lookup_user_id` and what the bucket answers it. -/
structure Lookup where
  username : String
  project : Option String
  /-- The objects of the pages up to the one that fails; `none` if the first one does. -/
  fetched : Option (List S3Object)
  /-- No page fails. -/
  complete : Bool

namespace Lookup

variable (lookup : Lookup)

/-- `cache_key`. -/
def key : String × String := (lookup.username, (given lookup.project).getD "")

def pattern : String := userPattern lookup.username lookup.project

def listed : List S3Object := lookup.fetched.getD []

def program : Sync String := lookupUserId lookup.username lookup.project

/-- `users/{id}/{username}/{project}/...`, without the project if none is given. -/
def IsOwned (id : String) (object : S3Object) : Prop :=
  '/' ∉ id.toList ∧ s!"users/{id}/{lookup.pattern}".toList <+: object.key.toList

/-- A key of the user with this id is listed. -/
def Owns (id : String) : Prop :=
  ∃ object ∈ lookup.listed, lookup.IsOwned id object

/-- The key contains the names and lies under this id. -/
def Matches (id : String) (object : S3Object) : Prop :=
  contains object.key lookup.pattern = true ∧ ∃ rest, split object.key = "users" :: id :: rest

/-- The first key that contains the names lies under this id. -/
def FirstMatch (id : String) : Prop :=
  ∃ before object after, lookup.listed = before ++ object :: after ∧
    lookup.Matches id object ∧ ∀ earlier ∈ before, ∀ other, ¬ lookup.Matches other earlier

def NoMatch : Prop :=
  ∀ object ∈ lookup.listed, ∀ id, ¬ lookup.Matches id object

/-- Where a key of the user is listed, the answer is an id with such a key. -/
def NamesOwner (answer : Except Exc String) : Prop :=
  lookup.complete = true → (∃ id, lookup.Owns id) → ∃ id, answer = .ok id ∧ lookup.Owns id

end Lookup

/-! ### Sequences of calls -/

def UidCache.observe (cache : UidCache) : SyncEvent → UidCache
  | ⟨.cacheUserId username project uid, _⟩ => fun other otherProject =>
      if (other, otherProject) = (username, project) then some uid
      else cache other otherProject
  | _ => cache

/-- The cache answers as it is, and the bucket as its listing says. -/
def Lookup.Answers (lookup : Lookup) (cache : UidCache) : SyncEvent → Prop
  | ⟨.cachedUserId username project, outcome⟩ => outcome = .returned (cache username project)
  | ⟨.getClient, outcome⟩ => outcome.exception? ≠ none → lookup.fetched = none
  | ⟨.listObjects _, .returned objects⟩ => objects = lookup.fetched
  | ⟨.listObjects _, .raised _ _ _⟩ => lookup.fetched = none
  | _ => True

structure Turn where
  lookup : Lookup
  environment : Environment effects

namespace Turn

def answer (turn : Turn) : Except Exc String := turn.lookup.program.result turn.environment

def next (cache : UidCache) (turn : Turn) : UidCache :=
  (turn.lookup.program.trace turn.environment).foldl UidCache.observe cache

def Fits (cache : UidCache) (turn : Turn) : Prop :=
  EachStep UidCache.observe turn.lookup.Answers cache
    (turn.lookup.program.trace turn.environment)

end Turn

/-- The calls fit a syncer that has answered none before. -/
def FittingTurns (turns : List Turn) : Prop :=
  EachStep Turn.next Turn.Fits (fun _ _ => none) turns

/-! ### One call -/

/-- What a call finds. -/
def Lookup.found (lookup : Lookup) : String :=
  (userIdOf lookup.pattern lookup.listed).getD "10"

def bucket (lookup : Lookup) : Contract effects UidCache where
  observe := UidCache.observe
  assume := lookup.Answers
  guarantee _ _ := True

section Call

variable {lookup : Lookup} {cache : UidCache}

theorem ends_findUserId :
    Ends (bucket lookup) cache (findUserId lookup.username lookup.project)
      (.ok (userIdOf lookup.pattern lookup.listed)) cache := by
  have unlisted : lookup.fetched = none → userIdOf lookup.pattern lookup.listed = none := by
    intro missing
    rw [Lookup.listed, missing]
    rfl
  refine meets_tryCatch.mpr (meets_bind.mpr (meets_call ?_))
  intro client assumed
  refine ⟨trivial, ?_⟩
  cases client with
  | raised exc applied possible =>
      have missing : lookup.fetched = none := assumed (by simp)
      exact ⟨congrArg Except.ok (unlisted missing).symm, rfl⟩
  | returned _ =>
      refine meets_bind.mpr (meets_call ?_)
      intro pages assumed
      refine ⟨trivial, ?_⟩
      cases pages with
      | raised exc applied possible =>
          exact ⟨congrArg Except.ok (unlisted assumed).symm, rfl⟩
      | returned objects =>
          have fetched : objects = lookup.fetched := assumed
          cases objects with
          | none => exact ⟨congrArg Except.ok (unlisted fetched.symm).symm, rfl⟩
          | some objects =>
              have listed : lookup.listed = objects := by rw [Lookup.listed, ← fetched]; rfl
              rw [listed]
              exact ⟨rfl, rfl⟩

/-- The cached id, or the one that is found and cached. -/
theorem ends_lookupUserId :
    Ends (bucket lookup) cache lookup.program
      (.ok ((cache lookup.key.1 lookup.key.2).getD lookup.found))
      (fun username project => (cache username project).or
        (if (username, project) = lookup.key then some lookup.found else none)) := by
  have asked : Ends (bucket lookup) cache
      (perform (.cachedUserId lookup.username ((given lookup.project).getD "")))
      (.ok (cache lookup.key.1 lookup.key.2)) cache := by
    refine ends_call (fun _ _ => trivial) ?_
    intro outcome assumed
    have answered : outcome = .returned (cache lookup.key.1 lookup.key.2) := assumed
    rw [answered]
    exact ⟨rfl, rfl⟩
  refine asked.bind ?_
  cases known : cache lookup.key.1 lookup.key.2 with
  | some uid =>
      have same : (fun username project => (cache username project).or
          (if (username, project) = lookup.key then some lookup.found else none)) = cache := by
        funext username project
        split
        case isTrue equal =>
          rw [← equal] at known
          rw [known]
          rfl
        case isFalse => exact Option.or_none
      rw [same]
      exact ends_pure uid
  | none =>
      refine ends_findUserId.bind ?_
      have cached : Ends (bucket lookup) cache
          (perform (.cacheUserId lookup.username ((given lookup.project).getD "") lookup.found))
          (.ok ()) (fun username project => (cache username project).or
            (if (username, project) = lookup.key then some lookup.found else none)) := by
        refine ends_call (fun _ _ => trivial) ?_
        intro outcome _
        constructor
        · cases outcome with
          | returned _ => rfl
          | raised _ _ possible => cases possible
        · funext username project
          simp only [bucket, UidCache.observe]
          by_cases equal : (username, project) = lookup.key
          · have missing : cache username project = none := by
              rw [← equal] at known
              exact known
            rw [if_pos equal, missing]
            exact if_pos equal
          · rw [if_neg equal, Option.or_none]
            exact if_neg equal
      exact cached.bind (ends_pure _)

end Call

namespace Turn

variable {turn : Turn} {cache : UidCache}

theorem answer_of_fits (fits : turn.Fits cache) :
    turn.answer = .ok ((cache turn.lookup.key.1 turn.lookup.key.2).getD turn.lookup.found) :=
  (ends_lookupUserId.sound turn.environment fits).2.1

theorem next_of_fits (fits : turn.Fits cache) (username project : String) :
    turn.next cache username project = (cache username project).or
      (if (username, project) = turn.lookup.key then some turn.lookup.found else none) :=
  congrFun (congrFun (ends_lookupUserId.sound turn.environment fits).2.2 username) project

end Turn

/-! ### All calls -/

/-- The call that has decided for its names: the first one. -/
def decider (earlier : List Turn) (turn : Turn) : Lookup :=
  (((earlier ++ [turn]).map Turn.lookup).find? fun other => other.key = turn.lookup.key).getD
    turn.lookup

/-- The first call for some names is cached. -/
theorem cached_run {turns : List Turn} {cache : UidCache}
    (fits : EachStep Turn.next Turn.Fits cache turns) (username project : String) :
    turns.foldl Turn.next cache username project = (cache username project).or
      (((turns.map Turn.lookup).find? fun other => other.key = (username, project)).map
        Lookup.found) := by
  induction turns generalizing cache with
  | nil => exact Option.or_none.symm
  | cons turn turns induction =>
      rw [eachStep_cons] at fits
      rw [List.foldl_cons, induction fits.2, Turn.next_of_fits fits.1, Option.or_assoc,
        List.map_cons, List.find?_cons]
      by_cases same : turn.lookup.key = (username, project)
      · simp [same]
      · simp [same, Ne.symm same]

/-- Every call answers what the first one for its names has found. -/
theorem answer_eq {earlier : List Turn} {turn : Turn} (fits : FittingTurns (earlier ++ [turn])) :
    turn.answer = .ok (decider earlier turn).found := by
  have before : EachStep Turn.next Turn.Fits (fun _ _ => none) earlier := by
    intro front event back equal
    exact fits front event (back ++ [turn]) (by rw [equal]; simp)
  have now : turn.Fits (earlier.foldl Turn.next fun _ _ => none) := fits earlier turn [] rfl
  rw [Turn.answer_of_fits now, cached_run before, Option.none_or]
  rw [decider, List.map_append, List.find?_append]
  cases ((earlier.map Turn.lookup).find? fun other => other.key = turn.lookup.key) with
  | none => simp
  | some first => simp

namespace Lookup

variable {lookup : Lookup} {id : String}

/-- The id that the loop takes from an object. -/
def idIn (lookup : Lookup) (object : S3Object) : Option String :=
  if contains object.key lookup.pattern then
    match split object.key with
    | "users" :: uid :: _ => some uid
    | _ => none
  else none

theorem idIn_eq_some_iff {object : S3Object} :
    lookup.idIn object = some id ↔ lookup.Matches id object := by
  rw [idIn, Matches]
  split
  case isTrue named =>
    split
    case h_1 uid rest parts => simp [named, parts]
    case h_2 others =>
      simp only [named, true_and, reduceCtorEq, false_iff, not_exists]
      exact fun rest parts => others id rest parts
  case isFalse unnamed => simp [unnamed]

theorem idIn_eq_none_iff {object : S3Object} :
    lookup.idIn object = none ↔ ∀ id, ¬ lookup.Matches id object := by
  simp only [← idIn_eq_some_iff, Option.eq_none_iff_forall_ne_some, ne_eq]

theorem userIdOf_eq_some_iff :
    userIdOf lookup.pattern lookup.listed = some id ↔ lookup.FirstMatch id := by
  have loop : userIdOf lookup.pattern lookup.listed = lookup.listed.findSome? lookup.idIn := rfl
  rw [loop, List.findSome?_eq_some_iff]
  simp only [FirstMatch, idIn_eq_some_iff, idIn_eq_none_iff]

theorem userIdOf_eq_none_iff :
    userIdOf lookup.pattern lookup.listed = none ↔ lookup.NoMatch := by
  have loop : userIdOf lookup.pattern lookup.listed = lookup.listed.findSome? lookup.idIn := rfl
  rw [loop, List.findSome?_eq_none_iff]
  simp only [NoMatch, idIn_eq_none_iff]

/-- What is found is the id of the first match, or the default. -/
theorem found_eq_iff : lookup.found = id ↔ lookup.FirstMatch id ∨ lookup.NoMatch ∧ id = "10" := by
  rw [found, ← userIdOf_eq_some_iff, ← userIdOf_eq_none_iff]
  cases userIdOf lookup.pattern lookup.listed with
  | none => simp [eq_comm]
  | some uid => simp

end Lookup

/-- The bucket and the cache answer a call. -/
def answeringBucket (lookup : Lookup) (cache : UidCache) : Environment effects
  | history, .cachedUserId username project =>
      .returned (history.foldl UidCache.observe cache username project)
  | _, .listObjects _ => .returned lookup.fetched
  | history, op => existing exampleRemote history op

theorem fits_answeringBucket (lookup : Lookup) (cache : UidCache) :
    Turn.Fits cache ⟨lookup, answeringBucket lookup cache⟩ := by
  have each : ∀ history op, lookup.Answers (history.foldl UidCache.observe cache)
      ⟨op, answeringBucket lookup cache history op⟩ := by
    intro history op
    cases op with
    | cachedUserId username project => rfl
    | listObjects keyPrefix => rfl
    | getClient => exact fun raised => absurd rfl raised
    | _ => trivial
  exact eachStep_trace each _

theorem fitting_single (lookup : Lookup) :
    FittingTurns [⟨lookup, answeringBucket lookup fun _ _ => none⟩] :=
  (eachStep_cons _ _).mpr ⟨fits_answeringBucket lookup _, eachStep_nil _⟩

/-- A call names an owner just where the id that the first call for its names has found is
the id of a key that is listed now. -/
theorem names_owner_iff {earlier : List Turn} {turn : Turn}
    (fits : FittingTurns (earlier ++ [turn])) :
    turn.lookup.NamesOwner turn.answer ↔
      (turn.lookup.complete = true → (∃ id, turn.lookup.Owns id) →
        ∃ id, ((decider earlier turn).FirstMatch id ∨ (decider earlier turn).NoMatch ∧ id = "10") ∧
          turn.lookup.Owns id) := by
  have answered := answer_eq fits
  rw [Lookup.NamesOwner, answered]
  simp only [Except.ok.injEq, Lookup.found_eq_iff]

/-- A tool of Ann, behind one of Joann. -/
def annTool : S3Object where
  key := "users/7/ann/demo/tools/add.py"

def joannTool : S3Object where
  key := "users/3/joann/demo/tools/add.py"

def annLookup (listed : List S3Object) : Lookup where
  username := "ann"
  project := some "demo"
  fetched := some listed
  complete := true

def annTurn (listed : List S3Object) : Turn :=
  ⟨annLookup listed, answeringBucket (annLookup listed) fun _ _ => none⟩

theorem owns_ann {listed : List S3Object} (member : annTool ∈ listed) :
    (annLookup listed).Owns "7" := by
  have inside : "users/7/ann/demo/".toList <+: annTool.key.toList := by decide
  exact ⟨annTool, member, by decide, inside⟩

theorem fitting_ann (listed : List S3Object) : FittingTurns ([] ++ [annTurn listed]) :=
  fitting_single (annLookup listed)

theorem names_owner_ann : (annTurn [annTool]).lookup.NamesOwner (annTurn [annTool]).answer := by
  have owns : (annTurn [annTool]).lookup.Owns "7" := owns_ann List.mem_cons_self
  have isFirst : (decider [] (annTurn [annTool])).FirstMatch "7" := by
    refine ⟨[], annTool, [], rfl, ⟨by decide, ["ann", "demo", "tools", "add.py"], by decide⟩, ?_⟩
    intro earlier member
    cases member
  exact (names_owner_iff (fitting_ann [annTool])).mpr fun _ _ => ⟨"7", Or.inl isFirst, owns⟩

/-- The id of Joann is returned for Ann. -/
theorem joann_named : ¬ ∀ earlier turn, FittingTurns (earlier ++ [turn]) →
    turn.lookup.NamesOwner turn.answer := by
  intro claimed
  have fits := fitting_ann [joannTool, annTool]
  have owns : (annLookup [joannTool, annTool]).Owns "7" := owns_ann (by simp)
  rcases claimed [] (annTurn [joannTool, annTool]) fits rfl ⟨"7", owns⟩ with ⟨id, answered, wrong⟩
  have returned : (annTurn [joannTool, annTool]).answer = .ok "3" := by
    rw [answer_eq fits]
    decide
  rw [returned] at answered
  cases answered
  rcases wrong with ⟨object, member, -, inside⟩
  have apart : ∀ object ∈ [joannTool, annTool],
      ¬ "users/3/ann/demo/".toList <+: object.key.toList := by decide
  exact apart object member inside

end GrafuxMcp.CloudSync
