import GrafuxMcp.Foundation.KeyedRows
import GrafuxMcp.Foundation.SharedStore
import GrafuxMcp.Integrations.Sandboxes
import Mathlib.Data.List.MinMax

/-! # The orgs that share the sandboxes

The executions of several orgs take turns at the sandbox service and at `sandbox_sessions`. Each
keeps to the sandboxes that were made for its org, so code finds what its own org has left. -/

namespace GrafuxMcp.Sandboxes

open GrafuxMcp Confinement

/-! ### The service -/

/-- What a sandbox has run. -/
inductive Ran
  | cell (code : String)
  | process (cmd : String)

/-- The table of sessions, and what each open sandbox has run. -/
structure Service where
  sessions : List SandboxSession := []
  ran : String → Option (List Ran) := fun _ => none

/-- What the service and the interpreter in a sandbox decide. -/
structure Choice where
  now : Nat := 0
  /-- `uuid.uuid4()` of a row. -/
  newId : Uuid
  /-- The id of a new sandbox. -/
  sandboxId : String
  raises : Option Exc := none
  /-- An operation that raises has been applied all the same. -/
  applied : Bool := false
  hasApiKey : Bool := true
  repr : Value → String := fun _ => ""
  cell : List Ran → Cell
  process : List Ran → Process

def isActive (orgId : Uuid) (now : Nat) (session : SandboxSession) : Bool :=
  session.orgId = orgId && session.status = "active" && now < session.expiresAt

def newSession (orgId : Uuid) (sandboxId : String) (lifetime : Nat) (choice : Choice) :
    SandboxSession where
  id := choice.newId
  orgId := orgId
  sandboxId := sandboxId
  status := "active"
  createdAt := choice.now
  expiresAt := choice.now + lifetime

def SandboxSession.expired (session : SandboxSession) : SandboxSession :=
  { session with status := "expired" }

namespace Service

variable (s : Service) (choice : Choice)

/-- A new sandbox has an id of its own. -/
def create : Option (Sandbox × Service) :=
  match s.ran choice.sandboxId with
  | some _ => none
  | none => some (⟨choice.sandboxId⟩,
      { s with ran := Function.update s.ran choice.sandboxId (some []) })

/-- Something runs in an open sandbox. -/
def runIn (sandbox : Sandbox) (next : Ran) : Option (List Ran × Service) :=
  (s.ran sandbox.id).map fun before =>
    (before, { s with ran := Function.update s.ran sandbox.id (some (before ++ [next])) })

/-- The answer to an operation that does not raise, if the service can give one. -/
def answer : (op : Op) → Option (op.Answer × Service)
  | .hasApiKey => some (choice.hasApiKey, s)
  | .createEphemeral | .create _ _ | .createBasic _ => s.create choice
  | .activeSession orgId =>
      some ((s.sessions.filter (isActive orgId choice.now)).argmax (·.createdAt), s)
  | .reconnect sandboxId => (s.ran sandboxId).map fun _ => (⟨sandboxId⟩, s)
  | .expireSession session => some ((), { s with
      sessions := updateWhere (fun row => row.id = session.id) SandboxSession.expired s.sessions })
  | .addSession orgId sandboxId lifetime => some ((), { s with
      sessions := s.sessions ++ [newSession orgId sandboxId lifetime choice] })
  | .execCell sandbox code =>
      (s.runIn sandbox (.cell code)).map fun found => (choice.cell found.1, found.2)
  | .runProcess sandbox cmd =>
      (s.runIn sandbox (.process cmd)).map fun found => (choice.process found.1, found.2)
  | .close sandbox => some ((), { s with ran := Function.update s.ran sandbox.id none })
  | .publishLog _ _ _ => some ((), s)
  | .repr value => some (choice.repr value, s)

end Service

def answering : Answering effects Service Choice := fun s op choice =>
  match choice.raises with
  | none => (s.answer choice op).map fun found => (.ok found.1, found.2)
  | some exc =>
      if op.mayRaise exc then
        if choice.applied then (s.answer choice op).map fun found => (.error exc, found.2)
        else some (.error exc, s)
      else none

/-! ### The part of an org -/

/-- The orgs that ids were made for; an execution need not name one. -/
structure Owners where
  sandbox : String → Option Uuid
  session : Uuid → Option Uuid

section Orgs

variable (owners : Owners) (org : Option Uuid)

def Owners.Owns (row : SandboxSession) : Prop :=
  owners.sandbox row.sandboxId = some row.orgId ∧ owners.session row.id = some row.orgId

/-- Every session is of a sandbox that was made for its org. -/
def Service.Consistent (s : Service) : Prop :=
  ∀ row ∈ s.sessions, owners.Owns row

def Service.view (s : Service) : List SandboxSession × (String → Option (List Ran)) :=
  (s.sessions.filter fun row => some row.orgId = org,
    fun id => if owners.sandbox id = org then s.ran id else none)

def Confined : Op → Prop
  | .activeSession orgId => some orgId = org
  | .reconnect sandboxId => owners.sandbox sandboxId = org
  | .expireSession session => owners.session session.id = org
  | .addSession orgId sandboxId _ => some orgId = org ∧ owners.sandbox sandboxId = org
  | .execCell sandbox _ | .runProcess sandbox _ | .close sandbox => owners.sandbox sandbox.id = org
  | _ => True

def Known : (op : Op) → op.Answer → Prop
  | .createEphemeral, sandbox | .create _ _, sandbox | .createBasic _, sandbox
  | .reconnect _, sandbox => owners.sandbox sandbox.id = org
  | .activeSession _, found => ∀ session ∈ found,
      owners.sandbox session.sandboxId = org ∧ owners.session session.id = org
  | _, _ => True

/-- Ids that are made for different orgs differ. -/
def Chosen (choice : Choice) : Prop :=
  owners.sandbox choice.sandboxId = org ∧ owners.session choice.newId = org

end Orgs

section Confining

variable {owners : Owners} {org other : Option Uuid} {s t s' : Service} {choice : Choice} {op : Op}

theorem view_eq_iff : s.view owners org = t.view owners org ↔
    s.sessions.filter (fun row => some row.orgId = org) =
      t.sessions.filter (fun row => some row.orgId = org) ∧
    ∀ id, owners.sandbox id = org → s.ran id = t.ran id := by
  rw [Service.view, Service.view, Prod.mk.injEq]
  refine and_congr Iff.rfl ?_
  constructor
  · intro same id mine
    simpa [mine] using congrFun same id
  · intro same
    funext id
    split
    case isTrue mine => exact same id mine
    case isFalse => rfl

/-- What one sandbox has run changes. -/
theorem view_ran {id : String} {now : Option (List Ran)}
    (same : s.view owners org = t.view owners org) :
    Service.view owners org { s with ran := Function.update s.ran id now } =
      Service.view owners org { t with ran := Function.update t.ran id now } := by
  have parts := view_eq_iff.mp same
  refine view_eq_iff.mpr ⟨parts.1, fun id' mine => ?_⟩
  by_cases equal : id' = id
  · subst id'
    simp
  · simp [equal, parts.2 id' mine]

theorem view_ran_other {id : String} {now : Option (List Ran)}
    (mine : owners.sandbox id = org) (different : other ≠ org) :
    Service.view owners other { s with ran := Function.update s.ran id now } =
      s.view owners other := by
  refine view_eq_iff.mpr ⟨rfl, fun id' theirs => Function.update_of_ne ?_ _ _⟩
  rintro rfl
  exact different (theirs.symm.trans mine)

/-! ### What operations keep -/

theorem kept_create {sandbox : Sandbox} (consistent : s.Consistent owners)
    (chosen : Chosen owners org choice) (created : s.create choice = some (sandbox, s')) :
    s'.Consistent owners ∧ owners.sandbox sandbox.id = org := by
  unfold Service.create at created
  split at created
  · cases created
  · cases created
    exact ⟨consistent, chosen.1⟩

theorem kept_runIn {sandbox : Sandbox} {next : Ran} {before : List Ran}
    (consistent : s.Consistent owners) (ran : s.runIn sandbox next = some (before, s')) :
    s'.Consistent owners := by
  rcases Option.map_eq_some_iff.mp ran with ⟨_, _, equal⟩
  cases equal
  exact consistent

theorem kept_answer {answer : op.Answer} (consistent : s.Consistent owners)
    (confined : Confined owners org op) (chosen : Chosen owners org choice)
    (answered : s.answer choice op = some (answer, s')) :
    s'.Consistent owners ∧ Known owners org op answer := by
  cases op with
  | createEphemeral | create _ _ | createBasic _ => exact kept_create consistent chosen answered
  | hasApiKey | publishLog _ _ _ | repr _ | close _ =>
      cases answered
      exact ⟨consistent, trivial⟩
  | activeSession orgId =>
      cases answered
      refine ⟨consistent, fun session found => ?_⟩
      have parts := List.mem_filter.mp (List.argmax_mem found)
      have owns := consistent session parts.1
      have named : session.orgId = orgId := by
        have active := parts.2
        simp only [isActive, Bool.and_eq_true, decide_eq_true_eq] at active
        exact active.1.1
      rw [Owners.Owns, named, confined] at owns
      exact owns
  | reconnect sandboxId =>
      rcases Option.map_eq_some_iff.mp answered with ⟨_, _, equal⟩
      cases equal
      exact ⟨consistent, confined⟩
  | expireSession session =>
      cases answered
      refine ⟨fun row member => ?_, trivial⟩
      rcases mem_updateWhere member with ⟨old, inside, ⟨_, rfl⟩ | ⟨_, rfl⟩⟩
      · exact consistent old inside
      · exact consistent row inside
  | addSession orgId sandboxId lifetime =>
      cases answered
      refine ⟨fun row member => ?_, trivial⟩
      rcases List.mem_append.mp member with old | added
      · exact consistent row old
      · rw [List.mem_singleton.mp added]
        have named : some orgId = org := confined.1
        exact ⟨confined.2.trans named.symm, chosen.2.trans named.symm⟩
  | execCell sandbox code | runProcess sandbox code =>
      rcases Option.map_eq_some_iff.mp answered with ⟨⟨before, after⟩, ran, equal⟩
      cases equal
      exact ⟨kept_runIn consistent ran, trivial⟩

/-! ### What others see of an operation -/

theorem view_create_other {sandbox : Sandbox} (chosen : Chosen owners org choice)
    (different : other ≠ org) (created : s.create choice = some (sandbox, s')) :
    s'.view owners other = s.view owners other := by
  unfold Service.create at created
  split at created
  · cases created
  · cases created
    exact view_ran_other chosen.1 different

theorem view_runIn_other {sandbox : Sandbox} {next : Ran} {before : List Ran}
    (mine : owners.sandbox sandbox.id = org) (different : other ≠ org)
    (ran : s.runIn sandbox next = some (before, s')) :
    s'.view owners other = s.view owners other := by
  rcases Option.map_eq_some_iff.mp ran with ⟨_, _, equal⟩
  cases equal
  exact view_ran_other mine different

theorem view_answer_other {answer : op.Answer} (consistent : s.Consistent owners)
    (confined : Confined owners org op) (chosen : Chosen owners org choice)
    (different : other ≠ org) (answered : s.answer choice op = some (answer, s')) :
    s'.view owners other = s.view owners other := by
  cases op with
  | createEphemeral | create _ _ | createBasic _ =>
      exact view_create_other chosen different answered
  | hasApiKey | publishLog _ _ _ | repr _ | activeSession _ =>
      cases answered
      rfl
  | reconnect sandboxId =>
      rcases Option.map_eq_some_iff.mp answered with ⟨_, _, equal⟩
      cases equal
      rfl
  | expireSession session =>
      cases answered
      refine view_eq_iff.mpr ⟨?_, fun _ _ => rfl⟩
      have spared : ∀ row : SandboxSession,
          decide (some row.expired.orgId = other) = decide (some row.orgId = other) :=
        fun _ => rfl
      refine (filter_updateWhere spared).trans (updateWhere_eq_self fun row member => ?_)
      have parts := List.mem_filter.mp member
      apply decide_eq_false
      intro same
      have owner := (consistent row parts.1).2
      rw [same, of_decide_eq_true parts.2] at owner
      exact different (owner.symm.trans confined)
  | addSession orgId sandboxId lifetime =>
      cases answered
      refine view_eq_iff.mpr ⟨?_, fun _ _ => rfl⟩
      have apart : ¬ some (newSession orgId sandboxId lifetime choice).orgId = other :=
        fun equal => different (equal.symm.trans confined.1)
      rw [List.filter_append, List.filter_cons_of_neg (by simpa using apart), List.filter_nil,
        List.append_nil]
  | execCell sandbox code | runProcess sandbox code =>
      rcases Option.map_eq_some_iff.mp answered with ⟨⟨before, after⟩, ran, equal⟩
      cases equal
      exact view_runIn_other confined different ran
  | close sandbox =>
      cases answered
      exact view_ran_other confined different

/-! ### What its own org sees -/

/-- Two services give the same answer, and what an org sees stays the same, or neither gives one. -/
def SameFor {α : Type} (owners : Owners) (org : Option Uuid) (left right : Option (α × Service)) :
    Prop :=
  left = none ∧ right = none ∨ ∃ answer s t, left = some (answer, s) ∧
    right = some (answer, t) ∧ s.view owners org = t.view owners org

theorem SameFor.map {α β : Type} {left right : Option (α × Service)} (change : α → β)
    (same : SameFor owners org left right) :
    SameFor owners org (left.map fun found => (change found.1, found.2))
      (right.map fun found => (change found.1, found.2)) := by
  rcases same with ⟨rfl, rfl⟩ | ⟨answer, s, t, rfl, rfl, views⟩
  · exact Or.inl ⟨rfl, rfl⟩
  · exact Or.inr ⟨change answer, s, t, rfl, rfl, views⟩

theorem sameFor_some {α : Type} {answer : α} (views : s.view owners org = t.view owners org) :
    SameFor owners org (some (answer, s)) (some (answer, t)) :=
  Or.inr ⟨answer, s, t, rfl, rfl, views⟩

theorem sameFor_create (mine : owners.sandbox choice.sandboxId = org)
    (views : s.view owners org = t.view owners org) :
    SameFor owners org (s.create choice) (t.create choice) := by
  unfold Service.create
  rw [(view_eq_iff.mp views).2 _ mine]
  split
  · exact Or.inl ⟨rfl, rfl⟩
  · exact sameFor_some (view_ran views)

theorem sameFor_runIn {sandbox : Sandbox} {next : Ran} (mine : owners.sandbox sandbox.id = org)
    (views : s.view owners org = t.view owners org) :
    SameFor owners org (s.runIn sandbox next) (t.runIn sandbox next) := by
  unfold Service.runIn
  rw [(view_eq_iff.mp views).2 _ mine]
  cases t.ran sandbox.id with
  | none => exact Or.inl ⟨rfl, rfl⟩
  | some before => exact sameFor_some (view_ran views)

/-- The active sessions of an org are among those that it sees. -/
theorem filter_isActive {orgId : Uuid} (now : Nat) (rows : List SandboxSession) :
    rows.filter (isActive orgId now) =
      (rows.filter fun row => some row.orgId = some orgId).filter (isActive orgId now) := by
  rw [List.filter_filter]
  apply List.filter_congr
  intro row _
  by_cases named : row.orgId = orgId
  · simp [named]
  · simp [isActive, named]

/-- What an operation comes to is decided by the sessions and the sandboxes of its org. -/
theorem sameFor_answer (confined : Confined owners org op) (chosen : Chosen owners org choice)
    (views : s.view owners org = t.view owners org) :
    SameFor owners org (s.answer choice op) (t.answer choice op) := by
  have parts := view_eq_iff.mp views
  cases op with
  | createEphemeral | create _ _ | createBasic _ => exact sameFor_create chosen.1 views
  | hasApiKey | publishLog _ _ _ | repr _ => exact sameFor_some views
  | activeSession orgId =>
      obtain rfl : some orgId = org := confined
      have rows : s.sessions.filter (isActive orgId choice.now) =
          t.sessions.filter (isActive orgId choice.now) := by
        rw [filter_isActive, parts.1, ← filter_isActive]
      simp only [Service.answer, rows]
      exact sameFor_some views
  | reconnect sandboxId =>
      simp only [Service.answer, parts.2 sandboxId confined]
      cases t.ran sandboxId with
      | none => exact Or.inl ⟨rfl, rfl⟩
      | some before => exact sameFor_some views
  | expireSession session =>
      have spared : ∀ row : SandboxSession,
          decide (some row.expired.orgId = org) = decide (some row.orgId = org) :=
        fun _ => rfl
      refine sameFor_some (view_eq_iff.mpr ⟨?_, parts.2⟩)
      calc _ = updateWhere _ SandboxSession.expired _ := filter_updateWhere spared
        _ = updateWhere _ SandboxSession.expired _ := congrArg _ parts.1
        _ = _ := (filter_updateWhere spared).symm
  | addSession orgId sandboxId lifetime =>
      refine sameFor_some (view_eq_iff.mpr ⟨?_, parts.2⟩)
      rw [List.filter_append, List.filter_append, parts.1]
  | execCell sandbox code => exact (sameFor_runIn confined views).map _
  | runProcess sandbox cmd => exact (sameFor_runIn confined views).map _
  | close sandbox => exact sameFor_some (view_ran views)

/-! ### Confinement -/

/-- An operation is answered, with an exception if the choice has one. -/
theorem answering_cases {result : Except Exc op.Answer}
    (answered : answering s op choice = some (result, s')) :
    (∃ answer, s.answer choice op = some (answer, s') ∧
      ∀ given, result = .ok given → given = answer) ∨
    s' = s ∧ ∀ given, result ≠ .ok given := by
  unfold answering at answered
  split at answered
  case h_1 =>
    rcases Option.map_eq_some_iff.mp answered with ⟨⟨answer, after⟩, found, equal⟩
    cases equal
    exact Or.inl ⟨answer, found, fun given same => (Except.ok.inj same).symm⟩
  case h_2 exc _ =>
    split at answered
    case isFalse => cases answered
    case isTrue =>
      split at answered
      case isTrue =>
        rcases Option.map_eq_some_iff.mp answered with ⟨⟨answer, after⟩, found, equal⟩
        cases equal
        exact Or.inl ⟨answer, found, fun _ impossible => nomatch impossible⟩
      case isFalse =>
        cases answered
        exact Or.inr ⟨rfl, fun _ impossible => nomatch impossible⟩

theorem sameFor_answering (confined : Confined owners org op) (chosen : Chosen owners org choice)
    (views : s.view owners org = t.view owners org) :
    SameFor owners org (answering s op choice) (answering t op choice) := by
  have same := sameFor_answer confined chosen views
  unfold answering
  split
  case h_1 => exact same.map _
  case h_2 exc _ =>
    split
    case isFalse => exact Or.inl ⟨rfl, rfl⟩
    case isTrue =>
      split
      case isTrue =>
        exact same.map fun _ => (Except.error exc : Except effects.Exc (effects.Answer op))
      case isFalse => exact sameFor_some views

end Confining

def confinement (owners : Owners) :
    Confinement answering (Option Uuid) (List SandboxSession × (String → Option (List Ran))) where
  safe := Service.Consistent owners
  chosen := Chosen owners
  confined := Confined owners
  known := Known owners
  view org s := s.view owners org
  kept consistent confined chosen answered := by
    rcases answering_cases answered with ⟨answer, found, given⟩ | ⟨rfl, raised⟩
    · have kept := kept_answer consistent confined chosen found
      refine ⟨kept.1, fun other same => ?_⟩
      rw [given other same]
      exact kept.2
    · exact ⟨consistent, fun answer same => absurd same (raised answer)⟩
  hidden consistent confined chosen different answered := by
    rcases answering_cases answered with ⟨answer, found, _⟩ | ⟨rfl, _⟩
    · exact view_answer_other consistent confined chosen different found
    · rfl
  visible consistent _ confined chosen views answered := by
    rcases sameFor_answering confined chosen views with ⟨none, _⟩ | ⟨_, _, t', left, right, same⟩
    · rw [none] at answered
      cases answered
    · rw [left] at answered
      cases answered
      exact ⟨t', right, same⟩

/-! ### Executions -/

section Executions

variable {owners : Owners} {org : Option Uuid} {orgId : Text} {sandbox : Sandbox}

theorem within_perform {op : Op} (confined : Confined owners org op) :
    (confinement owners).Within org (perform op) (Known owners org op) :=
  within_call confined

/-- What the operation tells is not used. -/
theorem within_step {op : Op} (confined : Confined owners org op) :
    (confinement owners).Within org (perform op) fun _ => True :=
  (within_perform confined).mono fun _ _ => trivial

theorem within_uuidOf (text : Text) :
    (confinement owners).Within org (uuidOf text) fun uuid => Uuid.parse text = some uuid := by
  unfold uuidOf
  split
  case h_1 parsed => exact within_pure parsed
  case h_2 => exact within_throw _

/-- A sandbox that was made for the org. -/
abbrev Owners.Made (owners : Owners) (org : Option Uuid) (sandbox : Sandbox) : Prop :=
  owners.sandbox sandbox.id = org

theorem within_create : (confinement owners).Within org create (owners.Made org) := by
  refine Within.tryCatch (within_perform trivial) fun exc => ?_
  split
  · exact within_perform trivial
  · exact within_throw exc

theorem within_reuse (named : Uuid.parse orgId = org) :
    (confinement owners).Within org (reuse orgId) fun found =>
      ∀ sandbox ∈ found, owners.Made org sandbox := by
  refine (within_uuidOf orgId).bind fun uuid parsed => ?_
  have mine : some uuid = org := parsed.symm.trans named
  have selected : Confined owners org (.activeSession uuid) := mine
  refine (within_perform selected).bind fun found known => ?_
  cases found with
  | none => exact within_pure fun _ impossible => nomatch impossible
  | some session =>
      have owns := known session rfl
      have connects : Confined owners org (.reconnect session.sandboxId) := owns.1
      have expires : Confined owners org (.expireSession session) := owns.2
      refine Within.tryCatch ((within_perform connects).bind fun sandbox made => ?_) fun exc => ?_
      · apply within_pure
        intro other same
        cases same
        exact made
      · split
        · exact (within_step expires).followed fun _ =>
            within_pure fun _ impossible => nomatch impossible
        · exact within_throw exc

theorem within_createNew (named : Uuid.parse orgId = org) (persistent : Bool) :
    (confinement owners).Within org (createNew orgId persistent) (owners.Made org) := by
  refine within_create.bind fun sandbox made => ?_
  split
  case isFalse => exact within_pure made
  case isTrue =>
    refine (within_uuidOf orgId).bind fun uuid parsed => ?_
    have added : Confined owners org (.addSession uuid sandbox.id defaultSandboxTimeout) :=
      ⟨parsed.symm.trans named, made⟩
    exact (within_step added).followed fun _ => within_pure made

theorem within_getOrCreateSandbox (named : Uuid.parse orgId = org) (persistent : Bool) :
    (confinement owners).Within org (getOrCreateSandbox orgId persistent) fun found =>
      owners.Made org found.1 := by
  have asked : Confined owners org .hasApiKey := trivial
  refine (within_step asked).followed fun hasApiKey => ?_
  split
  case isFalse => exact within_throw _
  case isTrue =>
    have fresh : (confinement owners).Within org (do
        let sandbox ← createNew orgId persistent
        return (sandbox, true) : Api (Sandbox × Bool)) fun found => owners.Made org found.1 :=
      (within_createNew named persistent).bind fun sandbox made => within_pure made
    cases persistent with
    | false => exact fresh
    | true =>
        refine (within_reuse named).bind fun found made => ?_
        cases found with
        | some sandbox => exact within_pure (made sandbox rfl)
        | none => exact fresh

theorem within_sandboxFor (request : Execution) (named : Uuid.parse request.orgId = org) :
    (confinement owners).Within org (sandboxFor request) fun found =>
      owners.Made org found.1 := by
  unfold sandboxFor
  split
  · exact within_getOrCreateSandbox named request.persistentSandbox
  · have created : (confinement owners).Within org (perform .createEphemeral)
        (owners.Made org) := within_perform trivial
    exact created.bind fun sandbox made => within_pure made

theorem within_runInSandbox (made : owners.Made org sandbox) (code : String) :
    (confinement owners).Within org (runInSandbox sandbox code) fun _ => True := by
  have runs : Confined owners org (.execCell sandbox code) := made
  have starts : ∀ cmd, Confined owners org (.runProcess sandbox cmd) := fun _ => made
  refine (within_step runs).followed fun cell => ?_
  split
  · exact within_return _
  · exact (within_step (starts _)).followed fun process => within_return _

theorem within_codeOf (request : Execution) :
    (confinement owners).Within org (codeOf request) fun _ => True := by
  have assigns : ∀ key value, (confinement owners).Within org (assignment key value)
      fun _ => True := by
    intro key value
    have shown : Confined owners org (.repr value) := trivial
    exact (within_step shown).followed fun _ => within_return _
  have line : ∀ key value, (confinement owners).Within org (argumentLine key value)
      fun _ => True := by
    intro key value
    unfold argumentLine
    split
    · split
      · exact within_return _
      · exact assigns key _
    · exact assigns key value
  have lines : ∀ arguments, (confinement owners).Within org (argumentLines arguments)
      fun _ => True := by
    intro arguments
    induction arguments with
    | nil => exact within_return _
    | cons argument arguments induction =>
        exact (line argument.1 argument.2).followed fun lines =>
          induction.followed fun rest => within_return _
  unfold codeOf
  split
  · exact (lines _).followed fun _ => within_return _
  · exact within_return _

theorem within_failed (request : Execution) (exc : Exc) :
    (confinement owners).Within org (failed request exc) fun _ => True := by
  have logged : Confined owners org
      (.publishLog request.invocationId "error" s!"Sandbox error: {exc.message}") := trivial
  unfold failed
  split
  · exact (within_step logged).followed fun _ => within_return _
  · exact within_throw _

theorem within_teardown (request : Execution) (made : owners.Made org sandbox) (isNew : Bool) :
    (confinement owners).Within org (teardown request sandbox isNew) fun _ => True := by
  have quiet : ∀ exc : Exc, (confinement owners).Within org
      (if exc.isException then return () else throw exc : Api Unit) fun _ => True := by
    intro exc
    split
    · exact within_return _
    · exact within_throw _
  have closes : Confined owners org (.close sandbox) := made
  unfold teardown
  split
  · exact ((within_step closes).tryCatch quiet).tryCatch quiet
  · exact within_return _

/-- An execution keeps to the sandboxes of its org. -/
theorem within_execute (request : Execution) (named : Uuid.parse request.orgId = org) :
    (confinement owners).Within org (execute request) fun _ => True := by
  refine (within_codeOf request).followed fun code => ?_
  refine (within_sandboxFor request named).reflect.bind fun result known => ?_
  cases result with
  | error exc => exact within_failed request exc
  | ok found =>
      have made : owners.Made org found.1 := known found rfl
      exact ((within_runInSandbox made code).tryCatch (within_failed request)).tryFinally
        (within_teardown request made found.2)

end Executions

/-! ### Histories of executions -/

/-- The sandbox that an execution is about to use. -/
def nextUsed : Api Value → Option Sandbox
  | .perform op _ => op.used
  | .ret _ | .raise _ => none

abbrev History := List (Turn effects (Option Uuid) Choice Value)

/-- An execution is for the org of its request, and ids that are made for different orgs differ. -/
def Served (owners : Owners) : Turn effects (Option Uuid) Choice Value → Prop
  | .start task program => ∃ request, Uuid.parse request.orgId = task.1 ∧
      program = execute request
  | .move task choice => Chosen owners task.1 choice

/-- The machine after the executions of a history, with no sandbox at first. -/
def after (history : History) : Option (Machine effects (Option Uuid) Service Value) :=
  Machine.run { store := {} } answering history

section Histories

variable {owners : Owners} {history : History} {m : Machine effects (Option Uuid) Service Value}

theorem allowed_of_served {turn : Turn effects (Option Uuid) Choice Value}
    (served : Served owners turn) : turn.Allowed (confinement owners) := by
  cases turn with
  | start task program =>
      rcases served with ⟨request, named, rfl⟩
      exact within_execute request named
  | move task choice => exact served

theorem safe_empty (owners : Owners) : Machine.Safe (confinement owners)
    ({ store := {} } : Machine effects (Option Uuid) Service Value) :=
  ⟨fun _ none => absurd none List.not_mem_nil, fun _ _ running => nomatch running⟩

theorem safe_after (served : ∀ turn ∈ history, Served owners turn)
    (reached : after history = some m) : m.Safe (confinement owners) :=
  (safe_empty owners).run (fun turn member => allowed_of_served (served turn member)) reached

theorem made_of_confined {op : Op} {org : Option Uuid} (confined : Confined owners org op) :
    ∀ sandbox ∈ op.used, owners.Made org sandbox := by
  intro sandbox used
  cases op with
  | execCell other code | runProcess other code | close other =>
      cases used
      exact confined
  | _ => cases used

end Histories

/-- However the executions of the orgs take turns, a sandbox that an execution is about to use
was made for its org. -/
theorem own_sandbox_used (owners : Owners) (history : History)
    (m : Machine effects (Option Uuid) Service Value) (task : Option Uuid × Nat)
    (sandbox : Sandbox) (served : ∀ turn ∈ history, Served owners turn)
    (reached : after history = some m) (next : (m.tasks task).bind nextUsed = some sandbox) :
    owners.sandbox sandbox.id = task.1 := by
  rcases Option.bind_eq_some_iff.mp next with ⟨program, here, used⟩
  cases program with
  | ret value => cases used
  | raise exc => cases used
  | perform op resume =>
      exact made_of_confined ((safe_after served reached).confined here) sandbox used

/-- However the executions of the orgs take turns, an org gets the results, and is left with the
sandboxes and sessions, of its own executions alone. -/
theorem executed_as_alone (owners : Owners) (history : History)
    (m : Machine effects (Option Uuid) Service Value) (org : Option Uuid)
    (served : ∀ turn ∈ history, Served owners turn) (reached : after history = some m) :
    ∃ alone, after (history.filter fun turn => turn.task.1 = org) = some alone ∧
      m.resultsOf org = alone.resultsOf org ∧
      m.store.view owners org = alone.store.view owners org := by
  rcases (confinement owners).alone org (safe_empty owners)
    (fun turn member => allowed_of_served (served turn member)) reached with
    ⟨alone, possible, alike⟩
  refine ⟨alone, ?_, alike.results, alike.view⟩
  have own : withoutSecret (Turn.secret org) history =
      history.filter fun turn => turn.task.1 = org := by
    apply List.filter_congr
    intro turn _
    simp [Turn.secret]
  rw [← own]
  exact possible

/-! ### Two orgs -/

def otherOrg : Uuid := ⟨List.replicate 32 'd', rfl, rfl⟩

def exampleOwners : Owners where
  sandbox id := some (if id = "other" then otherOrg else .zero)
  session := some

def remember (org : Uuid) (code : String) : Api Value :=
  execute {
    code := code
    arguments := []
    orgId := org.str
    invocationId := "run"
    persistentSandbox := true
    hasDb := true }

/-- The surroundings of an org; what a cell has written tells how much has run before. -/
def choiceOf (org : Uuid) (sandboxId : String) : Choice where
  newId := org
  sandboxId := sandboxId
  cell before := ⟨[toString before.length], [], some ([], none)⟩
  process _ := ⟨[], [], none⟩

def ownMove (n : Nat) : Turn effects (Option Uuid) Choice Value :=
  .move (some .zero, n) (choiceOf .zero "own")

def otherMove : Turn effects (Option Uuid) Choice Value :=
  .move (some otherOrg, 0) (choiceOf otherOrg "other")

/-- Both orgs get a sandbox, and the first comes back to its own. -/
def exampleHistory : History :=
  [.start (some .zero, 0) (remember .zero "x = 1"),
    .start (some otherOrg, 0) (remember otherOrg "x = 2"),
    ownMove 0, otherMove, ownMove 0, otherMove, otherMove, ownMove 0, ownMove 0, otherMove,
    ownMove 0, ownMove 0, .start (some .zero, 1) (remember .zero "print(x)"),
    ownMove 1, ownMove 1, otherMove, ownMove 1, ownMove 1, otherMove, ownMove 1]

theorem exampleReached : (after exampleHistory).isSome = true := by
  decide +kernel

example : (after exampleHistory).map (fun m =>
    (m.store.sessions.map (·.sandboxId), (m.store.ran "own").map List.length,
      (m.store.ran "other").map List.length)) =
        some (["own", "other"], some 2, some 1) := by
  decide +kernel

/-- The first org is about to run the code that comes second. -/
def exampleBefore : History := exampleHistory.take 17

theorem exampleReachedBefore : (after exampleBefore).isSome = true := by
  decide +kernel

theorem exampleServed : ∀ turn ∈ exampleHistory, Served exampleOwners turn := by
  have ownName : Uuid.parse Uuid.zero.str = some .zero := by decide +kernel
  have otherName : Uuid.parse otherOrg.str = some otherOrg := by decide +kernel
  have ownAsks : ∀ n code, Served exampleOwners (.start (some .zero, n) (remember .zero code)) :=
    fun n code => ⟨_, ownName, rfl⟩
  have otherAsks : ∀ n code,
      Served exampleOwners (.start (some otherOrg, n) (remember otherOrg code)) :=
    fun n code => ⟨_, otherName, rfl⟩
  have ownBox : exampleOwners.sandbox "own" = some .zero := by decide
  have otherBox : exampleOwners.sandbox "other" = some otherOrg := by decide
  have own : ∀ n, Served exampleOwners (ownMove n) := fun n => ⟨ownBox, rfl⟩
  have other : Served exampleOwners otherMove := ⟨otherBox, rfl⟩
  simp [exampleHistory, ownAsks, otherAsks, own, other]

theorem own_used_again :
    ((((after exampleBefore).get exampleReachedBefore).tasks (some .zero, 1)).bind nextUsed =
      some ⟨"own"⟩) ∧ exampleOwners.sandbox "own" = some .zero := by
  have next : (((after exampleBefore).get exampleReachedBefore).tasks (some .zero, 1)).bind
      nextUsed = some ⟨"own"⟩ := by
    decide +kernel
  have served : ∀ turn ∈ exampleBefore, Served exampleOwners turn :=
    fun turn member => exampleServed turn (List.mem_of_mem_take member)
  exact ⟨next, own_sandbox_used exampleOwners exampleBefore _ (some .zero, 1) ⟨"own"⟩ served
    (Option.some_get exampleReachedBefore).symm next⟩

theorem own_executed_as_alone :
    let reached := (after exampleHistory).get exampleReached
    ∃ alone, after (exampleHistory.filter fun turn => turn.task.1 = some .zero) = some alone ∧
      reached.resultsOf (some .zero) = alone.resultsOf (some .zero) ∧
      reached.store.view exampleOwners (some .zero) =
        alone.store.view exampleOwners (some .zero) :=
  executed_as_alone exampleOwners exampleHistory _ (some .zero) exampleServed
    (Option.some_get exampleReached).symm

end GrafuxMcp.Sandboxes
