import GrafuxMcp.Lifecycle.ServerState

/-! # A connect that fails

When `connect` raises it should leave nothing behind but the status ERROR. Its handler
records the error and undoes nothing, so what had been registered or opened stays. -/

namespace GrafuxMcp.Lifecycle

open GrafuxMcp Program

/-! ### Failures -/

theorem isException_of_isinstance_import {exc : Exc}
    (imports : exc.isinstance .ImportError = true) : exc.isException = true := by
  have each (cls : ExcClass) : cls.mro.contains .ImportError = true →
      cls.mro.contains .Exception = true := by
    cases cls <;> decide
  exact each exc.cls imports

structure Trial where
  view : View
  /-- A write of the status ERROR has failed. -/
  recordingFailed : Bool := false

/-- The operation writes the status ERROR. -/
def View.recordsError (view : View) : Op → Bool
  | .updateStatus _ .error => true
  | .commit => writtenStatus view.transaction == some .error
  | _ => false

namespace Trial

variable (trial : Trial)

abbrev world : World :=
  trial.view.world

def observe (event : RunEvent) : Trial where
  view := trial.view.observe event
  recordingFailed :=
    trial.recordingFailed ||
      (trial.view.recordsError event.op && event.outcome.exception?.isSome)

/-- A failure that a connect survives or undoes: the contexts are not entered yet, the
SDK is not installed, the probe finds nothing, or the error is being recorded. The
CONNECTING write may fail when the status is ERROR anyway. -/
def SparesFailure (exc : Exc) (applied : Bool) : Op → Prop
  | .importSdk => True
  | .enter _ .transport | .probe _ => exc.isException = true
  | .enter _ .session | .initializeSession _ => exc.isinstance .ImportError = true
  | .updateStatus _ status => status = .error ∨ trial.world.rows.status = .error
  | .commit =>
      writtenStatus trial.view.transaction = some .error ∨
        (trial.world.rows.status = .error ∧ applied = false)
  | .cacheSet _ _ _ => trial.world.rows.status = .error
  | _ => False

instance (exc : Exc) (applied : Bool) (op : Op) :
    Decidable (trial.SparesFailure exc applied op) := by
  unfold SparesFailure
  split <;> infer_instance

def Spares (event : RunEvent) : Prop :=
  match event.outcome with
  | .returned _ => True
  | .raised exc applied _ => trial.SparesFailure exc applied event.op

instance (event : RunEvent) : Decidable (trial.Spares event) := by
  unfold Spares
  split <;> infer_instance

variable {trial}

theorem observe_returned {op : Op} (answer : op.Answer) :
    trial.observe ⟨op, .returned answer⟩ =
      { trial with view := trial.view.observe ⟨op, .returned answer⟩ } := by
  simp [observe]

theorem observe_raised {op : Op} {exc : Exc} {applied : Bool}
    {possible : op.mayRaise exc = true} (records : trial.view.recordsError op = false) :
    trial.observe ⟨op, .raised exc applied possible⟩ =
      { trial with view := trial.view.observe ⟨op, .raised exc applied possible⟩ } := by
  have records : View.recordsError trial.view op = false := records
  simp [observe, records]

theorem recordingFailed_raised {op : Op} {exc : Exc} {applied : Bool}
    {possible : op.mayRaise exc = true} (records : trial.view.recordsError op = true) :
    (trial.observe ⟨op, .raised exc applied possible⟩).recordingFailed = true := by
  have records : View.recordsError trial.view op = true := records
  simp [observe, records]

end Trial

/-- Nothing is left of a connect but the status ERROR, unless that could not be
written. -/
structure Undone (before : World) (trial : Trial) : Prop where
  active : trial.world.active = before.active
  contexts : trial.world.contexts = before.contexts
  status : trial.recordingFailed = false → trial.world.rows.status = .error

/-- A call that raises is undone. -/
def Atomic (before : World) (trace : List RunEvent) (result : Except Exc ConnectResult) : Prop :=
  ∀ exc, result = .error exc → Undone before (trace.foldl Trial.observe ⟨⟨before, []⟩, false⟩)

namespace ConnectAtomicity

/-- Whether every failure so far was spared. -/
def watched : Contract effects (Trial × Bool) where
  observe := watch Trial.observe Trial.Spares
  assume s event := s.1.view.Faithful event
  guarantee _ _ := True

variable {s : Trial × Bool}

theorem meets_perform {op : Op} {post : Except Exc op.Answer → Trial × Bool → Prop}
    (returned : ∀ answer, s.1.view.Faithful ⟨op, .returned answer⟩ →
      post (.ok answer) (s.1.observe ⟨op, .returned answer⟩, s.2))
    (raised : ∀ exc applied (possible : op.mayRaise exc = true),
      post (.error exc) (s.1.observe ⟨op, .raised exc applied possible⟩,
        s.2 && decide (s.1.SparesFailure exc applied op))) :
    (perform op).Meets watched s post := by
  apply meets_call
  intro outcome faithful
  refine ⟨trivial, ?_⟩
  cases outcome with
  | returned answer =>
      have step : watched.observe s ⟨op, .returned answer⟩ =
          (s.1.observe ⟨op, .returned answer⟩, s.2) := watch_of_holds (by trivial) s.2
      rw [step]
      exact returned answer faithful
  | raised exc applied possible => exact raised exc applied possible

/-- An operation that cannot fail. -/
theorem meets_perform_safe {op : Op} {post : Except Exc op.Answer → Trial × Bool → Prop}
    (safe : ∀ exc, op.mayRaise exc = false)
    (returned : ∀ answer, s.1.view.Faithful ⟨op, .returned answer⟩ →
      post (.ok answer) (s.1.observe ⟨op, .returned answer⟩, s.2)) :
    (perform op).Meets watched s post := by
  apply meets_perform returned
  intro exc applied possible
  rw [safe exc] at possible
  cases possible

/-! ### The parts of a connect -/

variable {server : MCPServer}

/-- The map and the contexts are as they were. -/
structure Kept (s s' : Trial × Bool) : Prop where
  active : s'.1.world.active = s.1.world.active
  contexts : s'.1.world.contexts = s.1.world.contexts

/-- Only the Redis write can fail, and it changes nothing. -/
theorem meets_writeHealth (status : String) (error : Option String) :
    (writeHealth server status error).Meets watched s fun result s' =>
      s' = (s.1, match result with
        | .ok _ => s.2
        | .error _ => s.2 && decide (s.1.world.rows.status = .error)) := by
  apply meets_bind.mpr
  apply meets_perform_safe fun _ => rfl
  intro now _
  rw [Trial.observe_returned]
  apply meets_perform
  · intro _ _
    rw [Trial.observe_returned]
    rfl
  · intro exc applied possible
    rw [Trial.observe_raised rfl]
    rfl

theorem meets_recordError (error : String) :
    (recordError server error).Meets watched s fun _ s' =>
      Kept s s' ∧ s'.2 = s.2 ∧
        (s'.1.recordingFailed = false → s'.1.world.rows.status = .error) := by
  apply meets_bind.mpr
  apply meets_perform
  · intro _ _
    rw [Trial.observe_returned]
    apply meets_bind.mpr
    have written : writtenStatus (s.1.view.transaction ++ [.updateStatus .error]) = some .error :=
      writtenStatus_append _ _
    apply meets_perform
    · intro _ _
      rw [Trial.observe_returned]
      have status : (s.1.world.rows.commit
          (s.1.view.transaction ++ [.updateStatus .error])).status = .error := by
        rw [ServerRows.status_commit, written]
        rfl
      refine (meets_writeHealth "error" (some error)).mono ?_
      rintro result s' rfl
      refine ⟨⟨rfl, rfl⟩, ?_, fun _ => status⟩
      cases result with
      | ok _ => rfl
      | error exc => exact (congrArg (s.2 && ·) (decide_eq_true status)).trans (Bool.and_true _)
    · intro exc applied possible
      have records : View.recordsError
          { s.1.view with transaction := s.1.view.transaction ++ [.updateStatus .error] }
          .commit = true := by
        rw [View.recordsError, written]
        rfl
      refine ⟨?_, ?_, ?_⟩
      · cases applied with
        | true => exact ⟨rfl, rfl⟩
        | false => exact ⟨rfl, rfl⟩
      · exact (congrArg (s.2 && ·) (decide_eq_true (Or.inl written))).trans (Bool.and_true _)
      · rw [Trial.recordingFailed_raised records]
        exact fun absurd => by cases absurd
  · intro exc applied possible
    refine ⟨?_, ?_, ?_⟩
    · cases applied with
      | true => exact ⟨rfl, rfl⟩
      | false => exact ⟨rfl, rfl⟩
    · exact (congrArg (s.2 && ·) (decide_eq_true (Or.inl rfl))).trans (Bool.and_true _)
    · rw [Trial.recordingFailed_raised rfl]
      exact fun absurd => by cases absurd

/-- Neither status is ERROR, so no failure is spared while the status is CONNECTING. -/
theorem meets_recordConnected (capabilities : List (String × Value))
    (connecting : s.1.world.rows.status = .connecting) :
    (recordConnected server capabilities).Meets watched s fun result s' =>
      Kept s s' ∧ s'.1.recordingFailed = s.1.recordingFailed ∧
        s'.1.world.rows.status ≠ .error ∧
        s'.2 = match result with
          | .ok _ => s.2
          | .error _ => false := by
  have notError : s.1.world.rows.status ≠ .error := by simp [connecting]
  apply meets_bind.mpr
  apply meets_perform_safe fun _ => rfl
  intro now _
  rw [Trial.observe_returned]
  apply meets_bind.mpr
  apply meets_perform
  · intro _ _
    rw [Trial.observe_returned]
    apply meets_bind.mpr
    apply meets_perform_safe fun _ => rfl
    intro id _
    rw [Trial.observe_returned]
    apply meets_bind.mpr
    let transaction : List Statement :=
      s.1.view.transaction ++ [.updateStatus .active] ++ [.insert id {
        serverId := server.id
        orgId := server.orgId
        status := .connected
        connectedAt := now
        metadata := [("capabilities", .dict capabilities)] }]
    have written : writtenStatus transaction = some .active := by
      rw [writtenStatus_append_insert, writtenStatus_append]
    have active : (s.1.world.rows.commit transaction).status = .active := by
      rw [ServerRows.status_commit, written]
      rfl
    apply meets_perform
    · intro _ _
      rw [Trial.observe_returned]
      refine (meets_writeHealth "connected" none).mono ?_
      rintro result s' rfl
      have notError' : (s.1.world.rows.commit transaction).status ≠ .error := by simp [active]
      refine ⟨⟨rfl, rfl⟩, rfl, notError', ?_⟩
      cases result with
      | ok _ => rfl
      | error exc => exact (congrArg (s.2 && ·) (decide_eq_false notError')).trans (Bool.and_false _)
    · intro exc applied possible
      have records : View.recordsError { s.1.view with transaction := transaction } .commit = false := by
        rw [View.recordsError, written]
        rfl
      have notSpared : ¬ (writtenStatus transaction = some .error ∨
          (s.1.world.rows.status = .error ∧ applied = false)) := by
        rw [written]
        simp [notError]
      rw [Trial.observe_raised records]
      refine ⟨?_, rfl, ?_, ?_⟩
      · cases applied with
        | true => exact ⟨rfl, rfl⟩
        | false => exact ⟨rfl, rfl⟩
      · cases applied with
        | true =>
            have status : (s.1.world.rows.commit transaction).status ≠ .error := by simp [active]
            exact status
        | false => exact notError
      · exact (congrArg (s.2 && ·) (decide_eq_false notSpared)).trans (Bool.and_false _)
  · intro exc applied possible
    have notSpared : ¬ (ServerStatus.active = .error ∨ s.1.world.rows.status = .error) := by
      simp [notError]
    rw [Trial.observe_raised rfl]
    refine ⟨?_, rfl, ?_, ?_⟩
    · cases applied with
      | true => exact ⟨rfl, rfl⟩
      | false => exact ⟨rfl, rfl⟩
    · cases applied with
      | true => exact notError
      | false => exact notError
    · exact (congrArg (s.2 && ·) (decide_eq_false notSpared)).trans (Bool.and_false _)

/-! ### The attempt -/

/-- The map, the status and the record of failures are as they were. -/
structure Apart (s s' : Trial × Bool) : Prop where
  active : s'.1.world.active = s.1.world.active
  status : s'.1.world.rows.status = s.1.world.rows.status
  recordingFailed : s'.1.recordingFailed = s.1.recordingFailed

/-- A client that was not made has left contexts open, or the failure is spared, or it
is no `Exception`. -/
def Tried (s : Trial × Bool) {α : Type} : Except Exc α → Trial × Bool → Prop
  | .ok _, s' => Apart s s' ∧ s'.2 = s.2
  | .error exc, s' => Apart s s' ∧
      ((s'.2 = s.2 ∧ exc.isException = true ∧ s'.1.world.contexts = s.1.world.contexts) ∨
        (s'.2 = false ∧
          (exc.isException = true → s'.1.world.contexts ≠ s.1.world.contexts)))

/-- The same before the handler of the client has run. -/
def Entered (s : Trial × Bool) {α : Type} : Except Exc α → Trial × Bool → Prop
  | .ok _, s' => Apart s s' ∧ s'.2 = s.2
  | .error exc, s' => Apart s s' ∧
      ((s'.1.world.contexts = s.1.world.contexts ∧
          s'.2 = (s.2 && decide (exc.isException = true))) ∨
        (s'.1.world.contexts ≠ s.1.world.contexts ∧
          s'.2 = (s.2 && decide (exc.isinstance .ImportError = true))))

theorem contexts_ne_cons {contexts : List (ClientId × Context)} {opened : ClientId × Context} :
    opened :: contexts ≠ contexts := by
  intro equal
  have lengths := congrArg List.length equal
  simp at lengths

theorem contexts_ne_cons_cons {contexts : List (ClientId × Context)}
    {first second : ClientId × Context} : first :: second :: contexts ≠ contexts := by
  intro equal
  have lengths := congrArg List.length equal
  simp only [List.length_cons] at lengths
  omega

theorem meets_enterContexts (client : ClientId) :
    (do
      perform .importSdk
      perform (.enter client .transport)
      perform (.enter client .session)
      let result ← perform (.initializeSession client)
      perform (.keepSession client)
      return result : Run (List (String × Value))).Meets watched s (Entered s) := by
  apply meets_bind.mpr
  apply meets_perform
  · intro _ _
    rw [Trial.observe_returned]
    apply meets_bind.mpr
    apply meets_perform
    · intro _ _
      rw [Trial.observe_returned]
      apply meets_bind.mpr
      apply meets_perform
      · intro _ _
        rw [Trial.observe_returned]
        apply meets_bind.mpr
        apply meets_perform
        · intro capabilities _
          rw [Trial.observe_returned]
          apply meets_bind.mpr
          apply meets_perform_safe fun _ => rfl
          intro _ _
          rw [Trial.observe_returned]
          exact ⟨⟨rfl, rfl, rfl⟩, rfl⟩
        · intro exc applied possible
          rw [Trial.observe_raised rfl]
          exact ⟨⟨rfl, rfl, rfl⟩, Or.inr ⟨contexts_ne_cons_cons, rfl⟩⟩
      · intro exc applied possible
        rw [Trial.observe_raised rfl]
        exact ⟨⟨rfl, rfl, rfl⟩, Or.inr ⟨contexts_ne_cons, rfl⟩⟩
    · intro exc applied possible
      rw [Trial.observe_raised rfl]
      exact ⟨⟨rfl, rfl, rfl⟩, Or.inl ⟨rfl, rfl⟩⟩
  · intro exc applied possible
    rw [Trial.observe_raised rfl]
    have isException : exc.isException = true := possible
    refine ⟨⟨rfl, rfl, rfl⟩, Or.inl ⟨rfl, ?_⟩⟩
    rw [decide_eq_true isException]
    rfl

theorem meets_httpProbe (client : ClientId) :
    (MCPClientWrapper.httpProbe client).Meets watched s fun result s' =>
      Apart s s' ∧ match result with
        | .ok _ => s'.2 = s.2
        | .error exc => s'.2 = false ∧ exc.isException = false := by
  apply meets_tryCatch.mpr
  apply meets_perform
  · intro _ _
    rw [Trial.observe_returned]
    exact ⟨⟨rfl, rfl, rfl⟩, rfl⟩
  · intro exc applied possible
    rw [Trial.observe_raised rfl]
    dsimp only [orElse]
    cases isException : exc.isException with
    | true =>
        refine ⟨⟨rfl, rfl, rfl⟩, ?_⟩
        exact (congrArg (s.2 && ·) (decide_eq_true isException)).trans (Bool.and_true _)
    | false =>
        refine ⟨⟨rfl, rfl, rfl⟩, ?_, isException⟩
        have notSpared : ¬ exc.isException = true := by simp [isException]
        exact (congrArg (s.2 && ·) (decide_eq_false notSpared)).trans (Bool.and_false _)

theorem meets_clientConnect (client : ClientId) (endpointUrl : String) :
    (MCPClientWrapper.connect client endpointUrl).Meets watched s (Tried s) := by
  apply meets_tryCatch.mpr
  refine (meets_enterContexts client).mono ?_
  intro result s₁ entered
  cases result with
  | ok capabilities => exact entered
  | error exc =>
      obtain ⟨apart, entered⟩ := entered
      dsimp only [orElse]
      cases imports : exc.isinstance .ImportError with
      | true =>
          have isException : exc.isException = true := isException_of_isinstance_import imports
          have flag : s₁.2 = s.2 := by
            rcases entered with ⟨-, flag⟩ | ⟨-, flag⟩
            · simpa [isException] using flag
            · simpa [imports] using flag
          refine (meets_httpProbe client).mono ?_
          rintro result s' ⟨⟨active, status, recordingFailed⟩, probed⟩
          have apart' : Apart s s' := ⟨active.trans apart.active, status.trans apart.status,
            recordingFailed.trans apart.recordingFailed⟩
          cases result with
          | ok capabilities => exact ⟨apart', probed.trans flag⟩
          | error exc =>
              refine ⟨apart', Or.inr ⟨probed.1, ?_⟩⟩
              intro isException
              rw [probed.2] at isException
              cases isException
      | false =>
          cases isException : exc.isException with
          | true =>
              refine ⟨apart, ?_⟩
              rcases entered with ⟨same, flag⟩ | ⟨different, flag⟩
              · refine Or.inl ⟨?_, rfl, same⟩
                simpa [isException] using flag
              · refine Or.inr ⟨?_, fun _ => different⟩
                simpa [imports] using flag
          | false =>
              refine ⟨apart, Or.inr ⟨?_, fun absurd => ?_⟩⟩
              · rcases entered with ⟨same, flag⟩ | ⟨different, flag⟩
                · simpa [isException] using flag
                · simpa [imports] using flag
              · rw [isException] at absurd
                cases absurd

/-! ### The whole call -/

variable {before : World}

/-- Up to the attempt: CONNECTING is committed, and the server is not active. -/
structure Connecting (before : World) (server : MCPServer) (s : Trial × Bool) : Prop where
  active : s.1.world.active = before.active
  inactive : before.active.get (serverId server) = none
  contexts : s.1.world.contexts = before.contexts
  status : s.1.world.rows.status = .connecting
  recordingFailed : s.1.recordingFailed = false
  flag : s.2 = true

/-- An attempt that raises is undone by the handler if its failures were spared; else
something of it stays that the handler does not undo, or no handler runs. -/
def Attempted (before : World) : Except Exc ConnectResult → Trial × Bool → Prop
  | .ok _, s => s.2 = true
  | .error exc, s =>
      (s.2 = true ∧ exc.isException = true ∧ s.1.world.active = before.active ∧
          s.1.world.contexts = before.contexts) ∨
        (s.2 = false ∧ s.1.recordingFailed = false ∧ s.1.world.rows.status ≠ .error ∧
          (exc.isException = true →
            s.1.world.active ≠ before.active ∨ s.1.world.contexts ≠ before.contexts))

/-- The call is atomic exactly if every failure was spared. -/
def Settled (before : World) (result : Except Exc ConnectResult) (s : Trial × Bool) : Prop :=
  (∀ exc, result = .error exc → Undone before s.1) ↔ s.2 = true

theorem settled_ok {value : ConnectResult} (flag : s.2 = true) : Settled before (.ok value) s := by
  constructor
  · exact fun _ => flag
  · intro _ exc absurd
    cases absurd

theorem settled_undone {exc : Exc} (undone : Undone before s.1) (flag : s.2 = true) :
    Settled before (.error exc) s :=
  ⟨fun _ => flag, fun _ _ _ => undone⟩

theorem settled_failed {exc : Exc} (left : ¬ Undone before s.1) (flag : s.2 = false) :
    Settled before (.error exc) s := by
  constructor
  · intro undone
    exact absurd (undone exc rfl) left
  · intro absurd
    rw [flag] at absurd
    cases absurd

theorem active_set_ne {active : OrderedDict Text ClientId} {key : Text} {client : ClientId}
    (missing : active.get key = none) : active.set key client ≠ active := by
  intro same
  have found : (active.set key client).get key = some client := by
    rw [OrderedDict.get_set, if_pos rfl]
  rw [same, missing] at found
  cases found

theorem meets_openConnection (connecting : Connecting before server s) (endpointUrl : String) :
    (openConnection server endpointUrl).Meets watched s (Attempted before) := by
  have notError : s.1.world.rows.status ≠ .error := by simp [connecting.status]
  apply meets_bind.mpr
  apply meets_perform_safe fun _ => rfl
  intro client _
  rw [Trial.observe_returned]
  apply meets_bind.mpr
  refine (meets_clientConnect client endpointUrl).mono ?_
  intro result s₁ tried
  cases result with
  | error exc =>
      obtain ⟨apart, tried⟩ := tried
      have active : s₁.1.world.active = before.active := apart.active.trans connecting.active
      rcases tried with ⟨flag, isException, same⟩ | ⟨flag, left⟩
      · exact Or.inl ⟨flag.trans connecting.flag, isException, active,
          same.trans connecting.contexts⟩
      · refine Or.inr ⟨flag, apart.recordingFailed.trans connecting.recordingFailed, ?_, ?_⟩
        · rw [apart.status]
          exact notError
        · intro isException
          have different := left isException
          rw [← connecting.contexts]
          exact Or.inr different
  | ok capabilities =>
      obtain ⟨apart, flag⟩ := tried
      have flag : s₁.2 = true := flag.trans connecting.flag
      have status : s₁.1.world.rows.status = .connecting := apart.status.trans connecting.status
      have recordingFailed : s₁.1.recordingFailed = false :=
        apart.recordingFailed.trans connecting.recordingFailed
      have active : s₁.1.world.active = before.active := apart.active.trans connecting.active
      have registered : s₁.1.world.active.set (serverId server) client ≠ before.active := by
        rw [active]
        exact active_set_ne connecting.inactive
      let stored : Trial := { s₁.1 with
        view := { s₁.1.view with
          world := { s₁.1.world with
            active := s₁.1.world.active.set (serverId server) client } } }
      apply meets_bind.mpr
      apply meets_perform_safe fun _ => rfl
      intro _ _
      rw [Trial.observe_returned]
      apply meets_bind.mpr
      apply meets_perform
      · intro _ _
        rw [Trial.observe_returned]
        apply meets_bind.mpr
        have records : (recordConnected server capabilities).Meets watched (stored, s₁.2) _ :=
          meets_recordConnected capabilities status
        refine records.mono ?_
        intro result s₂ recorded
        obtain ⟨kept, recording, notError, ended⟩ := recorded
        cases result with
        | ok _ => exact ended.trans flag
        | error exc =>
            refine Or.inr ⟨ended, recording.trans recordingFailed, notError, fun _ => Or.inl ?_⟩
            rw [kept.active]
            exact registered
      · intro exc applied possible
        rw [Trial.observe_raised rfl]
        have notError : s₁.1.world.rows.status ≠ .error := by simp [status]
        refine Or.inr ⟨?_, recordingFailed, notError, fun _ => Or.inl registered⟩
        exact (congrArg (s₁.2 && ·) (decide_eq_false notError)).trans (Bool.and_false _)

theorem meets_attempt (connecting : Connecting before server s) (endpointUrl : String) :
    (MonadExcept.tryCatch (openConnection server endpointUrl) (connectFailed server) :
      Run ConnectResult).Meets watched s (Settled before) := by
  apply meets_tryCatch.mpr
  refine (meets_openConnection connecting endpointUrl).mono ?_
  intro result s₁ attempted
  cases result with
  | ok value => exact settled_ok attempted
  | error exc =>
      dsimp only [orElse]
      unfold connectFailed
      cases isException : exc.isException with
      | true =>
          apply meets_bind.mpr
          refine (meets_recordError exc.message).mono ?_
          intro result s₂ recorded
          obtain ⟨kept, flag, status⟩ := recorded
          have settled (exc' : Exc) : Settled before (.error exc') s₂ := by
            rcases attempted with ⟨spared, -, active, contexts⟩ | ⟨unspared, -, -, left⟩
            · exact settled_undone ⟨kept.active.trans active, kept.contexts.trans contexts, status⟩
                (flag.trans spared)
            · refine settled_failed (fun undone => ?_) (flag.trans unspared)
              rcases left isException with active | contexts
              · exact active (kept.active.symm.trans undone.active)
              · exact contexts (kept.contexts.symm.trans undone.contexts)
          cases result with
          | ok _ => exact settled exc
          | error exc' => exact settled exc'
      | false =>
          rcases attempted with ⟨-, absurd, -⟩ | ⟨unspared, recording, notError, -⟩
          · rw [isException] at absurd
            cases absurd
          · exact settled_failed (fun undone => notError (undone.status recording)) unspared

theorem meets_localPlugin (connecting : Connecting before server s) :
    (do
      recordConnected server []
      return ConnectResult.localPlugin : Run ConnectResult).Meets watched s (Settled before) := by
  apply meets_bind.mpr
  refine (meets_recordConnected [] connecting.status).mono ?_
  rintro result s' ⟨-, recording, notError, ended⟩
  cases result with
  | ok _ => exact settled_ok (ended.trans connecting.flag)
  | error exc =>
      refine settled_failed (fun undone => notError ?_) ended
      exact undone.status (recording.trans connecting.recordingFailed)

theorem meets_noEndpoint (connecting : Connecting before server s) :
    (do
      recordError server "No endpoint URL configured"
      throw ⟨.ValueError, "Server " ++ String.ofList (serverId server) ++ " has no endpoint_url"⟩ :
        Run ConnectResult).Meets watched s (Settled before) := by
  apply meets_bind.mpr
  refine (meets_recordError "No endpoint URL configured").mono ?_
  rintro result s' ⟨kept, flag, status⟩
  have settled (exc : Exc) : Settled before (.error exc) s' :=
    settled_undone ⟨kept.active.trans connecting.active, kept.contexts.trans connecting.contexts,
      status⟩ (flag.trans connecting.flag)
  cases result with
  | ok _ => exact settled _
  | error exc => exact settled exc

/-- What is left to do when CONNECTING is committed. -/
theorem meets_connecting (connecting : Connecting before server s) :
    (if server.serverType = .localPlugin then do
        recordConnected server []
        return ConnectResult.localPlugin
      else match server.endpointUrl.filter (!·.isEmpty) with
        | none => do
            recordError server "No endpoint URL configured"
            throw ⟨.ValueError,
              "Server " ++ String.ofList (serverId server) ++ " has no endpoint_url"⟩
        | some endpointUrl =>
            MonadExcept.tryCatch (openConnection server endpointUrl) (connectFailed server) :
      Run ConnectResult).Meets watched s (Settled before) := by
  split
  · exact meets_localPlugin connecting
  · split
    · exact meets_noEndpoint connecting
    · exact meets_attempt connecting _

/-- A failure before anything but the status is touched. -/
theorem settled_early {exc : Exc} {flag : Bool} {trial : Trial}
    (active : trial.world.active = before.active)
    (contexts : trial.world.contexts = before.contexts)
    (recording : trial.recordingFailed = false)
    (spared : flag = true ↔ trial.world.rows.status = .error) :
    Settled before (.error exc) (trial, flag) := by
  cases flag with
  | true => exact settled_undone ⟨active, contexts, fun _ => spared.mp rfl⟩ rfl
  | false =>
      refine settled_failed (fun undone => ?_) rfl
      have absurd := spared.mpr (undone.status recording)
      cases absurd

theorem meets_connect :
    (connect server).Meets watched (⟨⟨before, []⟩, false⟩, true) (Settled before) := by
  apply meets_bind.mpr
  apply meets_perform_safe fun _ => rfl
  intro answer faithful
  rw [Trial.observe_returned]
  have faithful : answer = (before.active.get (serverId server)).isSome := faithful
  cases answer with
  | true => exact settled_ok rfl
  | false =>
      have inactive : before.active.get (serverId server) = none := by
        rw [← Option.not_isSome_iff_eq_none, ← faithful]
        exact Bool.false_ne_true
      apply meets_bind.mpr
      apply meets_perform
      · intro _ _
        rw [Trial.observe_returned]
        apply meets_bind.mpr
        apply meets_perform
        · intro _ _
          rw [Trial.observe_returned]
          have connecting : Connecting before server
              (⟨⟨{ before with rows := before.rows.commit [.updateStatus .connecting] }, []⟩, false⟩,
                true) := ⟨rfl, inactive, rfl, rfl, rfl, rfl⟩
          exact meets_connecting connecting
        · intro exc applied possible
          rw [Trial.observe_raised rfl]
          apply settled_early
          · cases applied <;> rfl
          · cases applied <;> rfl
          · rfl
          · have written : writtenStatus [.updateStatus .connecting] ≠ some .error := by decide
            rw [Bool.true_and, decide_eq_true_eq]
            cases applied with
            | true =>
                have status : (before.rows.commit [.updateStatus .connecting]).status ≠ .error :=
                  by simp [ServerRows.status_commit, writtenStatus]
                constructor
                · rintro (absurd | ⟨-, absurd⟩)
                  · exact (written absurd).elim
                  · cases absurd
                · exact fun absurd => (status absurd).elim
            | false =>
                constructor
                · rintro (absurd | ⟨status, -⟩)
                  · exact (written absurd).elim
                  · exact status
                · exact fun status => Or.inr ⟨status, rfl⟩
      · intro exc applied possible
        rw [Trial.observe_raised rfl]
        apply settled_early
        · cases applied <;> rfl
        · cases applied <;> rfl
        · rfl
        · have spares : (ServerStatus.connecting = .error ∨ before.rows.status = .error) ↔
              before.rows.status = .error := by simp
          rw [Bool.true_and, decide_eq_true_eq]
          cases applied with
          | true => exact spares
          | false => exact spares

end ConnectAtomicity

end GrafuxMcp.Lifecycle
