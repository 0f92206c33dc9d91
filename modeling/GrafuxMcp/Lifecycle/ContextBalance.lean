import GrafuxMcp.Lifecycle.ServerState

/-! # The contexts of a client

Each connect of a `MCPClientWrapper` enters a transport and a session by hand, and the
disconnect leaves those that `_session` holds. A connect that fails in between holds
nothing, so what it has entered is never left. -/

namespace GrafuxMcp.Lifecycle.ContextBalance

open GrafuxMcp Program

/-! ### The ledger -/

inductive Mark where
  | entered (context : Context)
  | left (context : Context)
  deriving DecidableEq, Repr

/-- What became of the contexts of each connect. An `__aenter__` that raises enters
nothing; an `__aexit__` that raises was invoked. -/
structure Ledger where
  connects : Nat := 0
  /-- The connect whose contexts `_session` holds. -/
  kept : Option Nat := none
  marks : Nat → List Mark := fun _ => []

namespace Ledger

variable (ledger : Ledger)

def mark (connect : Nat) (mark : Mark) : Ledger :=
  { ledger with
    marks := Function.update ledger.marks connect (ledger.marks connect ++ [mark]) }

def leave (context : Context) : Ledger :=
  match ledger.kept with
  | some connect => ledger.mark connect (.left context)
  | none => ledger

def observe : RunEvent → Ledger
  | ⟨.importSdk, _⟩ => { ledger with connects := ledger.connects + 1 }
  | ⟨.enter _ context, .returned _⟩ => ledger.mark ledger.connects (.entered context)
  | ⟨.keepSession _, _⟩ => { ledger with kept := some ledger.connects }
  | ⟨.leave _ context, _⟩ => ledger.leave context
  | ⟨.dropSession _, _⟩ => { ledger with kept := none }
  | _ => ledger

/-- `if self._session` sees what the client keeps. -/
def Faithful : RunEvent → Prop
  | ⟨.hasSession _, .returned answer⟩ => answer = ledger.kept.isSome
  | _ => True

end Ledger

/-- Every context that was entered has been left once, the session before the
transport. -/
structure Balanced (marks : List Mark) : Prop where
  once : ∀ context, .entered context ∈ marks → marks.count (.left context) = 1
  order : .entered .session ∈ marks → [Mark.left .session, Mark.left .transport].Sublist marks

/-- The failures that strand a context. -/
def strands : RunEvent → Bool
  | ⟨.enter _ .session, .raised _ _ _⟩ | ⟨.initializeSession _, .raised _ _ _⟩
  | ⟨.leave _ .session, .raised _ _ _⟩ => true
  | _ => false

def Spared (_ : Ledger) (event : RunEvent) : Prop :=
  strands event = false

instance (ledger : Ledger) (event : RunEvent) : Decidable (Spared ledger event) :=
  inferInstanceAs (Decidable (strands event = false))

/-! ### Calls -/

inductive ClientCall where
  | connect (endpointUrl : String)
  | disconnect

/-- A call with the outcomes of its operations. -/
structure Invocation where
  call : ClientCall
  environment : Environment effects

def Ledger.MayBegin (ledger : Ledger) : ClientCall → Prop
  | .connect _ => ledger.kept = none
  | .disconnect => True

section Calls

variable (client : ClientId)

def ClientCall.program : ClientCall → Run Unit
  | .connect endpointUrl => do
      let _ ← MCPClientWrapper.connect client endpointUrl
  | .disconnect => MCPClientWrapper.disconnect client

/-- After a connect that raises and a disconnect that returns nothing should be open. -/
def ClientCall.returns : ClientCall → Bool
  | .connect _ => false
  | .disconnect => true

namespace Invocation

variable (invocation : Invocation)

def trace : List RunEvent :=
  (invocation.call.program client).trace invocation.environment

def result : Except Exc Unit :=
  (invocation.call.program client).result invocation.environment

def Settles : Prop :=
  (invocation.result client).isOk = invocation.call.returns

end Invocation

def Ledger.run (ledger : Ledger) (invocation : Invocation) : Ledger :=
  (invocation.trace client).foldl Ledger.observe ledger

/-- A connect begins without a session. -/
def Ledger.Admits (ledger : Ledger) (invocation : Invocation) : Prop :=
  ledger.MayBegin invocation.call ∧
    EachStep Ledger.observe Ledger.Faithful ledger (invocation.trace client)

end Calls

/-! ### The books -/

/-- The transport was entered and never left. -/
def Stranded (marks : List Mark) : Prop :=
  .entered .transport ∈ marks ∧ .left .transport ∉ marks

theorem Stranded.not_balanced {marks : List Mark} (stranded : Stranded marks) :
    ¬ Balanced marks := by
  intro balanced
  have once := balanced.once .transport stranded.1
  rw [List.count_eq_zero_of_not_mem stranded.2] at once
  omega

theorem balanced_nil : Balanced [] := by
  constructor
  · intro context entered
    cases entered
  · intro entered
    cases entered

/-- What a connect that has succeeded has marked. -/
def opened : List Mark := [.entered .transport, .entered .session]

theorem balanced_closed : Balanced (opened ++ [.left .session, .left .transport]) := by
  constructor
  · intro context _
    cases context <;> rfl
  · intro _
    exact List.sublist_append_right _ _

theorem stranded_half_closed : Stranded (opened ++ [.left .session]) := by
  constructor <;> decide

/-- The ledger with whether no failure has stranded a context. -/
abbrev Books := Ledger × Bool

/-- The connect that is kept is open. The others are balanced, or one of them is
stranded. -/
structure Sound (s : Books) : Prop where
  fresh : ∀ connect, s.1.connects < connect → s.1.marks connect = []
  kept : ∀ connect ∈ s.1.kept, connect ≤ s.1.connects ∧ s.1.marks connect = opened
  balanced : s.2 = true → ∀ connect, connect ∉ s.1.kept → Balanced (s.1.marks connect)
  stranded : s.2 = false → ∃ connect, connect ≤ s.1.connects ∧ connect ∉ s.1.kept ∧
    Stranded (s.1.marks connect)

/-- Between calls, when the client has no session. -/
structure Idle (s : Books) : Prop extends Sound s where
  idle : s.1.kept = none

theorem Idle.balanced_iff {s : Books} (idle : Idle s) :
    (∀ connect, Balanced (s.1.marks connect)) ↔ s.2 = true := by
  constructor
  · intro balanced
    cases flag : s.2 with
    | true => rfl
    | false =>
        rcases idle.stranded flag with ⟨connect, -, -, stranded⟩
        exact absurd (balanced connect) stranded.not_balanced
  · intro flag connect
    apply idle.balanced flag
    rw [idle.idle]
    exact Option.not_mem_none connect

/-- The books when a connect has come to these marks. -/
def during (s : Books) (marks : List Mark) (kept : Option Nat) (flag : Bool) : Books :=
  (⟨s.1.connects + 1, kept, Function.update s.1.marks (s.1.connects + 1) marks⟩, flag)

section During

variable {s : Books} {marks : List Mark}

theorem marks_during_of_ne {connect : Nat} (different : connect ≠ s.1.connects + 1)
    (kept : Option Nat) (flag : Bool) :
    (during s marks kept flag).1.marks connect = s.1.marks connect :=
  Function.update_of_ne different _ _

theorem marks_during_self (kept : Option Nat) (flag : Bool) :
    (during s marks kept flag).1.marks (s.1.connects + 1) = marks :=
  Function.update_self _ _ _

theorem fresh_during (idle : Idle s) (kept : Option Nat) (flag : Bool) (connect : Nat)
    (later : s.1.connects + 1 < connect) :
    (during s marks kept flag).1.marks connect = [] := by
  rw [marks_during_of_ne (by omega)]
  exact idle.fresh connect (by omega)

theorem stranded_during (idle : Idle s) (kept : Option Nat)
    (new : ∀ connect ∈ kept, connect = s.1.connects + 1) (flag : s.2 = false) :
    ∃ connect, connect ≤ s.1.connects + 1 ∧ connect ∉ kept ∧
      Stranded ((during s marks kept s.2).1.marks connect) := by
  rcases idle.stranded flag with ⟨connect, bound, -, stranded⟩
  refine ⟨connect, by omega, ?_, ?_⟩
  · intro member
    have same := new connect member
    omega
  · rw [marks_during_of_ne (by omega)]
    exact stranded

theorem balanced_during (idle : Idle s) (kept : Option Nat) (flag : s.2 = true)
    {connect : Nat} (different : connect ≠ s.1.connects + 1) :
    Balanced ((during s marks kept s.2).1.marks connect) := by
  rw [marks_during_of_ne different]
  exact idle.balanced_iff.mpr flag connect

/-- A connect that ends with nothing entered. -/
theorem idle_during_nil (idle : Idle s) : Idle (during s [] none s.2) where
  fresh := fresh_during idle none s.2
  kept := by
    intro connect member
    cases member
  balanced := by
    intro flag connect _
    by_cases same : connect = s.1.connects + 1
    · rw [same, marks_during_self]
      exact balanced_nil
    · exact balanced_during idle none flag same
  stranded := stranded_during idle none fun _ member => by cases member
  idle := rfl

theorem idle_during_stranded (idle : Idle s) (stranded : Stranded marks) :
    Idle (during s marks none false) where
  fresh := fresh_during idle none false
  kept := by
    intro connect member
    cases member
  balanced := by
    intro flag
    cases flag
  stranded := by
    intro _
    refine ⟨s.1.connects + 1, Nat.le_refl _, Option.not_mem_none _, ?_⟩
    rw [marks_during_self]
    exact stranded
  idle := rfl

theorem sound_during_opened (idle : Idle s) :
    Sound (during s opened (some (s.1.connects + 1)) s.2) where
  fresh := fresh_during idle _ s.2
  kept := by
    intro connect member
    cases member
    exact ⟨Nat.le_refl _, marks_during_self _ _⟩
  balanced := by
    intro flag connect other
    apply balanced_during idle _ flag
    intro same
    exact other (by rw [same]; rfl)
  stranded := by
    apply stranded_during idle
    intro connect member
    cases member
    rfl

end During

/-- The books when the contexts of a connect have come to these marks. -/
def closing (s : Books) (connect : Nat) (marks : List Mark) (kept : Option Nat) (flag : Bool) :
    Books :=
  (⟨s.1.connects, kept, Function.update s.1.marks connect marks⟩, flag)

section Closing

variable {s : Books} {connect : Nat} {marks : List Mark}

theorem marks_closing_of_ne {other : Nat} (different : other ≠ connect) (kept : Option Nat)
    (flag : Bool) : (closing s connect marks kept flag).1.marks other = s.1.marks other :=
  Function.update_of_ne different _ _

theorem marks_closing_self (kept : Option Nat) (flag : Bool) :
    (closing s connect marks kept flag).1.marks connect = marks :=
  Function.update_self _ _ _

theorem fresh_closing (sound : Sound s) (kept : connect ∈ s.1.kept) (flag : Bool) (other : Nat)
    (later : s.1.connects < other) : (closing s connect marks none flag).1.marks other = [] := by
  have bound := (sound.kept connect kept).1
  rw [marks_closing_of_ne (by omega)]
  exact sound.fresh other later

/-- Both exits were invoked. -/
theorem idle_closing (sound : Sound s) (kept : connect ∈ s.1.kept) :
    Idle (closing s connect (opened ++ [.left .session, .left .transport]) none s.2) where
  fresh := fresh_closing sound kept s.2
  kept := by
    intro other member
    cases member
  balanced := by
    intro flag other _
    by_cases same : other = connect
    · rw [same, marks_closing_self]
      exact balanced_closed
    · rw [marks_closing_of_ne same]
      apply sound.balanced flag
      intro member
      exact same (Option.mem_unique member kept)
  stranded := by
    intro flag
    rcases sound.stranded flag with ⟨other, bound, apart, stranded⟩
    refine ⟨other, bound, Option.not_mem_none _, ?_⟩
    rw [marks_closing_of_ne]
    · exact stranded
    · intro same
      exact apart (same ▸ kept)
  idle := rfl

/-- The exit of the session raised, so that of the transport is skipped. -/
theorem idle_closing_stranded (sound : Sound s) (kept : connect ∈ s.1.kept) :
    Idle (closing s connect (opened ++ [.left .session]) none false) where
  fresh := fresh_closing sound kept false
  kept := by
    intro other member
    cases member
  balanced := by
    intro flag
    cases flag
  stranded := by
    intro _
    refine ⟨connect, (sound.kept connect kept).1, Option.not_mem_none _, ?_⟩
    rw [marks_closing_self]
    exact stranded_half_closed
  idle := rfl

end Closing

/-! ### The calls keep the books -/

/-- Whether every failure so far stranded nothing. -/
def watched : Contract effects Books where
  observe := watch Ledger.observe Spared
  assume s event := s.1.Faithful event
  guarantee _ _ := True

section Specs

variable {s : Books} {client : ClientId}

theorem observe_watched (event : RunEvent) :
    watched.observe s event = (s.1.observe event, bif strands event then false else s.2) := by
  cases stranding : strands event <;> simp [watched, watch, Spared, stranding]

theorem meets_perform {op : Op} {post : Except Exc op.Answer → Books → Prop}
    (returned : ∀ answer, s.1.Faithful ⟨op, .returned answer⟩ →
      post (.ok answer) (s.1.observe ⟨op, .returned answer⟩,
        bif strands ⟨op, .returned answer⟩ then false else s.2))
    (raised : ∀ exc applied (possible : op.mayRaise exc = true),
      post (.error exc) (s.1.observe ⟨op, .raised exc applied possible⟩,
        bif strands ⟨op, .raised exc applied possible⟩ then false else s.2)) :
    (perform op).Meets watched s post := by
  apply meets_call
  intro outcome faithful
  refine ⟨trivial, ?_⟩
  rw [observe_watched]
  cases outcome with
  | returned answer => exact returned answer faithful
  | raised exc applied possible => exact raised exc applied possible

theorem mark_during (marks : List Mark) (flag : Bool) (mark : Mark) :
    ((during s marks none flag).1.mark (s.1.connects + 1) mark, flag) =
      during s (marks ++ [mark]) none flag := by
  simp only [Ledger.mark, during, Function.update_self, Function.update_idem]

theorem mark_closing (connect : Nat) (marks : List Mark) (kept : Option Nat) (flag : Bool)
    (mark : Mark) :
    ((closing s connect marks kept flag).1.mark connect mark, flag) =
      closing s connect (marks ++ [mark]) kept flag := by
  simp only [Ledger.mark, closing, Function.update_self, Function.update_idem]

/-- A connect that raises leaves no session; one that returns may. -/
def Connected (α : Type) (result : Except Exc α) (s : Books) : Prop :=
  Sound s ∧ (result.isOk = false → Idle s)

theorem Idle.connected {α : Type} {result : Except Exc α} (idle : Idle s) :
    Connected α result s :=
  ⟨idle.toSound, fun _ => idle⟩

/-- The `try` of a connect. -/
theorem meets_enterContexts (idle : Idle s) :
    (do
      perform .importSdk
      perform (.enter client .transport)
      perform (.enter client .session)
      let result ← perform (.initializeSession client)
      perform (.keepSession client)
      return result : Run (List (String × Value))).Meets watched s (Connected _) := by
  have begun : ({ s.1 with connects := s.1.connects + 1 }, s.2) = during s [] none s.2 := by
    have unmarked : Function.update s.1.marks (s.1.connects + 1) [] = s.1.marks := by
      rw [Function.update_eq_self_iff]
      exact (idle.fresh _ (Nat.lt_succ_self _)).symm
    rw [during, unmarked, ← idle.idle]
  have stranded (marks : List Mark) (entered : Stranded marks) :
      Idle (during s marks none false) := idle_during_stranded idle entered
  apply meets_bind.mpr
  apply meets_perform
  · intro _ _
    change Meets _ _ ({ s.1 with connects := s.1.connects + 1 }, s.2) _
    rw [begun]
    apply meets_bind.mpr
    apply meets_perform
    · intro _ _
      change Meets _ _ ((during s [] none s.2).1.mark (s.1.connects + 1) _, s.2) _
      rw [mark_during]
      apply meets_bind.mpr
      apply meets_perform
      · intro _ _
        change Meets _ _ ((during s _ none s.2).1.mark (s.1.connects + 1) _, s.2) _
        rw [mark_during]
        apply meets_bind.mpr
        apply meets_perform
        · intro result _
          apply meets_bind.mpr
          apply meets_perform
          · intro _ _
            exact ⟨sound_during_opened idle, fun absurd => by cases absurd⟩
          · intro exc applied possible
            cases possible
        · intro exc applied possible
          exact (stranded _ (by constructor <;> decide)).connected
      · intro exc applied possible
        exact (stranded _ (by constructor <;> decide)).connected
    · intro exc applied possible
      exact (idle_during_nil idle).connected
  · intro exc applied possible
    change Connected _ _ ({ s.1 with connects := s.1.connects + 1 }, s.2)
    rw [begun]
    exact (idle_during_nil idle).connected

/-- The probe opens nothing. -/
theorem meets_httpProbe (idle : Idle s) :
    (MCPClientWrapper.httpProbe client).Meets watched s (Connected _) := by
  apply meets_tryCatch.mpr
  apply meets_perform
  · intro _ _
    exact idle.connected
  · intro exc applied possible
    dsimp only [orElse]
    split
    · exact idle.connected
    · exact idle.connected

theorem meets_connect (idle : Idle s) (endpointUrl : String) :
    (MCPClientWrapper.connect client endpointUrl).Meets watched s (Connected _) := by
  apply meets_tryCatch.mpr
  refine (meets_enterContexts idle).mono ?_
  intro result s connected
  cases result with
  | ok capabilities => exact connected
  | error exc =>
      have idle : Idle s := connected.2 rfl
      dsimp only [orElse]
      split
      · exact meets_httpProbe idle
      · split
        · exact idle.connected
        · exact idle.connected

/-- The `try` of a disconnect. -/
theorem meets_closeContexts {connect : Nat} (sound : Sound s) (kept : s.1.kept = some connect) :
    (MCPClientWrapper.closeContexts client).Meets watched s fun _ s' =>
      s' = closing s connect (opened ++ [.left .session, .left .transport]) (some connect) s.2 ∨
        s' = closing s connect (opened ++ [.left .session]) (some connect) false := by
  have leave (flag : Bool) : (s.1.leave .session, flag) =
      closing s connect (opened ++ [.left .session]) (some connect) flag := by
    simp only [Ledger.leave, Ledger.mark, closing, kept, (sound.kept connect kept).2]
  have leaveBoth : ((closing s connect (opened ++ [.left .session]) (some connect) s.2).1.leave
        .transport, s.2) =
      closing s connect (opened ++ [.left .session, .left .transport]) (some connect) s.2 :=
    mark_closing (s := s) connect (opened ++ [Mark.left .session]) (some connect) s.2 (.left .transport)
  apply meets_tryCatch.mpr
  apply meets_bind.mpr
  apply meets_perform
  · intro _ _
    change Meets _ _ (s.1.leave .session, s.2) _
    rw [leave]
    apply meets_perform
    · intro _ _
      exact Or.inl leaveBoth
    · intro exc applied possible
      dsimp only [orElse]
      split
      · exact Or.inl leaveBoth
      · exact Or.inl leaveBoth
  · intro exc applied possible
    dsimp only [andThen, orElse]
    split
    · exact Or.inr (leave false)
    · exact Or.inr (leave false)

theorem meets_disconnect (sound : Sound s) :
    (MCPClientWrapper.disconnect client).Meets watched s fun _ s' => Idle s' := by
  apply meets_bind.mpr
  apply meets_perform
  · intro answer faithful
    have faithful : answer = s.1.kept.isSome := faithful
    change Meets _ _ s _
    cases kept : s.1.kept with
    | none =>
        rw [faithful, kept]
        exact ⟨sound, kept⟩
    | some connect =>
        rw [faithful, kept]
        apply meets_tryFinally
        refine (meets_closeContexts sound kept).mono ?_
        intro result s' closed
        have dropped : Idle ({ s'.1 with kept := none }, s'.2) := by
          rcases closed with rfl | rfl
          · exact idle_closing sound kept
          · exact idle_closing_stranded sound kept
        apply meets_perform
        · intro _ _
          cases result with
          | ok _ => exact dropped
          | error _ => exact dropped
        · intro exc applied possible
          cases possible
  · intro exc applied possible
    cases possible

end Specs

/-! ### Every sequence of calls -/

section Sequences

variable {client : ClientId} {ledger : Ledger} {flag : Bool}

/-- Nothing that happened in the call strands a context. -/
def Invocation.Spares (client : ClientId) (invocation : Invocation) : Prop :=
  ∀ event ∈ invocation.trace client, strands event = false

instance (invocation : Invocation) : Decidable (invocation.Spares client) :=
  inferInstanceAs (Decidable (∀ event ∈ invocation.trace client, strands event = false))

theorem meets_program {s : Books} {call : ClientCall} (sound : Sound s)
    (begins : s.1.MayBegin call) :
    (call.program client).Meets watched s fun result s' =>
      Sound s' ∧ (result.isOk = call.returns → Idle s') := by
  cases call with
  | connect endpointUrl =>
      apply meets_bind.mpr
      refine (meets_connect ⟨sound, begins⟩ endpointUrl).mono ?_
      intro result s' connected
      cases result with
      | ok _ => exact ⟨connected.1, fun absurd => by cases absurd⟩
      | error _ => exact connected
  | disconnect =>
      refine (meets_disconnect sound).mono ?_
      intro _ _ idle
      exact ⟨idle.toSound, fun _ => idle⟩

theorem sound_run {invocation : Invocation} (sound : Sound (ledger, flag))
    (admits : ledger.Admits client invocation) :
    Sound (ledger.run client invocation, flag && decide (invocation.Spares client)) ∧
      (invocation.Settles client →
        Idle (ledger.run client invocation, flag && decide (invocation.Spares client))) := by
  have assumed : EachStep watched.observe watched.assume (ledger, flag)
      (invocation.trace client) := (eachStep_watch flag).mpr admits.2
  have ended := ((meets_program sound admits.1).sound invocation.environment assumed).2
  have spares : decide (EachStep Ledger.observe Spared ledger (invocation.trace client)) =
      decide (invocation.Spares client) :=
    decide_eq_decide.mpr eachStep_const_iff
  have reached : (invocation.trace client).foldl watched.observe (ledger, flag) =
      (ledger.run client invocation, flag && decide (invocation.Spares client)) := by
    rw [← spares]
    exact foldl_watch ledger flag _
  rw [Invocation.trace] at reached
  rw [reached] at ended
  exact ended

theorem sound_sequence {invocations : List Invocation} (sound : Sound (ledger, flag))
    (admits : EachStep (Ledger.run client) (Ledger.Admits client) ledger invocations) :
    Sound (invocations.foldl (Ledger.run client) ledger,
      flag && decide (∀ invocation ∈ invocations, invocation.Spares client)) := by
  induction invocations generalizing ledger flag with
  | nil => simpa using sound
  | cons invocation invocations induction =>
      have parts := (eachStep_cons _ _).mp admits
      have rest := induction (sound_run sound parts.1).1 parts.2
      simpa only [List.foldl_cons, List.forall_mem_cons, Bool.decide_and, Bool.and_assoc] using rest

theorem sound_initial : Sound ({}, true) where
  fresh _ _ := rfl
  kept := by
    intro connect member
    cases member
  balanced _ _ _ := balanced_nil
  stranded := by
    intro absurd
    cases absurd

end Sequences

instance (ledger : Ledger) : (event : RunEvent) → Decidable (ledger.Faithful event)
  | ⟨.hasSession _, .returned answer⟩ => decEq answer ledger.kept.isSome
  | ⟨.hasSession _, .raised _ _ _⟩ | ⟨.contains _, _⟩ | ⟨.pop _, _⟩ | ⟨.store _ _, _⟩ | ⟨.now, _⟩
  | ⟨.updateStatus _ _, _⟩ | ⟨.selectConnected _, _⟩ | ⟨.add _, _⟩ | ⟨.setDisconnected _ _, _⟩
  | ⟨.commit, _⟩ | ⟨.newClient _ _, _⟩ | ⟨.importSdk, _⟩ | ⟨.enter _ _, _⟩
  | ⟨.initializeSession _, _⟩ | ⟨.keepSession _, _⟩ | ⟨.leave _ _, _⟩ | ⟨.dropSession _, _⟩
  | ⟨.probe _, _⟩ | ⟨.cacheSet _ _ _, _⟩ => .isTrue trivial

instance (ledger : Ledger) : (call : ClientCall) → Decidable (ledger.MayBegin call)
  | .connect _ => inferInstanceAs (Decidable (ledger.kept = none))
  | .disconnect => .isTrue trivial

instance (client : ClientId) (ledger : Ledger) (invocation : Invocation) :
    Decidable (ledger.Admits client invocation) :=
  inferInstanceAs (Decidable (_ ∧ _))

instance (client : ClientId) (invocation : Invocation) : Decidable (invocation.Settles client) :=
  inferInstanceAs (Decidable (_ = _))

/-- A connect in which `exc` is raised at `place`. -/
def connectRaising (place : Op → Bool) (exc : Exc) : Invocation where
  call := .connect "http://localhost"
  environment := raisingAt place exc (undisturbed ⟨{}, []⟩)

/-- A disconnect of the client 0 in which the transport's exit fails. -/
def disconnectFailing : Invocation where
  call := .disconnect
  environment := raisingAt (fun op => op matches .leave _ .transport) ⟨.OSError, "broken pipe"⟩
    (undisturbed ⟨{ sessions := [0] }, []⟩)

/-- The transport is refused once; then a session is opened and closed. -/
def refusedOnce : List Invocation :=
  [connectRaising (fun op => op matches .enter _ .transport) ⟨.OSError, "refused"⟩,
    connectRaising (fun _ => false) ⟨.OSError, "refused"⟩]

end GrafuxMcp.Lifecycle.ContextBalance
