import GrafuxMcp.Execution.InvocationRow
import GrafuxMcp.Execution.RunPoints

/-! # How the event stream of a run ends

Subscribers stop at the first event with `final` set. The DONE path publishes
its audit log after that event, and the CANCELLED paths publish no such event.
-/

namespace GrafuxMcp.Execution

open GrafuxMcp

/-- What a run has done to its row and sent on its channel. -/
structure Stream where
  row : Row
  published : List BusEvent

namespace Stream

def created : Stream := ⟨Row.created, []⟩

/-- The event that reaches the subscribers of a channel. -/
def sentOn (channel : Text) (event : RunEvent) : List BusEvent :=
  match event.op with
  | .publish target payload =>
      if target = channel ∧ event.outcome.applied = true then [payload] else []
  | _ => []

def observe (channel : Text) (stream : Stream) (event : RunEvent) : Stream :=
  ⟨stream.row.observe event, stream.published ++ sentOn channel event⟩

end Stream

/-- The kind of the final event matches the status, and the result event
carries what the run returned. -/
def MatchesStatus (last : BusEvent) (result : Except Exc Value) :
    Option InvocationStatus → Prop
  | some .done =>
      last.type = .result ∧
        ∃ value, result = .ok value ∧ last.data = .result value
  | some .failed | some .cancelled => last.type = .error
  | _ => False

/-- Exactly one final event was published, as the last one, and it matches the
committed status. -/
def EndsTruthfully (stream : Stream) (result : Except Exc Value) : Prop :=
  ∃ earlier last, stream.published = earlier ++ [last] ∧ last.final = true ∧
    (∀ event ∈ earlier, event.final = false) ∧
    MatchesStatus last result stream.row.status

/-- The bus is reachable: publishing raises no error of the transport. -/
def BusReachable (event : RunEvent) : Prop :=
  event.op.isPublish = true →
    ∀ exc ∈ event.outcome.exception?, exc.isException = false

/-- What keeps a run from failing in good order: the invocation is cancelled, a
result is serialised to be published, an interrupt arrives anywhere but behind
the final error event, or FAILED is not written. -/
def Disturbs (row : Row) : (op : Op) → Outcome effects op → Bool
  | .isSet, .returned cancelled => cancelled
  | .dumps payload, .returned _ => decide (payload.type = .result)
  | _, .returned _ => false
  | .publish _ payload, .raised exc applied _ =>
      !exc.isException && !(decide (payload.type = .error) && applied)
  | .execute update, .raised exc _ _ =>
      !exc.isException || decide (update.status = .failed)
  | .commit, .raised exc _ _ =>
      !exc.isException || decide (row.pending = some .failed)
  | _, .raised exc _ _ => !exc.isException

def FailsUndisturbed (stream : Stream) (event : RunEvent) : Prop :=
  Disturbs stream.row event.op event.outcome = false

instance (event : RunEvent) : Decidable (BusReachable event) :=
  inferInstanceAs (Decidable (_ → ∀ _ ∈ _, _))

instance (stream : Stream) (event : RunEvent) :
    Decidable (FailsUndisturbed stream event) :=
  inferInstanceAs (Decidable (_ = _))

namespace EventStream

/-- The stream and whether the run was undisturbed so far. -/
def contract (job : Job) : Contract effects (Stream × Bool) where
  observe := watch (Stream.observe (invocationEvents job.invocationId))
    FailsUndisturbed
  assume := fun _ event => BusReachable event
  guarantee := fun _ _ => True

def NoneFinal (stream : Stream) : Prop :=
  ∀ event ∈ stream.published, event.final = false

def OnlyResultsFinal (stream : Stream) : Prop :=
  ∀ event ∈ stream.published, event.final = true → event.type = .result

/-- If a terminal status was committed, the stream ends truthfully exactly if
the run was undisturbed. -/
def Verdict (result : Except Exc Value) (s : Stream × Bool) : Prop :=
  s.1.row.isTerminal = true → (EndsTruthfully s.1 result ↔ s.2 = true)

/-- The stream at each point, where a disturbed run can still be. -/
def assertion : Point → Stream × Bool → Prop
  | .executing .running, s =>
      s.2 = true ∧ NoneFinal s.1 ∧ s.1.row.status = some .pending
  | .committing .running, s =>
      s.2 = true ∧ NoneFinal s.1 ∧ s.1.row.status = some .pending ∧
        s.1.row.pending = some .running
  | .executing (.cancelled _), s => s.2 = false ∧ OnlyResultsFinal s.1
  | .committing (.cancelled _), s =>
      s.2 = false ∧ OnlyResultsFinal s.1 ∧ s.1.row.pending = some .cancelled
  | .sending (.result _ _), s | .serialising (.completed _ _), s
  | .sending (.completed _ _), s => s.2 = false ∧ OnlyResultsFinal s.1
  | .committing write, s =>
      s.2 = true ∧ NoneFinal s.1 ∧ s.1.row.pending = some write.status
  | .serialising (.error _), s | .sending (.error _), s =>
      s.2 = true ∧ NoneFinal s.1 ∧ s.1.row.status = some .failed
  | .ended result, s => Verdict result s
  | _, s => s.2 = true ∧ NoneFinal s.1

variable {stream : Stream} {s : Stream × Bool} {job : Job} {exc : Exc}

theorem onlyResultsFinal_of_noneFinal (none_ : NoneFinal stream) :
    OnlyResultsFinal stream := by
  intro event member final
  rw [none_ event member] at final
  cases final

theorem not_truthful_of_error (only : OnlyResultsFinal stream) :
    ¬ EndsTruthfully stream (.error exc) := by
  rintro ⟨earlier, last, published, final, -, matching⟩
  have isResult : last.type = .result := only last (by simp [published]) final
  unfold MatchesStatus at matching
  split at matching
  · obtain ⟨-, value, raised, -⟩ := matching
    cases raised
  · rw [isResult] at matching
    cases matching
  · rw [isResult] at matching
    cases matching
  · exact matching

theorem not_truthful_of_cancelled (result : Except Exc Value)
    (only : OnlyResultsFinal stream)
    (cancelled : stream.row.status = some .cancelled) :
    ¬ EndsTruthfully stream result := by
  rintro ⟨earlier, last, published, final, -, matching⟩
  have isResult : last.type = .result := only last (by simp [published]) final
  rw [cancelled] at matching
  change last.type = .error at matching
  rw [isResult] at matching
  cases matching

theorem not_truthful_of_last (result : Except Exc Value) {earlier : List BusEvent}
    {last : BusEvent} (published : stream.published = earlier ++ [last])
    (open_ : last.final = false) : ¬ EndsTruthfully stream result := by
  rintro ⟨earlier', last', published', final, -, -⟩
  rw [published] at published'
  have same : last = last' := (List.append_inj' published' rfl).2 |> List.singleton_inj.mp
  rw [← same, open_] at final
  cases final

theorem verdict_of_disturbed {result : Except Exc Value} (disturbed : s.2 = false)
    (not : ¬ EndsTruthfully s.1 result) : Verdict result s := by
  intro _
  simp [not, disturbed]

theorem verdict_of_open {result : Except Exc Value}
    (open_ : s.1.row.isTerminal = false) : Verdict result s := by
  intro terminal
  rw [open_] at terminal
  cases terminal

/-! ## Steps -/

section Steps

variable {event : RunEvent}

theorem flag_observe (job : Job) (stream : Stream) (event : RunEvent) :
    ((contract job).observe (stream, true) event).2 =
      !Disturbs stream.row event.op event.outcome := by
  cases disturbs : Disturbs stream.row event.op event.outcome with
  | false =>
      have undisturbed : FailsUndisturbed stream event := disturbs
      exact congrArg Prod.snd (watch_of_holds undisturbed true)
  | true =>
      have disturbed : ¬ FailsUndisturbed stream event := by
        simp [FailsUndisturbed, disturbs]
      exact congrArg Prod.snd (watch_of_not_holds disturbed true)

theorem noneFinal_observe (none_ : NoneFinal s.1)
    (sent : ∀ payload ∈ Stream.sentOn (invocationEvents job.invocationId) event,
      payload.final = false) :
    NoneFinal ((contract job).observe s event).1 := by
  intro payload member
  rcases List.mem_append.mp member with earlier | now
  · exact none_ payload earlier
  · exact sent payload now

theorem onlyResultsFinal_observe (only : OnlyResultsFinal s.1)
    (sent : ∀ payload ∈ Stream.sentOn (invocationEvents job.invocationId) event,
      payload.final = true → payload.type = .result) :
    OnlyResultsFinal ((contract job).observe s event).1 := by
  intro payload member
  rcases List.mem_append.mp member with earlier | now
  · exact only payload earlier
  · exact sent payload now

theorem noneFinal_silent (none_ : NoneFinal s.1)
    (silent : Stream.sentOn (invocationEvents job.invocationId) event = []) :
    NoneFinal ((contract job).observe s event).1 := by
  apply noneFinal_observe none_
  rw [silent]
  simp

theorem onlyResultsFinal_silent (only : OnlyResultsFinal s.1)
    (silent : Stream.sentOn (invocationEvents job.invocationId) event = []) :
    OnlyResultsFinal ((contract job).observe s event).1 := by
  apply onlyResultsFinal_observe only
  rw [silent]
  simp

theorem sentOn_publish {channel target : Text} {payload sent : BusEvent}
    {outcome : Outcome effects (.publish target payload)}
    (member : sent ∈ Stream.sentOn channel ⟨.publish target payload, outcome⟩) :
    sent = payload := by
  unfold Stream.sentOn at member
  dsimp only at member
  split at member
  · exact List.mem_singleton.mp member
  · cases member

theorem published_observe {payload : BusEvent}
    {outcome : Outcome effects
      (.publish (invocationEvents job.invocationId) payload)}
    (applied : outcome.applied = true) :
    ((contract job).observe s ⟨.publish _ payload, outcome⟩).1.published =
      s.1.published ++ [payload] := by
  change _ ++ Stream.sentOn _ _ = _
  simp [Stream.sentOn, applied]

theorem assertion_handled (turn : Turn) (none_ : NoneFinal s.1)
    (flag : s.2 = exc.isException) :
    assertion (Point.handled job turn exc) s := by
  unfold Point.handled
  split
  · next cancelled =>
      rw [Exc.not_isException_of_isCancelled cancelled] at flag
      exact ⟨flag, onlyResultsFinal_of_noneFinal none_⟩
  · split
    · next timeout =>
        rw [Exc.isException_of_isinstance_timeout timeout] at flag
        exact ⟨flag, none_⟩
    · split
      · next isException =>
          rw [isException] at flag
          exact ⟨flag, none_⟩
      · next interrupt =>
          have disturbed : s.2 = false := by simpa [interrupt] using flag
          exact verdict_of_disturbed disturbed
            (not_truthful_of_error (onlyResultsFinal_of_noneFinal none_))

theorem assertion_cancelled (turn : Turn) (cancelled : exc.isCancelled = true)
    (disturbed : s.2 = false) (only : OnlyResultsFinal s.1) :
    assertion (Point.handled job turn exc) s := by
  unfold Point.handled
  rw [if_pos cancelled]
  exact ⟨disturbed, only⟩

theorem assertion_goOn (lastError : Option Exc) (attempts : List Nat)
    (undisturbed : s.2 = true) (none_ : NoneFinal s.1) :
    assertion (Point.goOn lastError attempts) s := by
  cases attempts with
  | nil => exact ⟨undisturbed, none_⟩
  | cons attempt rest => exact ⟨undisturbed, none_⟩

/-- An exception that leaves the run after a disturbance. -/
theorem assertion_left (disturbed : s.2 = false) (only : OnlyResultsFinal s.1) :
    assertion (.ended (.error exc)) s :=
  verdict_of_disturbed disturbed (not_truthful_of_error only)

theorem kept_executing (job : Job) (write : Write) (flag : Bool)
    (holds : assertion (.executing write) (stream, flag)) :
    Program.KeepsAssertion (contract job) assertion Verdict
      (Point.next job (.executing write)) (stream, flag) := by
  intro outcome _
  refine ⟨trivial, ?_⟩
  have unchanged := stream.row.status_observe_execute _ outcome
  cases write with
  | running =>
      obtain ⟨rfl, none_, pending⟩ := holds
      cases outcome with
      | returned _ =>
          exact ⟨rfl, noneFinal_silent none_ rfl, unchanged.trans pending, rfl⟩
      | raised exc applied possible =>
          apply verdict_of_open
          change Row.isTerminal (stream.row.observe _) = false
          rw [Row.isTerminal, unchanged, pending]
          rfl
  | done turn result =>
      obtain ⟨rfl, none_⟩ := holds
      cases outcome with
      | returned _ => exact ⟨rfl, noneFinal_silent none_ rfl, rfl⟩
      | raised exc applied possible =>
          apply assertion_handled turn (noneFinal_silent none_ rfl)
          rw [flag_observe]
          simp [Disturbs, Write.update]
  | cancelled turn =>
      obtain ⟨rfl, only⟩ := holds
      cases outcome with
      | returned _ => exact ⟨rfl, onlyResultsFinal_silent only rfl, rfl⟩
      | raised exc applied possible =>
          exact assertion_left rfl (onlyResultsFinal_silent only rfl)
  | failed error =>
      obtain ⟨rfl, none_⟩ := holds
      cases outcome with
      | returned _ => exact ⟨rfl, noneFinal_silent none_ rfl, rfl⟩
      | raised exc applied possible =>
          apply assertion_left
          · rw [flag_observe]
            simp [Disturbs, Write.update]
          · exact onlyResultsFinal_of_noneFinal (noneFinal_silent none_ rfl)

theorem kept_committing (job : Job) (write : Write) (flag : Bool)
    (holds : assertion (.committing write) (stream, flag)) :
    Program.KeepsAssertion (contract job) assertion Verdict
      (Point.next job (.committing write)) (stream, flag) := by
  intro outcome _
  refine ⟨trivial, ?_⟩
  have status := stream.row.status_observe_commit outcome
  cases write with
  | running =>
      obtain ⟨rfl, none_, committed, pending⟩ := holds
      rw [committed, pending] at status
      cases outcome with
      | returned _ => exact ⟨rfl, noneFinal_silent none_ rfl⟩
      | raised exc applied possible =>
          apply verdict_of_open
          change Row.isTerminal (stream.row.observe _) = false
          rw [Row.isTerminal, status]
          cases applied <;> rfl
  | done turn result =>
      obtain ⟨rfl, none_, pending⟩ := holds
      cases outcome with
      | returned _ => exact ⟨rfl, noneFinal_silent none_ rfl⟩
      | raised exc applied possible =>
          have pending : stream.row.pending = some .done := pending
          apply assertion_handled turn (noneFinal_silent none_ rfl)
          rw [flag_observe]
          simp [Disturbs, pending]
  | cancelled turn =>
      obtain ⟨rfl, only, pending⟩ := holds
      rw [pending] at status
      cases outcome with
      | returned _ =>
          exact verdict_of_disturbed rfl (not_truthful_of_cancelled _
            (onlyResultsFinal_silent only rfl) status)
      | raised exc applied possible =>
          exact assertion_left rfl (onlyResultsFinal_silent only rfl)
  | failed error =>
      obtain ⟨rfl, none_, pending⟩ := holds
      have pending : stream.row.pending = some .failed := pending
      rw [pending] at status
      cases outcome with
      | returned _ => exact ⟨rfl, noneFinal_silent none_ rfl, status⟩
      | raised exc applied possible =>
          apply assertion_left
          · rw [flag_observe]
            simp [Disturbs, pending]
          · exact onlyResultsFinal_of_noneFinal (noneFinal_silent none_ rfl)

theorem kept_serialising (job : Job) (message : Message) (flag : Bool)
    (holds : assertion (.serialising message) (stream, flag)) :
    Program.KeepsAssertion (contract job) assertion Verdict
      (Point.next job (.serialising message)) (stream, flag) := by
  intro outcome _
  refine ⟨trivial, ?_⟩
  cases message with
  | result turn value =>
      obtain ⟨rfl, none_⟩ := holds
      cases outcome with
      | returned _ =>
          exact ⟨rfl, onlyResultsFinal_of_noneFinal (noneFinal_silent none_ rfl)⟩
      | raised exc applied possible =>
          have isException : exc.isException = true := possible
          apply assertion_handled turn (noneFinal_silent none_ rfl)
          rw [flag_observe]
          simp [Disturbs, isException]
  | completed turn value =>
      obtain ⟨rfl, only⟩ := holds
      cases outcome with
      | returned _ => exact ⟨rfl, onlyResultsFinal_silent only rfl⟩
      | raised exc applied possible => cases possible
  | started =>
      obtain ⟨rfl, none_⟩ := holds
      cases outcome with
      | returned _ => exact ⟨rfl, noneFinal_silent none_ rfl⟩
      | raised exc applied possible => cases possible
  | retrying turn =>
      obtain ⟨rfl, none_⟩ := holds
      cases outcome with
      | returned _ => exact ⟨rfl, noneFinal_silent none_ rfl⟩
      | raised exc applied possible => cases possible
  | failure turn lastError stop =>
      obtain ⟨rfl, none_⟩ := holds
      cases outcome with
      | returned _ => exact ⟨rfl, noneFinal_silent none_ rfl⟩
      | raised exc applied possible => cases possible
  | error message =>
      obtain ⟨rfl, none_, failed⟩ := holds
      cases outcome with
      | returned _ => exact ⟨rfl, noneFinal_silent none_ rfl, failed⟩
      | raised exc applied possible => cases possible

/-- After a log the run goes on, or it was interrupted by a cancellation. -/
theorem kept_sending_log (job : Job) {message : Message}
    (none_ : NoneFinal stream) (isLog : (message.payload job).type = .log)
    (open_ : (message.payload job).final = false)
    (goesOn : ∀ s, s.2 = true → NoneFinal s.1 →
      assertion (Point.sent message) s)
    (leaves : ∀ s exc, exc.isCancelled = true → s.2 = false →
      OnlyResultsFinal s.1 →
        assertion (Point.raised job exc message.guardedBy) s) :
    Program.KeepsAssertion (contract job) assertion Verdict
      (Point.next job (.sending message)) (stream, true) := by
  intro outcome reachable
  refine ⟨trivial, ?_⟩
  have none_ : NoneFinal ((contract job).observe (stream, true)
      ⟨_, outcome⟩).1 := by
    apply noneFinal_observe none_
    intro payload member
    rw [sentOn_publish member]
    exact open_
  cases outcome with
  | returned _ => exact goesOn _ rfl none_
  | raised exc applied possible =>
      have interrupt : exc.isException = false := reachable rfl exc rfl
      have cancelled : exc.isCancelled = true := by
        simpa [Op.mayRaise, interrupt] using possible
      change assertion (if exc.isException = true then _ else _) _
      rw [if_neg (by simp [interrupt])]
      apply leaves _ exc cancelled
      · rw [flag_observe]
        simp [Disturbs, interrupt, isLog]
      · exact onlyResultsFinal_of_noneFinal none_

/-- Behind the serialised result a cancellation writes CANCELLED. -/
theorem assertion_cancelled_sending {message : Message} {turn : Turn}
    {applied : Bool} {possible}
    (guarded : message.guardedBy = some turn)
    (only : OnlyResultsFinal ((contract job).observe (stream, false)
      ⟨.publish (invocationEvents job.invocationId) (message.payload job),
        .raised exc applied possible⟩).1)
    (reachable : BusReachable
      ⟨.publish (invocationEvents job.invocationId) (message.payload job),
        .raised exc applied possible⟩) :
    assertion (if exc.isException = true then Point.sent message
        else Point.raised job exc message.guardedBy)
      ((contract job).observe (stream, false)
        ⟨.publish (invocationEvents job.invocationId) (message.payload job),
          .raised exc applied possible⟩) := by
  have interrupt : exc.isException = false := reachable rfl exc rfl
  have cancelled : exc.isCancelled = true := by
    simpa [Op.mayRaise, interrupt] using possible
  rw [if_neg (by simp [interrupt]), guarded]
  exact assertion_cancelled turn cancelled rfl only

theorem kept_sending (job : Job) (message : Message) (flag : Bool)
    (holds : assertion (.sending message) (stream, flag)) :
    Program.KeepsAssertion (contract job) assertion Verdict
      (Point.next job (.sending message)) (stream, flag) := by
  cases message with
  | started =>
      obtain ⟨rfl, none_⟩ := holds
      apply kept_sending_log job none_ rfl rfl
      · exact fun s => assertion_goOn none (List.range (maxRetries + 1))
      · exact fun _ _ _ => assertion_left
  | retrying turn =>
      obtain ⟨rfl, none_⟩ := holds
      apply kept_sending_log job none_ rfl rfl
      · exact fun _ undisturbed none_ => ⟨undisturbed, none_⟩
      · exact fun _ _ cancelled => assertion_cancelled turn cancelled
  | failure turn lastError stop =>
      obtain ⟨rfl, none_⟩ := holds
      apply kept_sending_log job none_ rfl rfl
      · intro s undisturbed none_
        cases stop <;> exact ⟨undisturbed, none_⟩
      · exact fun _ _ _ => assertion_left
  | result turn value =>
      obtain ⟨rfl, only⟩ := holds
      intro outcome reachable
      refine ⟨trivial, ?_⟩
      have only : OnlyResultsFinal ((contract job).observe (stream, false)
          ⟨_, outcome⟩).1 := by
        apply onlyResultsFinal_observe only
        intro payload member _
        rw [sentOn_publish member]
        rfl
      cases outcome with
      | returned _ => exact ⟨rfl, only⟩
      | raised exc applied possible =>
          exact assertion_cancelled_sending rfl only reachable
  | completed turn value =>
      obtain ⟨rfl, only⟩ := holds
      intro outcome reachable
      refine ⟨trivial, ?_⟩
      have only : OnlyResultsFinal ((contract job).observe (stream, false)
          ⟨_, outcome⟩).1 := by
        apply onlyResultsFinal_observe only
        intro payload member final
        rw [sentOn_publish member] at final
        cases final
      cases outcome with
      | returned _ =>
          exact verdict_of_disturbed rfl
            (not_truthful_of_last _ (published_observe rfl) rfl)
      | raised exc applied possible =>
          exact assertion_cancelled_sending rfl only reachable
  | error message =>
      obtain ⟨rfl, none_, failed⟩ := holds
      intro outcome reachable
      refine ⟨trivial, ?_⟩
      have truthful : ∀ result, outcome.applied = true → EndsTruthfully
          ((contract job).observe (stream, true) ⟨_, outcome⟩).1 result := by
        intro result applied
        refine ⟨stream.published, (Message.error message).payload job,
          published_observe applied, rfl, none_, ?_⟩
        change MatchesStatus _ _ stream.row.status
        rw [failed]
        rfl
      cases outcome with
      | returned _ =>
          intro _
          exact ⟨fun _ => rfl, fun _ => truthful _ rfl⟩
      | raised exc applied possible =>
          have interrupt : exc.isException = false := reachable rfl exc rfl
          change assertion (if exc.isException = true then _ else _) _
          rw [if_neg (by simp [interrupt])]
          intro _
          rw [flag_observe]
          cases applied with
          | true =>
              refine ⟨fun _ => ?_, fun _ => truthful _ rfl⟩
              simp [Disturbs, Message.payload]
          | false =>
              have only : OnlyResultsFinal ((contract job).observe (stream, true)
                  ⟨_, .raised exc false possible⟩).1 := by
                apply onlyResultsFinal_observe
                  (onlyResultsFinal_of_noneFinal none_)
                intro payload member
                simp [Stream.sentOn] at member
              simp [Disturbs, interrupt, not_truthful_of_error only]

theorem kept_asking (job : Job) (turn : Turn) (none_ : NoneFinal stream) :
    Program.KeepsAssertion (contract job) assertion Verdict
      (Point.next job (.asking turn)) (stream, true) := by
  intro outcome _
  refine ⟨trivial, ?_⟩
  cases outcome with
  | raised exc applied possible => cases possible
  | returned cancelled =>
      have none_ : NoneFinal ((contract job).observe (stream, true)
          ⟨.isSet, .returned cancelled⟩).1 := noneFinal_silent none_ rfl
      cases cancelled with
      | true => exact ⟨rfl, onlyResultsFinal_of_noneFinal none_⟩
      | false =>
          change assertion (if turn.attempt > 0 then _ else _) _
          split <;> exact ⟨rfl, none_⟩

theorem kept_routing (job : Job) (turn : Turn) (none_ : NoneFinal stream) :
    Program.KeepsAssertion (contract job) assertion Verdict
      (Point.next job (.routing turn)) (stream, true) := by
  intro outcome _
  refine ⟨trivial, ?_⟩
  cases outcome with
  | returned result => exact ⟨rfl, noneFinal_silent none_ rfl⟩
  | raised exc applied possible =>
      apply assertion_handled turn (noneFinal_silent none_ rfl)
      rw [flag_observe]
      simp [Disturbs]

theorem kept_sleeping (job : Job) (turn : Turn) (lastError : Exc)
    (none_ : NoneFinal stream) :
    Program.KeepsAssertion (contract job) assertion Verdict
      (Point.next job (.sleeping turn lastError)) (stream, true) := by
  intro outcome _
  refine ⟨trivial, ?_⟩
  cases outcome with
  | returned _ => exact assertion_goOn _ _ rfl (noneFinal_silent none_ rfl)
  | raised exc applied possible =>
      have interrupt : exc.isException = false :=
        Exc.not_isException_of_isCancelled possible
      apply assertion_left
      · rw [flag_observe]
        simp [Disturbs, interrupt]
      · exact onlyResultsFinal_of_noneFinal (noneFinal_silent none_ rfl)

theorem kept (job : Job) (point : Point) (s : Stream × Bool)
    (holds : assertion point s) :
    Program.KeepsAssertion (contract job) assertion Verdict
      (Point.next job point) s := by
  obtain ⟨stream, flag⟩ := s
  cases point with
  | executing write => exact kept_executing job write flag holds
  | committing write => exact kept_committing job write flag holds
  | serialising message => exact kept_serialising job message flag holds
  | sending message => exact kept_sending job message flag holds
  | asking turn =>
      obtain ⟨rfl, none_⟩ := holds
      exact kept_asking job turn none_
  | routing turn =>
      obtain ⟨rfl, none_⟩ := holds
      exact kept_routing job turn none_
  | sleeping turn lastError =>
      obtain ⟨rfl, none_⟩ := holds
      exact kept_sleeping job turn lastError none_
  | ended result => exact holds

theorem meets_run (job : Job) :
    (run job).Meets (contract job) (Stream.created, true) Verdict := by
  have none_ : NoneFinal Stream.created := fun _ member => nomatch member
  apply Point.meets_run assertion
  · exact ⟨trivial, rfl, noneFinal_silent none_ rfl, rfl⟩
  · exact fun _ _ _ => ⟨trivial, verdict_of_open rfl⟩
  · intro s
    refine ⟨trivial, ?_⟩
    simp [contract, watch, Stream.observe, Stream.sentOn, FailsUndisturbed,
      Disturbs]
  · exact kept job

end Steps

end EventStream

/-- While the bus is reachable, the stream of a run that commits a terminal
status ends with one truthful final event if and only if the run fails
undisturbed. -/
theorem ends_truthfully_iff (job : Job) (environment : Environment effects)
    (reachable : ∀ event ∈ (run job).trace environment, BusReachable event)
    (terminal : (((run job).trace environment).foldl
      (Stream.observe (invocationEvents job.invocationId))
      Stream.created).row.isTerminal = true) :
    EndsTruthfully
        (((run job).trace environment).foldl
          (Stream.observe (invocationEvents job.invocationId)) Stream.created)
        ((run job).result environment) ↔
      EachStep (Stream.observe (invocationEvents job.invocationId))
        FailsUndisturbed Stream.created ((run job).trace environment) := by
  have assumed : EachStep (EventStream.contract job).observe
      (EventStream.contract job).assume (Stream.created, true)
      ((run job).trace environment) := by
    intro before event after equal
    apply reachable
    rw [equal]
    simp
  have verdict := ((EventStream.meets_run job).sound environment assumed).2
  simp only [EventStream.contract, foldl_watch, EventStream.Verdict,
    Bool.true_and, decide_eq_true_eq] at verdict
  exact verdict terminal

theorem ends_truthfully_value_error :
    let run := run exampleJob
    let environment :=
      raisingAt (fun _ op => op.isRoute) ⟨.ValueError, "unknown tool"⟩
        (undisturbed exampleJob.ref.id (fun _ => none) .none)
    EndsTruthfully
      ((run.trace environment).foldl
        (Stream.observe (invocationEvents exampleJob.invocationId))
        Stream.created)
      (run.result environment) :=
  (ends_truthfully_iff exampleJob _ (by decide) (by decide)).mpr (by decide)

/-- A tool succeeds and nothing goes wrong: the audit log follows the final
event. -/
theorem log_after_final_event :
    ¬ ∀ (job : Job) (environment : Environment effects),
      (∀ event ∈ (run job).trace environment, BusReachable event) →
      (((run job).trace environment).foldl
        (Stream.observe (invocationEvents job.invocationId))
        Stream.created).row.isTerminal = true →
      EndsTruthfully
        (((run job).trace environment).foldl
          (Stream.observe (invocationEvents job.invocationId)) Stream.created)
        ((run job).result environment) := by
  intro always
  have ends := always exampleJob
    (undisturbed exampleJob.ref.id (fun _ => none) .none)
    (by decide) (by decide)
  obtain ⟨earlier, last, published, final, -, -⟩ := ends
  have lastIsLog := congrArg List.getLast? published
  rw [List.getLast?_concat] at lastIsLog
  cases lastIsLog
  cases final

end GrafuxMcp.Execution
