import GrafuxMcp.Execution.RunPoints
import GrafuxMcp.Runtime.Router

/-! # The threads of the attempts

An attempt of a local tool runs `call_tool_direct` on a thread of the pool.
`asyncio.wait_for` can leave the thread behind but not stop it. -/

namespace GrafuxMcp.Execution.Attempts

open GrafuxMcp

/-- A call that was handed to the thread pool. -/
inductive PoolCall
  | queued
  | executing
  | ended
  /-- Given up before a thread has taken it. -/
  | neverStarted
deriving DecidableEq, Repr

namespace PoolCall

def isOver : PoolCall → Bool
  | .ended | .neverStarted => true
  | _ => false

/-- Nobody waits for the call any more, so `Future.cancel` takes it out of the queue. -/
def abandon : PoolCall → PoolCall
  | .queued => .neverStarted
  | call => call

/-- `route` returns only what the call has returned. It may raise what the call has raised, or
what kept the call from starting; only the timer and a cancellation do not wait for it. -/
def lets : PoolCall → Option Exc → Bool
  | .ended, _ => true
  | .queued, some _ => true
  | .executing, some exc => exc.isinstance .TimeoutError || exc.isCancelled
  | _, _ => false

end PoolCall

/-- What the service does and what the threads do meanwhile. -/
inductive Moment
  /-- The service begins an operation, which is going to have this outcome. -/
  | begins (event : RunEvent)
  /-- `route` ends. -/
  | answered
  | starts (attempt : Nat)
  | ends (attempt : Nat)

def Moment.begun : Moment → Option RunEvent
  | .begins event => some event
  | _ => none

structure Threads where
  /-- The calls of the attempts so far. -/
  calls : List PoolCall := []
  /-- What `route` is going to raise, if anything, while it is awaited. -/
  awaited : Option (Option Exc) := none
  /-- A `route` is cancelled or was. -/
  cancelled : Bool := false

namespace Threads

def raisesCancelled (event : RunEvent) : Bool :=
  event.op.isRoute && event.outcome.exception?.any Exc.isCancelled

def observe (s : Threads) : Moment → Threads
  | .begins event =>
      if event.op.isRoute then
        { calls := s.calls ++ [.queued]
          awaited := some event.outcome.exception?
          cancelled := s.cancelled || raisesCancelled event }
      else s
  | .answered => { s with calls := s.calls.map PoolCall.abandon, awaited := none }
  | .starts attempt => { s with calls := s.calls.set attempt .executing }
  | .ends attempt => { s with calls := s.calls.set attempt .ended }

def mayAnswer (s : Threads) : Bool :=
  match s.awaited, s.calls.getLast? with
  | some raised, some call => call.lets raised
  | _, _ => false

def Possible (s : Threads) : Moment → Prop
  | .begins _ => s.awaited = none
  | .answered => s.mayAnswer = true
  | .starts attempt => s.calls[attempt]? = some .queued
  | .ends attempt => s.calls[attempt]? = some .executing

/-- A call starts when all earlier ones are over, and none is executing when the invocation
is marked. -/
def NoOverlap (s : Threads) : Moment → Prop
  | .starts attempt => ∀ call ∈ s.calls.take attempt, call.isOver = true
  | .begins ⟨.execute update, _⟩ =>
      update.status = .failed ∨ update.status = .done → .executing ∉ s.calls
  | _ => True

/-- The timer of an attempt does not expire while the tool function is executing. -/
def InTime (s : Threads) : Moment → Prop
  | .answered => ∀ exc ∈ s.awaited.join, exc.isinstance .TimeoutError = true →
      s.calls.getLast? ≠ some .executing
  | _ => True

instance (s : Threads) : (moment : Moment) → Decidable (s.Possible moment)
  | .begins _ => inferInstanceAs (Decidable (s.awaited = none))
  | .answered => inferInstanceAs (Decidable (s.mayAnswer = true))
  | .starts attempt => inferInstanceAs (Decidable (s.calls[attempt]? = some .queued))
  | .ends attempt => inferInstanceAs (Decidable (s.calls[attempt]? = some .executing))

instance (s : Threads) : (moment : Moment) → Decidable (s.NoOverlap moment)
  | .starts attempt => inferInstanceAs (Decidable (∀ call ∈ s.calls.take attempt, _))
  | .begins ⟨.execute update, _⟩ =>
      inferInstanceAs (Decidable (update.status = .failed ∨ update.status = .done → _))
  | .begins ⟨.acquire, _⟩ | .begins ⟨.release, _⟩ | .begins ⟨.register _, _⟩
  | .begins ⟨.unregister _, _⟩ | .begins ⟨.isSet, _⟩ | .begins ⟨.selectTool _, _⟩
  | .begins ⟨.add _, _⟩ | .begins ⟨.refresh, _⟩ | .begins ⟨.commit, _⟩
  | .begins ⟨.closeSession, _⟩ | .begins ⟨.dumps _, _⟩ | .begins ⟨.publish _ _, _⟩
  | .begins ⟨.route _, _⟩ | .begins ⟨.sleep _, _⟩ | .answered | .ends _ => .isTrue trivial

instance (s : Threads) : (moment : Moment) → Decidable (s.InTime moment)
  | .answered => inferInstanceAs (Decidable (∀ exc ∈ s.awaited.join, _ → _))
  | .begins _ | .starts _ | .ends _ => .isTrue trivial

end Threads

/-- A whole run of a local tool with the moments of its threads. -/
structure Timeline (job : Job) (environment : Environment effects) (moments : List Moment) :
    Prop where
  isLocal : job.routing.serverType = .localPlugin
  service : moments.filterMap Moment.begun = (run job).trace environment
  possible : EachStep Threads.observe Threads.Possible {} moments

/-! ### After a cancellation

The run ends without another attempt, and the invocation is marked as cancelled. -/

namespace GivingUp

def observe (cancelled : Bool) (event : RunEvent) : Bool :=
  cancelled || Threads.raisesCancelled event

/-- Calls the tool, or marks the invocation as failed or done. -/
def goesOn : Op → Bool
  | .route _ => true
  | .execute update => decide (update.status = .failed ∨ update.status = .done)
  | _ => false

def contract : Contract effects Bool where
  observe := observe
  assume _ _ := True
  guarantee cancelled event := cancelled = true → goesOn event.op = false

def IsLast : Point → Prop
  | .executing (.cancelled _) | .committing (.cancelled _) | .ended _ => True
  | _ => False

def assertion (point : Point) (cancelled : Bool) : Prop :=
  cancelled = true → IsLast point

variable {job : Job} {cancelled : Bool}

theorem observe_of_other {event : RunEvent} (other : event.op.isRoute = false) :
    observe cancelled event = cancelled := by
  simp [observe, Threads.raisesCancelled, other]

theorem isLast_handled {turn : Turn} {exc : Exc} (isCancelled : exc.isCancelled = true) :
    IsLast (Point.handled job turn exc) := by
  rw [Point.handled, if_pos isCancelled]
  trivial

/-- Where a run is before a cancellation, every operation is in order. -/
theorem keeps_of_false {op : Op} {resume : Except Exc op.Answer → Point}
    (other : op.isRoute = false) {post : Except Exc Value → Bool → Prop} :
    Program.KeepsAssertion contract assertion post (.perform (I := effects) op resume) false := by
  intro outcome _
  refine ⟨by simp [contract], ?_⟩
  have same : observe false ⟨op, outcome⟩ = false := observe_of_other other
  change assertion (resume outcome.result) (observe false ⟨op, outcome⟩)
  rw [same]
  intro impossible
  cases impossible

theorem kept (job : Job) (point : Point) (cancelled : Bool) (holds : assertion point cancelled) :
    Program.KeepsAssertion contract assertion (fun _ _ => True) (Point.next job point)
      cancelled := by
  cases cancelled with
  | false =>
      cases point with
      | routing turn =>
          intro outcome _
          refine ⟨by simp [contract], ?_⟩
          cases outcome with
          | returned result =>
              intro impossible
              cases impossible
          | raised exc applied possible =>
              intro raises
              exact isLast_handled raises
      | ended result => trivial
      | executing write | committing write | serialising message | sending message
      | asking turn | sleeping turn lastError => exact keeps_of_false rfl
  | true =>
      have last := holds rfl
      cases point with
      | executing write =>
          cases write with
          | cancelled turn =>
              intro outcome _
              refine ⟨fun _ => rfl, fun _ => ?_⟩
              cases outcome <;> trivial
          | running | done | failed => cases last
      | committing write =>
          cases write with
          | cancelled turn =>
              intro outcome _
              refine ⟨fun _ => rfl, fun _ => ?_⟩
              cases outcome <;> trivial
          | running | done | failed => cases last
      | ended result => trivial
      | serialising | sending | asking | routing | sleeping => cases last

theorem meets_run (job : Job) : (run job).Meets contract false fun _ _ => True := by
  apply Point.meets_run assertion
  · refine ⟨fun _ => rfl, ?_⟩
    intro cancelled
    cases cancelled
  · exact fun _ _ _ => ⟨by simp [contract], trivial⟩
  · exact fun s => ⟨fun _ => rfl, observe_of_other rfl⟩
  · exact kept job

end GivingUp

/-! ### The calls of a run -/

/-- What a service does is seen among other moments. -/
theorem eachStep_of_view {Big Small Moment Event : Type} {observe : Big → Moment → Big}
    {observeEvent : Small → Event → Small} {view : Big → Small} {pick : Moment → Option Event}
    {holds : Small → Event → Prop} {start : Big} {moments : List Moment}
    (sees : ∀ s moment, view (observe s moment) =
      (pick moment).elim (view s) (observeEvent (view s)))
    (each : EachStep observeEvent holds (view start) (moments.filterMap pick)) :
    EachStep observe (fun s moment => ∀ event ∈ pick moment, holds (view s) event) start
      moments := by
  induction moments generalizing start with
  | nil => exact eachStep_nil _
  | cons moment moments induction =>
      rw [eachStep_cons]
      have next := sees start moment
      cases picked : pick moment with
      | none =>
          rw [picked, Option.elim_none] at next
          rw [List.filterMap_cons_none picked, ← next] at each
          refine ⟨?_, induction each⟩
          intro event member
          cases member
      | some event =>
          rw [picked, Option.elim_some] at next
          rw [List.filterMap_cons_some picked, eachStep_cons, ← next] at each
          refine ⟨?_, induction each.2⟩
          intro other member
          rw [← Option.some.inj member]
          exact each.1

namespace Threads

variable {s : Threads} {attempt : Nat} {call : PoolCall}

/-- Only the last call may still be going on, and only while it is awaited or after a
cancellation. -/
structure InOrder (s : Threads) : Prop where
  earlier : ∀ call ∈ s.calls.dropLast, call.isOver = true
  idle : s.awaited = none → s.cancelled = false → ∀ call ∈ s.calls, call.isOver = true
  taken : s.awaited = none → .queued ∉ s.calls
  flagged : ∀ exc, s.awaited = some (some exc) → exc.isCancelled = true → s.cancelled = true

theorem inOrder_initial : InOrder {} := by
  constructor
  · intro call member
    cases member
  · intro _ _ call member
    cases member
  · intro _ member
    cases member
  · intro exc awaited
    cases awaited

/-- A call that is not over is the last one. -/
theorem InOrder.eq_append (inOrder : InOrder s) (present : s.calls[attempt]? = some call)
    (goesOn : call.isOver = false) :
    attempt = s.calls.dropLast.length ∧ s.calls = s.calls.dropLast ++ [call] := by
  have inside : attempt < s.calls.length := (List.getElem?_eq_some_iff.mp present).1
  have last : attempt = s.calls.dropLast.length := by
    rw [List.length_dropLast]
    rcases Nat.lt_or_ge attempt (s.calls.length - 1) with before | after
    case inr => omega
    have early : s.calls.dropLast[attempt]? = some call := by
      rw [List.getElem?_dropLast, if_pos before]
      exact present
    have finished := inOrder.earlier call (List.mem_of_getElem? early)
    rw [goesOn] at finished
    cases finished
  refine ⟨last, ?_⟩
  have nonempty : s.calls ≠ [] := List.ne_nil_of_length_pos (by omega)
  have final : s.calls.getLast nonempty = call := by
    rw [List.getLast_eq_getElem]
    have bound : s.calls.length - 1 < s.calls.length := by omega
    rw [List.length_dropLast] at last
    rw [last, List.getElem?_eq_getElem bound, Option.some.injEq] at present
    exact present
  rw [← final]
  exact (List.dropLast_concat_getLast nonempty).symm

/-- The last call goes on to its next stage. -/
theorem InOrder.set_last (inOrder : InOrder s) (present : s.calls[attempt]? = some call)
    (goesOn : call.isOver = false) (next : PoolCall) :
    s.calls.set attempt next = s.calls.dropLast ++ [next] := by
  rcases inOrder.eq_append present goesOn with ⟨last, whole⟩
  have split : s.calls.set attempt next =
      (s.calls.dropLast ++ [call]).set s.calls.dropLast.length next := by
    rw [← whole, ← last]
  rw [split, List.set_append_right _ _ (Nat.le_refl _), Nat.sub_self, List.set_cons_zero]

/-- What the service may begin. -/
def InTurn (s : Threads) (moment : Moment) : Prop :=
  ∀ event ∈ moment.begun, GivingUp.contract.guarantee s.cancelled event

theorem isOver_abandon {call : PoolCall} (finished : call.isOver = true) :
    call.abandon.isOver = true := by
  cases call <;> trivial

theorem InOrder.begins (inOrder : InOrder s) {event : RunEvent}
    (possible : Possible s (.begins event)) (inTurn : InTurn s (.begins event)) :
    InOrder (observe s (.begins event)) := by
  have allowed : s.cancelled = true → GivingUp.goesOn event.op = false := inTurn event rfl
  rw [observe]
  split
  case isFalse => exact inOrder
  case isTrue isRoute =>
    have notCancelled : s.cancelled = false := by
      cases cancelled : s.cancelled with
      | false => rfl
      | true =>
          have never := allowed cancelled
          cases op : event.op <;> simp [op, GivingUp.goesOn, Op.isRoute] at never isRoute
    have finished := inOrder.idle possible notCancelled
    constructor
    · rw [List.dropLast_concat]
      exact finished
    · intro idle
      cases idle
    · intro idle
      cases idle
    · intro exc awaited isCancelled
      have raised : event.outcome.exception? = some exc := Option.some.inj awaited
      simp [raisesCancelled, isRoute, raised, isCancelled]

/-- The last call is over, too, when its answer is neither a timeout nor a cancellation that
did not wait for it. -/
theorem InOrder.last_over (inOrder : InOrder s) (possible : Possible s .answered)
    (inTime : InTime s .answered) (notCancelled : s.cancelled = false)
    (last : s.calls.getLast? = some call) : call.abandon.isOver = true := by
  cases awaited : s.awaited with
  | none => simp [Possible, mayAnswer, awaited] at possible
  | some raised =>
      simp only [Possible, mayAnswer, awaited, last] at possible
      cases call with
      | queued | ended | neverStarted => rfl
      | executing =>
          cases raised with
          | none => cases possible
          | some exc =>
              rcases Bool.or_eq_true_iff.mp possible with timeout | isCancelled
              · exact absurd last (inTime exc (by rw [awaited]; rfl) timeout)
              · rw [inOrder.flagged exc awaited isCancelled] at notCancelled
                cases notCancelled

theorem InOrder.answered (inOrder : InOrder s) (possible : Possible s .answered)
    (inTime : InTime s .answered) : InOrder (observe s .answered) := by
  have earlier : ∀ call ∈ (s.calls.map PoolCall.abandon).dropLast, call.isOver = true := by
    intro call member
    rw [← List.map_dropLast] at member
    rcases List.mem_map.mp member with ⟨before, inside, rfl⟩
    exact isOver_abandon (inOrder.earlier before inside)
  refine ⟨earlier, ?_, ?_, ?_⟩
  · intro _ notCancelled call member
    rcases List.mem_map.mp member with ⟨before, inside, rfl⟩
    have nonempty := List.ne_nil_of_mem inside
    rw [← List.dropLast_concat_getLast nonempty] at inside
    rcases List.mem_append.mp inside with early | last
    · exact isOver_abandon (inOrder.earlier before early)
    · rw [List.mem_singleton.mp last]
      exact inOrder.last_over possible inTime notCancelled (List.getLast?_eq_some_getLast nonempty)
  · intro _ queued
    rcases List.mem_map.mp queued with ⟨before, _, same⟩
    cases before <;> cases same
  · intro exc awaited
    cases awaited

theorem InOrder.starts (inOrder : InOrder s) (possible : Possible s (.starts attempt)) :
    InOrder (observe s (.starts attempt)) := by
  have moves : s.calls.set attempt .executing = s.calls.dropLast ++ [.executing] :=
    inOrder.set_last possible rfl _
  have busy : s.awaited ≠ none := by
    intro idle
    exact inOrder.taken idle (List.mem_of_getElem? possible)
  rw [observe, moves]
  refine ⟨?_, fun idle => absurd idle busy, fun idle => absurd idle busy, inOrder.flagged⟩
  rw [List.dropLast_concat]
  exact inOrder.earlier

theorem InOrder.ends (inOrder : InOrder s) (possible : Possible s (.ends attempt)) :
    InOrder (observe s (.ends attempt)) := by
  have moves : s.calls.set attempt .ended = s.calls.dropLast ++ [.ended] :=
    inOrder.set_last possible rfl _
  rw [observe, moves]
  refine ⟨?_, ?_, ?_, inOrder.flagged⟩
  · rw [List.dropLast_concat]
    exact inOrder.earlier
  · intro _ _ call member
    rcases List.mem_append.mp member with before | last
    · exact inOrder.earlier call before
    · rw [List.mem_singleton.mp last]
      rfl
  · intro _ member
    rcases List.mem_append.mp member with before | last
    · have finished := inOrder.earlier _ before
      cases finished
    · cases List.mem_singleton.mp last

theorem InOrder.step (inOrder : InOrder s) {moment : Moment} (possible : Possible s moment)
    (inTime : InTime s moment) (inTurn : InTurn s moment) : InOrder (observe s moment) := by
  cases moment with
  | begins event => exact inOrder.begins possible inTurn
  | answered => exact inOrder.answered possible inTime
  | starts attempt => exact inOrder.starts possible
  | ends attempt => exact inOrder.ends possible

theorem InOrder.noOverlap (inOrder : InOrder s) {moment : Moment} (possible : Possible s moment)
    (inTurn : InTurn s moment) : NoOverlap s moment := by
  cases moment with
  | answered | ends => trivial
  | starts attempt =>
      have last := (inOrder.eq_append possible rfl).1
      rw [List.length_dropLast] at last
      intro call member
      rw [last, ← List.dropLast_eq_take] at member
      exact inOrder.earlier call member
  | begins event =>
      rcases event with ⟨op, outcome⟩
      cases op with
      | execute update =>
          intro marks executing
          have goesOn : GivingUp.goesOn (.execute update) = true := decide_eq_true marks
          cases cancelled : s.cancelled with
          | true =>
              have never := inTurn ⟨.execute update, outcome⟩ rfl cancelled
              rw [goesOn] at never
              cases never
          | false =>
              have finished := inOrder.idle possible cancelled _ executing
              cases finished
      | _ => trivial

end Threads

/-- In every run in which no timer expires while the function is executing. -/
theorem attempts_never_overlap (job : Job) (environment : Environment effects)
    (moments : List Moment) (timeline : Timeline job environment moments)
    (inTime : EachStep Threads.observe Threads.InTime {} moments) :
    EachStep Threads.observe Threads.NoOverlap {} moments := by
  have service : EachStep GivingUp.observe GivingUp.contract.guarantee false
      (moments.filterMap Moment.begun) := by
    rw [timeline.service]
    exact ((GivingUp.meets_run job).sound environment fun _ _ _ _ => trivial).1
  have sees : ∀ (s : Threads) (moment : Moment), (s.observe moment).cancelled =
      moment.begun.elim s.cancelled (GivingUp.observe s.cancelled) := by
    intro s moment
    cases moment with
    | begins event =>
        rw [Threads.observe]
        split
        case isTrue => rfl
        case isFalse other =>
          exact (GivingUp.observe_of_other (Bool.eq_false_iff.mpr other)).symm
    | answered | starts | ends => rfl
  have inTurn : EachStep Threads.observe Threads.InTurn {} moments :=
    eachStep_of_view sees service
  have both : EachStep Threads.observe (fun s moment => s.Possible moment ∧ s.InTime moment ∧
      s.InTurn moment) {} moments :=
    fun before moment after whole => ⟨timeline.possible before moment after whole,
      inTime before moment after whole, inTurn before moment after whole⟩
  refine both.of_invariant Threads.inOrder_initial ?_ ?_
  · intro s moment inOrder allowed
    exact inOrder.step allowed.1 allowed.2.1 allowed.2.2
  · intro s moment inOrder allowed
    exact inOrder.noOverlap allowed.1 allowed.2.2

/-- The moments of a run whose calls all start, and end before they are answered or stay
behind. -/
def interleaved (waits : Bool) : Nat → List RunEvent → List Moment
  | _, [] => []
  | attempt, event :: events =>
      if event.op.isRoute then
        [.begins event, .starts attempt] ++ (if waits then [.ends attempt] else []) ++
          .answered :: interleaved waits (attempt + 1) events
      else .begins event :: interleaved waits attempt events

theorem begun_interleaved (waits : Bool) (attempt : Nat) (events : List RunEvent) :
    (interleaved waits attempt events).filterMap Moment.begun = events := by
  induction events generalizing attempt with
  | nil => rfl
  | cons event events induction =>
      rw [interleaved]
      split
      · have rest := congrArg (event :: ·) (induction (attempt + 1))
        cases waits with
        | false | true => exact rest
      · simp [Moment.begun, induction]

/-- The tool takes longer than its timeout, three times. -/
def tooSlow : Environment effects :=
  raisingAt (fun _ op => op.isRoute) ⟨.TimeoutError, ""⟩
    (undisturbed exampleJob.ref.id (fun _ => none) (toolText "7"))

def slowMoments (waits : Bool) : List Moment :=
  interleaved waits 0 ((run exampleJob).trace tooSlow)

theorem slow_timeline (waits : Bool) : Timeline exampleJob tooSlow (slowMoments waits) := by
  refine ⟨rfl, begun_interleaved _ _ _, ?_⟩
  cases waits <;> decide

/-- The timer expires just when the function has ended. -/
theorem attempts_never_overlap_in_time :
    EachStep Threads.observe Threads.NoOverlap {} (slowMoments true) :=
  attempts_never_overlap exampleJob tooSlow (slowMoments true) (slow_timeline true) (by decide)

/-- The timer expires while the function is executing. -/
theorem attempts_overlap :
    ¬ ∀ job environment moments, Timeline job environment moments →
      EachStep Threads.observe Threads.NoOverlap {} moments := by
  intro claimed
  have never := claimed exampleJob tooSlow (slowMoments false) (slow_timeline false)
  revert never
  decide

end GrafuxMcp.Execution.Attempts
