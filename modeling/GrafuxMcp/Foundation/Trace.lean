import Mathlib.Data.List.Basic

/-! # Properties of the steps of a trace

A trace is a list of events and `observe` folds it into a state. Claims about a
run are stated over its single steps, each with the state in front of it. -/

namespace GrafuxMcp

variable {σ : Type u} {Event : Type v}

/-- `holds` is true of every event of the trace, together with the state that
`observe` reaches from `start` just before it. -/
def EachStep (observe : σ → Event → σ) (holds : σ → Event → Prop)
    (start : σ) (trace : List Event) : Prop :=
  ∀ before event after, trace = before ++ event :: after →
    holds (before.foldl observe start) event

/-- `holds` is true of the state in front of the trace and of every state that
`observe` reaches along it. -/
def EachState (observe : σ → Event → σ) (holds : σ → Prop)
    (start : σ) (trace : List Event) : Prop :=
  ∀ before after, trace = before ++ after → holds (before.foldl observe start)

variable {observe : σ → Event → σ} {start : σ} {trace : List Event}

@[simp] theorem eachStep_nil (holds : σ → Event → Prop) :
    EachStep observe holds start [] := by
  intro before event after equal
  simp at equal

theorem eachStep_cons (holds : σ → Event → Prop) (event : Event) :
    EachStep observe holds start (event :: trace) ↔
      holds start event ∧ EachStep observe holds (observe start event) trace := by
  constructor
  · intro each
    refine ⟨each [] event trace rfl, ?_⟩
    intro before next after equal
    exact each (event :: before) next after (by rw [equal]; rfl)
  · rintro ⟨first, rest⟩ before next after equal
    cases before with
    | nil =>
        simp only [List.nil_append, List.cons.injEq] at equal
        rw [← equal.1]
        exact first
    | cons head tail =>
        simp only [List.cons_append, List.cons.injEq] at equal
        rw [← equal.1]
        exact rest tail next after equal.2

/-- A property of the events alone. -/
theorem eachStep_const_iff {holds : Event → Prop} :
    EachStep observe (fun _ => holds) start trace ↔ ∀ event ∈ trace, holds event := by
  constructor
  · intro each event member
    rcases List.append_of_mem member with ⟨before, after, equal⟩
    exact each before event after equal
  · intro each before event after equal
    exact each event (by simp [equal])

/-- A trace is checked step by step. -/
instance decidableEachStep (holds : σ → Event → Prop)
    [∀ s event, Decidable (holds s event)] :
    (start : σ) → (trace : List Event) →
      Decidable (EachStep observe holds start trace)
  | _, [] => isTrue (eachStep_nil holds)
  | start, event :: trace =>
      have := decidableEachStep holds (observe start event) trace
      decidable_of_iff _ (eachStep_cons holds event).symm

theorem eachState_nil (holds : σ → Prop) :
    EachState observe holds start [] ↔ holds start := by
  constructor
  · intro each
    exact each [] [] rfl
  · intro first before after equal
    have empty : before = [] := (List.append_eq_nil_iff.mp equal.symm).1
    rw [empty]
    exact first

theorem eachState_cons (holds : σ → Prop) (event : Event) :
    EachState observe holds start (event :: trace) ↔
      holds start ∧ EachState observe holds (observe start event) trace := by
  constructor
  · intro each
    refine ⟨each [] _ rfl, ?_⟩
    intro before after equal
    exact each (event :: before) after (by rw [equal]; rfl)
  · rintro ⟨first, rest⟩ before after equal
    cases before with
    | nil => exact first
    | cons head tail =>
        simp only [List.cons_append, List.cons.injEq] at equal
        rw [← equal.1]
        exact rest tail after equal.2

section Invariant

variable {inv : σ → Prop} {allowed : σ → Event → Prop}

/-- An invariant that every allowed step keeps is true all along a trace whose
steps are allowed. -/
theorem EachStep.invariant (each : EachStep observe allowed start trace)
    (initially : inv start)
    (preserved : ∀ s event, inv s → allowed s event → inv (observe s event)) :
    EachState observe inv start trace := by
  induction trace generalizing start with
  | nil => exact (eachState_nil inv).mpr initially
  | cons event trace induction =>
      have parts := (eachStep_cons allowed event).mp each
      exact (eachState_cons inv event).mpr
        ⟨initially, induction parts.2 (preserved _ _ initially parts.1)⟩

/-- What the invariant implies of an allowed step is true of every step. -/
theorem EachStep.of_invariant {holds : σ → Event → Prop}
    (each : EachStep observe allowed start trace)
    (initially : inv start)
    (preserved : ∀ s event, inv s → allowed s event → inv (observe s event))
    (implied : ∀ s event, inv s → allowed s event → holds s event) :
    EachStep observe holds start trace := by
  intro before event after equal
  have reached : inv (before.foldl observe start) :=
    each.invariant initially preserved before (event :: after) equal
  exact implied _ _ reached (each before event after equal)

/-- Two step properties that agree in every state of an invariant, which every
step keeps, are true of the same traces. -/
theorem EachStep.congr {left right : σ → Event → Prop} (initially : inv start)
    (preserved : ∀ s event, inv s → inv (observe s event))
    (agree : ∀ s event, inv s → (left s event ↔ right s event)) :
    EachStep observe left start trace ↔ EachStep observe right start trace := by
  have each : EachStep observe (fun _ _ => True) start trace :=
    fun _ _ _ _ => trivial
  have reached := each.invariant initially fun s event kept _ =>
    preserved s event kept
  constructor
  · intro steps before event after equal
    exact (agree _ _ (reached before _ equal)).mp (steps before event after equal)
  · intro steps before event after equal
    exact (agree _ _ (reached before _ equal)).mpr (steps before event after equal)

theorem EachState.mono {weaker : σ → Prop}
    (each : EachState observe inv start trace)
    (implied : ∀ s, inv s → weaker s) : EachState observe weaker start trace :=
  fun before after equal => implied _ (each before after equal)

/-- What every step keeps is still true at the end of the trace. -/
theorem EachStep.persists
    (each : EachStep observe (fun s event => inv s → inv (observe s event))
      start trace)
    {before after : List Event} (equal : trace = before ++ after)
    (reached : inv (before.foldl observe start)) :
    inv (trace.foldl observe start) := by
  induction after generalizing before with
  | nil =>
      rw [equal, List.append_nil]
      exact reached
  | cons event after induction =>
      have regrouped : trace = (before ++ [event]) ++ after := by
        rw [equal, List.append_assoc]
        rfl
      apply induction regrouped
      rw [List.foldl_append]
      exact each before event after equal reached

end Invariant

section Forget

variable {τ : Type w} {coarse : τ → Event → τ} {forget : σ → τ}

theorem foldl_forget (commutes : ∀ s event, forget (observe s event) = coarse (forget s) event)
    (start : σ) (trace : List Event) :
    forget (trace.foldl observe start) = trace.foldl coarse (forget start) := by
  induction trace generalizing start with
  | nil => rfl
  | cons event trace induction =>
      rw [List.foldl_cons, List.foldl_cons, induction, commutes]

/-- A property that sees less of the state may be read off the coarser fold. -/
theorem eachStep_forget {holds : τ → Event → Prop}
    (commutes : ∀ s event, forget (observe s event) = coarse (forget s) event) :
    EachStep observe (fun s event => holds (forget s) event) start trace ↔
      EachStep coarse holds (forget start) trace := by
  simp only [EachStep, foldl_forget commutes]

end Forget

/-! ## Watching a property -/

section Watch

variable {holds : σ → Event → Prop} [∀ s event, Decidable (holds s event)]

/-- `observe` together with whether every step so far was as `holds` says. -/
def watch (observe : σ → Event → σ) (holds : σ → Event → Prop)
    [∀ s event, Decidable (holds s event)] (s : σ × Bool) (event : Event) :
    σ × Bool :=
  (observe s.1 event, s.2 && decide (holds s.1 event))

theorem watch_of_holds {event : Event} (step : holds start event) (flag : Bool) :
    watch observe holds (start, flag) event = (observe start event, flag) := by
  simp [watch, step]

theorem watch_of_not_holds {event : Event} (step : ¬ holds start event)
    (flag : Bool) :
    watch observe holds (start, flag) event = (observe start event, false) := by
  simp [watch, step]

theorem foldl_watch (start : σ) (flag : Bool) (trace : List Event) :
    trace.foldl (watch observe holds) (start, flag) =
      (trace.foldl observe start,
        flag && decide (EachStep observe holds start trace)) := by
  induction trace generalizing start flag with
  | nil => simp
  | cons event trace induction =>
      simp only [List.foldl_cons, watch, induction, eachStep_cons,
        Bool.decide_and, Bool.and_assoc]

theorem eachStep_watch {weaker : σ → Event → Prop} (flag : Bool) :
    EachStep (watch observe holds) (fun s event => weaker s.1 event)
        (start, flag) trace ↔
      EachStep observe weaker start trace := by
  simp only [EachStep, foldl_watch]

end Watch

end GrafuxMcp
