import Mathlib.Data.List.Basic

/-! # Runs with secret events

A machine whose steps may be refused. Unwinding conditions on single steps give that two runs
with the same events that are not secret end in states that look alike. -/

namespace GrafuxMcp

variable {State Event : Type}

def withoutSecret (secret : Event → Bool) (history : List Event) : List Event :=
  history.filter fun event => !secret event

/-- What one allowed event does from states that are safe and look alike. -/
structure Unwinding (step : State → Event → Option State) (allowed : Event → Prop)
    (safe : State → Prop) (alike : State → State → Prop) (secret : Event → Bool) : Prop where
  safe_step : ∀ s s' event, safe s → allowed event → step s event = some s' → safe s'
  /-- A secret event is not seen. -/
  hidden : ∀ s s' t event, safe s → alike s t → allowed event → secret event = true →
    step s event = some s' → alike s' t
  /-- Any other event is possible in both states, and they still look alike. -/
  visible : ∀ s s' t event, safe s → safe t → alike s t → allowed event → secret event = false →
    step s event = some s' → ∃ t', step t event = some t' ∧ alike s' t'

namespace Unwinding

variable {step : State → Event → Option State} {allowed : Event → Prop} {safe : State → Prop}
  {alike : State → State → Prop} {secret : Event → Bool}

/-- A run is also possible without its secret events. -/
theorem purged (unwinding : Unwinding step allowed safe alike secret) {history : List Event}
    {s s' t : State} (safeLeft : safe s) (safeRight : safe t) (looks : alike s t)
    (all : ∀ event ∈ history, allowed event) (runs : history.foldlM step s = some s') :
    ∃ t', (withoutSecret secret history).foldlM step t = some t' ∧ alike s' t' := by
  induction history generalizing s t with
  | nil =>
      cases runs
      exact ⟨t, rfl, looks⟩
  | cons event history induction =>
      rw [List.foldlM_cons] at runs
      rcases Option.bind_eq_some_iff.mp runs with ⟨middle, steps, rest⟩
      have first := all event List.mem_cons_self
      have others : ∀ event ∈ history, allowed event :=
        fun event member => all event (List.mem_cons_of_mem _ member)
      have next := unwinding.safe_step s middle event safeLeft first steps
      cases isSecret : secret event with
      | true =>
          have same : withoutSecret secret (event :: history) = withoutSecret secret history := by
            simp [withoutSecret, isSecret]
          rw [same]
          exact induction next safeRight
            (unwinding.hidden s middle t event safeLeft looks first isSecret steps) others rest
      | false =>
          have same : withoutSecret secret (event :: history) =
              event :: withoutSecret secret history := by
            simp [withoutSecret, isSecret]
          rcases unwinding.visible s middle t event safeLeft safeRight looks first isSecret steps
            with ⟨t', moves, looks'⟩
          rw [same, List.foldlM_cons, moves]
          exact induction next (unwinding.safe_step t t' event safeRight first moves) looks'
            others rest

/-- Two runs with the same events that are not secret. -/
theorem agree (unwinding : Unwinding step allowed safe alike secret) {history other : List Event}
    {start s t : State} (isSafe : safe start) (looks : alike start start)
    (all : ∀ event ∈ history, allowed event) (allOther : ∀ event ∈ other, allowed event)
    (runs : history.foldlM step start = some s) (runsOther : other.foldlM step start = some t)
    (same : withoutSecret secret other = withoutSecret secret history) :
    ∃ purged, alike s purged ∧ alike t purged := by
  rcases unwinding.purged isSafe isSafe looks all runs with ⟨left, reachesLeft, looksLeft⟩
  rcases unwinding.purged isSafe isSafe looks allOther runsOther with
    ⟨right, reachesRight, looksRight⟩
  rw [same, reachesLeft, Option.some.injEq] at reachesRight
  rw [← reachesRight] at looksRight
  exact ⟨left, looksLeft, looksRight⟩

end Unwinding

end GrafuxMcp
