import GrafuxMcp.Execution.ExecutionService

/-! # The invocation row

What a run does to the status column of its row, read off its events.
-/

namespace GrafuxMcp.Execution

open GrafuxMcp

/-- The status that an operation writes to the row. -/
def Op.statusWrite? : Op → Option InvocationStatus
  | .execute update => some update.status
  | _ => none

/-- The exception that an event leaves its caller with. `publish` only logs an
`Exception` of the transport. -/
def escaping? (event : RunEvent) : Option Exc :=
  match event.op with
  | .publish _ _ => event.outcome.exception?.filter (!·.isException)
  | _ => event.outcome.exception?

/-- The committed status of the invocation's row, absent before the row is
inserted, and the status that the open transaction has set. -/
structure Row where
  status : Option InvocationStatus
  pending : Option InvocationStatus
deriving DecidableEq

namespace Row

/-- No row, as before `_create_invocation`. -/
def absent : Row := ⟨none, none⟩

/-- The row as `_create_invocation` leaves it. -/
def created : Row := ⟨some .pending, none⟩

/-- A statement that took effect is pending until a commit that takes effect; a
commit that does not loses it. -/
def observe (row : Row) (event : RunEvent) : Row :=
  match event.op with
  | .add invocation =>
      if event.outcome.applied then
        { row with pending := some invocation.status }
      else row
  | .execute update =>
      if event.outcome.applied then
        { row with pending := some update.status }
      else row
  | .commit =>
      if event.outcome.applied then ⟨row.pending.or row.status, none⟩
      else { row with pending := none }
  | _ => row

def isTerminal (row : Row) : Bool := row.status.any (·.isTerminal)

@[simp] theorem observe_dumps (row : Row) (event : BusEvent)
    (outcome : Outcome effects (.dumps event)) :
    row.observe ⟨.dumps event, outcome⟩ = row := rfl

@[simp] theorem observe_publish (row : Row) (channel : Text) (event : BusEvent)
    (outcome : Outcome effects (.publish channel event)) :
    row.observe ⟨.publish channel event, outcome⟩ = row := rfl

@[simp] theorem observe_route (row : Row) (call : RouteCall)
    (outcome : Outcome effects (.route call)) :
    row.observe ⟨.route call, outcome⟩ = row := rfl

@[simp] theorem observe_sleep (row : Row) (attempt : Nat)
    (outcome : Outcome effects (.sleep attempt)) :
    row.observe ⟨.sleep attempt, outcome⟩ = row := rfl

@[simp] theorem observe_isSet (row : Row) (outcome : Outcome effects .isSet) :
    row.observe ⟨.isSet, outcome⟩ = row := rfl

@[simp] theorem observe_acquire (row : Row)
    (outcome : Outcome effects .acquire) :
    row.observe ⟨.acquire, outcome⟩ = row := rfl

@[simp] theorem observe_release (row : Row)
    (outcome : Outcome effects .release) :
    row.observe ⟨.release, outcome⟩ = row := rfl

/-- A statement leaves the committed status alone. -/
@[simp] theorem status_observe_execute (row : Row) (update : InvocationUpdate)
    (outcome : Outcome effects (.execute update)) :
    (row.observe ⟨.execute update, outcome⟩).status = row.status := by
  unfold observe
  dsimp only
  split <;> rfl

theorem pending_observe_execute (row : Row) (update : InvocationUpdate)
    {outcome : Outcome effects (.execute update)}
    (applied : outcome.applied = true) :
    (row.observe ⟨.execute update, outcome⟩).pending = some update.status := by
  simp [observe, applied]

theorem status_observe_commit (row : Row) (outcome : Outcome effects .commit) :
    (row.observe ⟨.commit, outcome⟩).status =
      if outcome.applied then row.pending.or row.status else row.status := by
  unfold observe
  dsimp only
  split <;> simp_all

end Row

end GrafuxMcp.Execution
