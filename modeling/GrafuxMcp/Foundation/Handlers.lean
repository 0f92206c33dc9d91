import GrafuxMcp.Foundation.AllRuns

/-! # Operations that are programs

A program performs operations of an interface, and some of them are programs of other operations.
A contract that the program meets is met by the whole, and every run of the whole is a run of the
program. -/

namespace GrafuxMcp

structure Operations (Exc : Type) where
  Op : Type
  Answer : Op → Type
  mayRaise : Op → Exc → Bool

abbrev Operations.interface {Exc : Type} (ops : Operations Exc) : Interface where
  Op := ops.Op
  Answer := ops.Answer
  Exc := Exc
  mayRaise := ops.mayRaise

/-- The operations of the interface and others. -/
abbrev Interface.extended (I : Interface) (ops : Operations I.Exc) : Interface where
  Op := I.Op ⊕ ops.Op
  Answer
    | .inl op => I.Answer op
    | .inr op => ops.Answer op
  Exc := I.Exc
  mayRaise
    | .inl op => I.mayRaise op
    | .inr op => ops.mayRaise op

variable {I : Interface} {ops : Operations I.Exc} {σ τ : Type} {α β : Type}

namespace Outcome

def left {op : I.Op} : Outcome (I.extended ops) (.inl op) → Outcome I op
  | .returned answer => .returned answer
  | .raised exception applied possible => .raised exception applied possible

def right {op : ops.Op} : Outcome (I.extended ops) (.inr op) → Outcome ops.interface op
  | .returned answer => .returned answer
  | .raised exception applied possible => .raised exception applied possible

theorem result_left {op : I.Op} (outcome : Outcome (I.extended ops) (.inl op)) :
    outcome.left.result = outcome.result := by
  cases outcome with
  | returned answer => rfl
  | raised exception applied possible => rfl

theorem result_right {op : ops.Op} (outcome : Outcome (I.extended ops) (.inr op)) :
    outcome.right.result = outcome.result := by
  cases outcome with
  | returned answer => rfl
  | raised exception applied possible => rfl

end Outcome

/-- The event of an operation of the interface itself. -/
def Event.left? : Event (I.extended ops) → Option (Event I)
  | ⟨.inl op, outcome⟩ => some ⟨op, outcome.left⟩
  | ⟨.inr _, _⟩ => none

/-- Each event is one of the first or one of the second contract. -/
def Contract.both (first : Contract I σ) (second : Contract ops.interface σ) :
    Contract (I.extended ops) σ where
  observe
    | s, ⟨.inl op, outcome⟩ => first.observe s ⟨op, outcome.left⟩
    | s, ⟨.inr op, outcome⟩ => second.observe s ⟨op, outcome.right⟩
  assume
    | s, ⟨.inl op, outcome⟩ => first.assume s ⟨op, outcome.left⟩
    | s, ⟨.inr op, outcome⟩ => second.assume s ⟨op, outcome.right⟩
  guarantee
    | s, ⟨.inl op, outcome⟩ => first.guarantee s ⟨op, outcome.left⟩
    | s, ⟨.inr op, outcome⟩ => second.guarantee s ⟨op, outcome.right⟩

namespace Program

/-- An exception becomes the value of the program. -/
def reflect : Program I α → Program I (Except I.Exc α)
  | .ret value => .ret (.ok value)
  | .raise exception => .ret (.error exception)
  | .perform op resume => .perform op fun result => (resume result).reflect

def lift : Program ops.interface α → Program (I.extended ops) α
  | .ret value => .ret value
  | .raise exception => .raise exception
  | .perform op resume =>
      .perform (I := I.extended ops) (.inr op) fun result => (resume result).lift

/-- The operations that have a handler are replaced by it. -/
def implement (handler : (op : I.Op) → Option (Program ops.interface (I.Answer op))) :
    Program I α → Program (I.extended ops) α
  | .ret value => .ret value
  | .raise exception => .raise exception
  | .perform op resume =>
      match handler op with
      | none => .perform (I := I.extended ops) (.inl op) fun result =>
          implement handler (resume result)
      | some body => body.reflect.lift.bind fun result => implement handler (resume result)

variable {handler : (op : I.Op) → Option (Program ops.interface (I.Answer op))}

/-! ### Contracts -/

theorem meets_reflect {contract : Contract I σ} {program : Program I α} {s : σ}
    {post : Except I.Exc (Except I.Exc α) → σ → Prop} :
    program.reflect.Meets contract s post ↔
      program.Meets contract s fun result s => post (.ok result) s := by
  induction program generalizing s with
  | ret value => exact Iff.rfl
  | raise exception => exact Iff.rfl
  | perform op resume induction =>
      constructor
      · intro meets outcome assumed
        have parts := meets outcome assumed
        exact ⟨parts.1, (induction outcome.result).mp parts.2⟩
      · intro meets outcome assumed
        have parts := meets outcome assumed
        exact ⟨parts.1, (induction outcome.result).mpr parts.2⟩

theorem Meets.lift {first : Contract I σ} {second : Contract ops.interface σ}
    {program : Program ops.interface α} {s : σ} {post : Except I.Exc α → σ → Prop}
    (meets : program.Meets second s post) : program.lift.Meets (first.both second) s post := by
  induction program generalizing s with
  | ret value => exact meets
  | raise exception => exact meets
  | perform op resume induction =>
      intro outcome assumed
      have parts := meets outcome.right assumed
      rw [outcome.result_right] at parts
      exact ⟨parts.1, induction outcome.result parts.2⟩

/-- The two states stay related. A handler may use what the program guarantees of the operation,
and has to come to an outcome that the program assumes. -/
structure Handles (handler : (op : I.Op) → Option (Program ops.interface (I.Answer op)))
    (contract : Contract I σ) (first : Contract I τ) (second : Contract ops.interface τ)
    (related : σ → τ → Prop) : Prop where
  performed : ∀ op s t (outcome : Outcome I op), handler op = none → related s t →
    first.assume t ⟨op, outcome⟩ → contract.assume s ⟨op, outcome⟩ ∧
      (contract.guarantee s ⟨op, outcome⟩ → first.guarantee t ⟨op, outcome⟩ ∧
        related (contract.observe s ⟨op, outcome⟩) (first.observe t ⟨op, outcome⟩))
  handled : ∀ op body s t, handler op = some body → related s t →
    (∀ outcome, contract.assume s ⟨op, outcome⟩ → contract.guarantee s ⟨op, outcome⟩) →
      body.Meets second t fun result t' => ∃ outcome : Outcome I op,
        outcome.result = result ∧ contract.assume s ⟨op, outcome⟩ ∧
          related (contract.observe s ⟨op, outcome⟩) t'

theorem Meets.implement {contract : Contract I σ} {first : Contract I τ}
    {second : Contract ops.interface τ} {related : σ → τ → Prop} {program : Program I α} {s : σ}
    {t : τ} {post : Except I.Exc α → σ → Prop} (meets : program.Meets contract s post)
    (handles : Handles handler contract first second related) (starts : related s t) :
    (program.implement handler).Meets (first.both second) t
      fun result t => ∃ s, post result s ∧ related s t := by
  induction program generalizing s t with
  | ret value => exact ⟨s, meets, starts⟩
  | raise exception => exact ⟨s, meets, starts⟩
  | perform op resume induction =>
      rw [Program.implement]
      split
      case h_1 own =>
        intro outcome assumed
        have allowed := handles.performed op s t outcome.left own starts assumed
        have parts := meets outcome.left allowed.1
        have kept := allowed.2 parts.1
        rw [outcome.result_left] at parts
        exact ⟨kept.1, induction outcome.result parts.2 kept.2⟩
      case h_2 body found =>
        have ends := handles.handled op body s t found starts
          fun outcome assumed => (meets outcome assumed).1
        refine meets_bind.mpr (Meets.lift (meets_reflect.mpr (ends.mono ?_)))
        rintro result t' ⟨outcome, rfl, assumed, leads⟩
        exact induction outcome.result (meets outcome assumed).2 leads

/-! ### Runs -/

/-- What raises is reflected in the value. -/
theorem run_reflect_lift (environment : Environment (I.extended ops))
    (program : Program ops.interface α) (history : List (Event (I.extended ops))) :
    ∃ result, (program.reflect.lift.run environment history).2 = .ok result := by
  induction program generalizing history with
  | ret value => exact ⟨.ok value, rfl⟩
  | raise exception => exact ⟨.error exception, rfl⟩
  | perform op resume induction => exact induction _ _

/-- A lifted program performs no operation of the interface itself. -/
theorem left_lift (environment : Environment (I.extended ops))
    (program : Program ops.interface α) (history : List (Event (I.extended ops))) :
    (program.lift.run environment history).1.filterMap Event.left? = [] := by
  induction program generalizing history with
  | ret value => rfl
  | raise exception => rfl
  | perform op resume induction => exact induction _ _

/-- In every surroundings of the whole the program runs as in some surroundings of its own, if
the handled operations may raise anything. -/
theorem run_implement
    (raises : ∀ op, (handler op).isSome = true → ∀ exception, I.mayRaise op exception = true)
    (otherwise : Environment I) (program : Program I α)
    (environment : Environment (I.extended ops)) (history : List (Event (I.extended ops))) :
    ∃ own : Environment I,
      program.result own = ((program.implement handler).run environment history).2 ∧
        (program.trace own).filter (fun event => (handler event.op).isNone) =
          ((program.implement handler).run environment history).1.filterMap Event.left? := by
  induction program generalizing history with
  | ret value => exact ⟨otherwise, rfl, rfl⟩
  | raise exception => exact ⟨otherwise, rfl, rfl⟩
  | perform op resume induction =>
      cases found : handler op with
      | none =>
          have whole : (Program.perform op resume).implement handler =
              .perform (I := I.extended ops) (.inl op) fun result =>
                (resume result).implement handler := by
            simp only [Program.implement, found]
          have same := (environment history (.inl op)).result_left
          rcases induction (environment history (.inl op)).result
            (history ++ [⟨.inl op, environment history (.inl op)⟩]) with ⟨own, ends, events⟩
          have first := trace_startingWith (environment history (.inl op)).left own resume
          rw [same] at first
          refine ⟨startingWith (environment history (.inl op)).left own, ?_, ?_⟩
          · rw [whole, first.2]
            exact ends
          · rw [whole, first.1, List.filter_cons_of_pos (by simp [found])]
            exact congrArg _ events
      | some body =>
          have whole : (Program.perform op resume).implement handler =
              body.reflect.lift >>= fun result => (resume result).implement handler := by
            simp only [Program.implement, found]
            rfl
          rcases run_reflect_lift environment body history with ⟨result, value⟩
          have ran : body.reflect.lift.run environment history =
              ((body.reflect.lift.run environment history).1, .ok result) := Prod.ext rfl value
          have outcome : ∃ outcome : Outcome I op, outcome.result = result := by
            cases result with
            | ok answer => exact ⟨.returned answer, rfl⟩
            | error exception =>
                exact ⟨.raised exception true (raises op (by simp [found]) exception), rfl⟩
          rcases outcome with ⟨outcome, rfl⟩
          rcases induction outcome.result
            (history ++ (body.reflect.lift.run environment history).1) with ⟨own, ends, events⟩
          have first := trace_startingWith outcome own resume
          refine ⟨startingWith outcome own, ?_, ?_⟩
          · rw [whole, run_bind_ok ran, first.2]
            exact ends
          · rw [whole, run_bind_ok ran, first.1, List.filter_cons_of_neg (by simp [found]),
              List.filterMap_append, left_lift, List.nil_append]
            exact events

end Program

end GrafuxMcp
