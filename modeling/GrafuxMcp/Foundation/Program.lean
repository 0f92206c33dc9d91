import GrafuxMcp.Foundation.Trace

/-! # Programs that perform operations

A program is a tree: it returns, raises, or performs an operation and goes on
with whatever the operation answered or raised. An environment decides the
outcome of every operation, so the runs of a program are its paths. -/

namespace GrafuxMcp

/-- The operations a program may perform, what each answers, the exceptions of
the language and which of them an operation may raise. -/
structure Interface where
  Op : Type
  Answer : Op → Type
  Exc : Type
  mayRaise : Op → Exc → Bool

/-- What became of one performed operation. An operation that raises may still
have taken effect: a commit whose reply is lost, a message that was sent just
before its sender was interrupted. -/
inductive Outcome (I : Interface) (op : I.Op)
  | returned (answer : I.Answer op)
  | raised (exception : I.Exc) (applied : Bool)
      (possible : I.mayRaise op exception = true)

namespace Outcome

variable {I : Interface} {op : I.Op}

/-- What the program sees of an outcome. -/
def result : Outcome I op → Except I.Exc (I.Answer op)
  | .returned answer => .ok answer
  | .raised exception _ _ => .error exception

/-- Whether the operation took effect. -/
def applied : Outcome I op → Bool
  | .returned _ => true
  | .raised _ applied _ => applied

/-- The exception of an operation that raised. -/
def exception? : Outcome I op → Option I.Exc
  | .returned _ => none
  | .raised exception _ _ => some exception

@[simp] theorem result_returned (answer : I.Answer op) :
    (returned answer : Outcome I op).result = .ok answer := rfl

@[simp] theorem result_raised (exception : I.Exc) (applied : Bool)
    (possible : I.mayRaise op exception = true) :
    (raised exception applied possible).result = .error exception := rfl

@[simp] theorem applied_returned (answer : I.Answer op) :
    (returned answer : Outcome I op).applied = true := rfl

@[simp] theorem applied_raised (exception : I.Exc) (applied : Bool)
    (possible : I.mayRaise op exception = true) :
    (raised exception applied possible).applied = applied := rfl

@[simp] theorem exception?_returned (answer : I.Answer op) :
    (returned answer : Outcome I op).exception? = none := rfl

@[simp] theorem exception?_raised (exception : I.Exc) (applied : Bool)
    (possible : I.mayRaise op exception = true) :
    (raised exception applied possible).exception? = some exception := rfl

end Outcome

/-- One performed operation and its outcome. -/
structure Event (I : Interface) where
  op : I.Op
  outcome : Outcome I op

inductive Program (I : Interface) (α : Type)
  | ret (value : α)
  | raise (exception : I.Exc)
  | perform (op : I.Op)
      (resume : Except I.Exc (I.Answer op) → Program I α)

namespace Program

variable {I : Interface} {α β : Type}

def bind : Program I α → (α → Program I β) → Program I β
  | .ret value, next => next value
  | .raise exception, _ => .raise exception
  | .perform op resume, next =>
      .perform op fun result => (resume result).bind next

/-- Run `body`; an exception it raises goes to the handler. -/
def tryCatch : Program I α → (I.Exc → Program I α) → Program I α
  | .ret value, _ => .ret value
  | .raise exception, handler => handler exception
  | .perform op resume, handler =>
      .perform op fun result => (resume result).tryCatch handler

/-- Run `body` and then `cleanup`, whether `body` returned or raised. -/
def tryFinally (body : Program I α) (cleanup : Program I Unit) : Program I α :=
  (body.tryCatch fun exception => cleanup.bind fun _ => .raise exception).bind
    fun value => cleanup.bind fun _ => .ret value

instance : Monad (Program I) where
  pure := .ret
  bind := bind

instance : MonadExcept I.Exc (Program I) where
  throw := .raise
  tryCatch := tryCatch

/-- Perform an operation: its answer is returned and its exception raised. -/
def call (op : I.Op) : Program I (I.Answer op) :=
  .perform op fun
    | .ok answer => .ret answer
    | .error exception => .raise exception

end Program

/-- An environment answers every operation, knowing all that was performed
before it. Quantifying over environments covers every run. -/
abbrev Environment (I : Interface) :=
  List (Event I) → (op : I.Op) → Outcome I op

namespace Program

variable {I : Interface} {α β : Type}

/-- The events a program performs after `history`, and how it ends. -/
def run (environment : Environment I) :
    Program I α → List (Event I) → List (Event I) × Except I.Exc α
  | .ret value, _ => ([], .ok value)
  | .raise exception, _ => ([], .error exception)
  | .perform op resume, history =>
      let outcome := environment history op
      let event : Event I := ⟨op, outcome⟩
      let rest := (resume outcome.result).run environment (history ++ [event])
      (event :: rest.1, rest.2)

/-- The events of a whole run. -/
def trace (environment : Environment I) (program : Program I α) :
    List (Event I) := (program.run environment []).1

/-- How a whole run ends. -/
def result (environment : Environment I) (program : Program I α) :
    Except I.Exc α := (program.run environment []).2

/-- A first program that returns is followed by the rest. -/
theorem run_bind_ok {environment : Environment I} {program : Program I α}
    {next : α → Program I β} {history events : List (Event I)} {value : α}
    (ran : program.run environment history = (events, .ok value)) :
    (program >>= next).run environment history =
      (events ++ ((next value).run environment (history ++ events)).1,
        ((next value).run environment (history ++ events)).2) := by
  change (program.bind next).run environment history = _
  induction program generalizing history events with
  | raise exception => simp [run] at ran
  | ret first =>
      simp only [run, Prod.mk.injEq, Except.ok.injEq] at ran
      obtain ⟨rfl, rfl⟩ := ran
      simp [bind]
  | perform op resume induction =>
      simp only [run, Prod.mk.injEq] at ran
      obtain ⟨rfl, ends⟩ := ran
      simp only [bind, run]
      rw [induction _ (Prod.ext rfl ends), List.append_assoc]
      rfl

end Program

/-- A contract between a program and its environment, over a state that
`observe` keeps of the events: what each step may assume and must guarantee. -/
structure Contract (I : Interface) (σ : Type) where
  observe : σ → Event I → σ
  assume : σ → Event I → Prop
  guarantee : σ → Event I → Prop

namespace Program

variable {I : Interface} {σ : Type} {α β : Type}

/-- Every run of the program from state `s` keeps the contract and ends in a
result and a state that satisfy `post`. -/
def Meets (contract : Contract I σ) :
    Program I α → σ → (Except I.Exc α → σ → Prop) → Prop
  | .ret value, s, post => post (.ok value) s
  | .raise exception, s, post => post (.error exception) s
  | .perform op resume, s, post =>
      ∀ outcome : Outcome I op, contract.assume s ⟨op, outcome⟩ →
        contract.guarantee s ⟨op, outcome⟩ ∧
          (resume outcome.result).Meets contract
            (contract.observe s ⟨op, outcome⟩) post

variable {contract : Contract I σ} {s : σ}

theorem Meets.mono {program : Program I α}
    {post weaker : Except I.Exc α → σ → Prop}
    (implied : ∀ result s, post result s → weaker result s)
    (meets : program.Meets contract s post) :
    program.Meets contract s weaker := by
  induction program generalizing s with
  | ret value => exact implied _ _ meets
  | raise exception => exact implied _ _ meets
  | perform op resume induction =>
      intro outcome assumed
      have parts := meets outcome assumed
      exact ⟨parts.1, induction outcome.result parts.2⟩

/-- The postcondition that `next` has to meet after a first program: an
exception skips it. -/
@[reducible] def andThen (contract : Contract I σ) (next : α → Program I β)
    (post : Except I.Exc β → σ → Prop) : Except I.Exc α → σ → Prop
  | .ok value, s => (next value).Meets contract s post
  | .error exception, s => post (.error exception) s

/-- The postcondition of a guarded body: an exception goes to the handler. -/
@[reducible] def orElse (contract : Contract I σ)
    (handler : I.Exc → Program I α)
    (post : Except I.Exc α → σ → Prop) : Except I.Exc α → σ → Prop
  | .ok value, s => post (.ok value) s
  | .error exception, s => (handler exception).Meets contract s post

theorem meets_bind {program : Program I α} {next : α → Program I β}
    {post : Except I.Exc β → σ → Prop} :
    (program >>= next).Meets contract s post ↔
      program.Meets contract s (andThen contract next post) := by
  change (program.bind next).Meets contract s post ↔ _
  induction program generalizing s with
  | ret value => rfl
  | raise exception => rfl
  | perform op resume induction =>
      constructor <;> intro meets outcome assumed
      · exact ⟨(meets outcome assumed).1,
          (induction outcome.result).mp (meets outcome assumed).2⟩
      · exact ⟨(meets outcome assumed).1,
          (induction outcome.result).mpr (meets outcome assumed).2⟩

theorem meets_tryCatch {program : Program I α}
    {handler : I.Exc → Program I α} {post : Except I.Exc α → σ → Prop} :
    (MonadExcept.tryCatch program handler : Program I α).Meets contract s post ↔
      program.Meets contract s (orElse contract handler post) := by
  change (program.tryCatch handler).Meets contract s post ↔ _
  induction program generalizing s with
  | ret value => rfl
  | raise exception => rfl
  | perform op resume induction =>
      constructor <;> intro meets outcome assumed
      · exact ⟨(meets outcome assumed).1,
          (induction outcome.result).mp (meets outcome assumed).2⟩
      · exact ⟨(meets outcome assumed).1,
          (induction outcome.result).mpr (meets outcome assumed).2⟩

@[simp] theorem meets_pure {value : α} {post : Except I.Exc α → σ → Prop} :
    (pure value : Program I α).Meets contract s post ↔ post (.ok value) s :=
  Iff.rfl

@[simp] theorem meets_throw {exception : I.Exc}
    {post : Except I.Exc α → σ → Prop} :
    (throw exception : Program I α).Meets contract s post ↔
      post (.error exception) s :=
  Iff.rfl

/-- One operation meets its contract when every outcome it may assume does. -/
theorem meets_call {op : I.Op}
    {post : Except I.Exc (I.Answer op) → σ → Prop}
    (each : ∀ outcome : Outcome I op, contract.assume s ⟨op, outcome⟩ →
      contract.guarantee s ⟨op, outcome⟩ ∧
        post outcome.result (contract.observe s ⟨op, outcome⟩)) :
    (call op).Meets contract s post := by
  intro outcome assumed
  have parts := each outcome assumed
  refine ⟨parts.1, ?_⟩
  cases outcome with
  | returned answer => exact parts.2
  | raised exception applied possible => exact parts.2

theorem meets_tryFinally {program : Program I α} {cleanup : Program I Unit}
    {post : Except I.Exc α → σ → Prop}
    (meets : program.Meets contract s fun result s =>
      cleanup.Meets contract s fun ended s =>
        match result, ended with
        | _, .error exception => post (.error exception) s
        | .error exception, .ok _ => post (.error exception) s
        | .ok value, .ok _ => post (.ok value) s) :
    (program.tryFinally cleanup).Meets contract s post := by
  apply meets_bind.mpr
  apply meets_tryCatch.mpr
  refine meets.mono ?_
  intro result s cleaned
  cases result with
  | ok value =>
      apply meets_bind.mpr
      refine cleaned.mono ?_
      intro ended s holds
      cases ended with
      | ok _ => exact holds
      | error exception => exact holds
  | error exception =>
      apply meets_bind.mpr
      refine cleaned.mono ?_
      intro ended s holds
      cases ended with
      | ok _ => exact holds
      | error exception => exact holds

theorem run_meets {program : Program I α}
    {post : Except I.Exc α → σ → Prop}
    (meets : program.Meets contract s post) (environment : Environment I)
    (history : List (Event I))
    (assumed : EachStep contract.observe contract.assume s
      (program.run environment history).1) :
    EachStep contract.observe contract.guarantee s
        (program.run environment history).1 ∧
      post (program.run environment history).2
        ((program.run environment history).1.foldl contract.observe s) := by
  induction program generalizing s history with
  | ret value => exact ⟨eachStep_nil _, meets⟩
  | raise exception => exact ⟨eachStep_nil _, meets⟩
  | perform op resume induction =>
      have parts := (eachStep_cons _ _).mp assumed
      have first := meets _ parts.1
      have rest := induction _ first.2 _ parts.2
      exact ⟨(eachStep_cons _ _).mpr ⟨first.1, rest.1⟩, rest.2⟩

/-- A program that meets its contract keeps it in every run whose environment
keeps its side. -/
theorem Meets.sound {program : Program I α}
    {post : Except I.Exc α → σ → Prop}
    (meets : program.Meets contract s post) (environment : Environment I)
    (assumed : EachStep contract.observe contract.assume s
      (program.trace environment)) :
    EachStep contract.observe contract.guarantee s
        (program.trace environment) ∧
      post (program.result environment)
        ((program.trace environment).foldl contract.observe s) :=
  run_meets meets environment [] assumed

end Program

end GrafuxMcp
