import GrafuxMcp.Foundation.Handlers
import GrafuxMcp.Foundation.Unwinding
import Mathlib.Logic.Function.Basic

/-! # Programs over a shared store

The tasks of several owners take turns at their operations, and one store answers them. If
the operations of each owner are confined to its part of the store, no owner notices what the
tasks of the others do. -/

namespace GrafuxMcp

variable {I : Interface} {Owner Store Choice View α β : Type}

/-- What an operation comes to, with the store after it. The choice is what the store leaves
open; a choice that it does not have gives `none`. -/
abbrev Answering (I : Interface) (Store Choice : Type) :=
  Store → (op : I.Op) → Choice → Option (Except I.Exc (I.Answer op) × Store)

/-! ### Confined programs -/

/-- Each owner has a part of the store that its confined operations keep to. -/
structure Confinement (answering : Answering I Store Choice) (Owner View : Type) where
  safe : Store → Prop
  /-- The choices that may be made for an owner. -/
  chosen : Owner → Choice → Prop
  confined : Owner → I.Op → Prop
  /-- What the answer to a confined operation tells. -/
  known : Owner → (op : I.Op) → I.Answer op → Prop
  view : Owner → Store → View
  kept : ∀ {owner s op choice result s'}, safe s → confined owner op → chosen owner choice →
    answering s op choice = some (result, s') →
      safe s' ∧ ∀ answer, result = .ok answer → known owner op answer
  /-- No other owner sees the operation. -/
  hidden : ∀ {owner other s op choice result s'}, safe s → confined owner op →
    chosen owner choice → other ≠ owner → answering s op choice = some (result, s') →
      view other s' = view other s
  /-- What the operation comes to is decided by the part of its owner. -/
  visible : ∀ {owner s t op choice result s'}, safe s → safe t → confined owner op →
    chosen owner choice → view owner s = view owner t →
      answering s op choice = some (result, s') →
        ∃ t', answering t op choice = some (result, t') ∧ view owner s' = view owner t'

namespace Confinement

variable {answering : Answering I Store Choice} (c : Confinement answering Owner View)

/-- All operations of the program are confined, and something is known of its value. -/
def Within (owner : Owner) : Program I α → (α → Prop) → Prop
  | .ret value, knows => knows value
  | .raise _, _ => True
  | .perform op resume, knows =>
      c.confined owner op ∧ ∀ result, (∀ answer, result = .ok answer → c.known owner op answer) →
        Within owner (resume result) knows

variable {c} {owner : Owner} {knows : α → Prop} {later : β → Prop}

theorem Within.mono {weaker : α → Prop} {program : Program I α}
    (within : c.Within owner program knows)
    (implied : ∀ value, knows value → weaker value) : c.Within owner program weaker := by
  induction program with
  | ret value => exact implied value within
  | raise exception => trivial
  | perform op resume induction =>
      exact ⟨within.1, fun result learned => induction result (within.2 result learned)⟩

theorem within_pure {value : α} (holds : knows value) :
    c.Within owner (pure value : Program I α) knows :=
  holds

/-- Nothing is known of the value. -/
theorem within_return (value : α) : c.Within owner (pure value : Program I α) fun _ => True :=
  within_pure trivial

theorem within_throw (exception : I.Exc) :
    c.Within owner (throw exception : Program I α) knows :=
  trivial

theorem Within.bind {program : Program I α} {next : α → Program I β}
    (within : c.Within owner program knows)
    (rest : ∀ value, knows value → c.Within owner (next value) later) :
    c.Within owner (program >>= next) later := by
  change c.Within owner (program.bind next) later
  induction program with
  | ret value => exact rest value within
  | raise exception => trivial
  | perform op resume induction =>
      exact ⟨within.1, fun result learned => induction result (within.2 result learned)⟩

/-- The rest does not depend on what is known of the value. -/
theorem Within.followed {program : Program I α} {next : α → Program I β}
    (within : c.Within owner program fun _ => True)
    (rest : ∀ value, c.Within owner (next value) later) :
    c.Within owner (program >>= next) later :=
  within.bind fun value _ => rest value

theorem Within.tryCatch {program : Program I α} {handler : I.Exc → Program I α}
    (within : c.Within owner program knows)
    (handled : ∀ exception, c.Within owner (handler exception) knows) :
    c.Within owner (MonadExcept.tryCatch program handler : Program I α) knows := by
  change c.Within owner (program.tryCatch handler) knows
  induction program with
  | ret value => exact within
  | raise exception => exact handled exception
  | perform op resume induction =>
      exact ⟨within.1, fun result learned => induction result (within.2 result learned)⟩

theorem Within.operation {op : I.Op} {resume : Except I.Exc (I.Answer op) → Program I α}
    (within : c.Within owner (.perform op resume) knows) : c.confined owner op ∧
      ∀ result, (∀ answer, result = .ok answer → c.known owner op answer) →
        c.Within owner (resume result) knows :=
  within

theorem Within.reflect {program : Program I α} (within : c.Within owner program knows) :
    c.Within owner program.reflect fun result => ∀ value, result = .ok value → knows value := by
  induction program with
  | ret value =>
      intro other same
      rw [← Except.ok.inj same]
      exact within
  | raise exception => exact fun other impossible => nomatch impossible
  | perform op resume induction =>
      exact ⟨within.1, fun result learned => induction result (within.2 result learned)⟩

theorem Within.tryFinally {program : Program I α} {cleanup : Program I Unit}
    (within : c.Within owner program knows) (cleaned : c.Within owner cleanup fun _ => True) :
    c.Within owner (program.tryFinally cleanup) knows := by
  have raised : ∀ exception, c.Within owner
      (cleanup >>= fun _ => throw exception : Program I α) knows :=
    fun exception => cleaned.followed fun _ => within_throw exception
  refine (within.tryCatch raised).bind fun value holds => ?_
  exact cleaned.followed fun _ => within_pure holds

theorem within_call {op : I.Op} (confined : c.confined owner op) :
    c.Within owner (Program.call op) (c.known owner op) := by
  refine ⟨confined, ?_⟩
  intro result learned
  cases result with
  | ok answer => exact learned answer rfl
  | error exception => trivial

-- a program is not run to see what is said of it
attribute [irreducible] Within

end Confinement

/-! ### The machine -/

/-- The store, the tasks that have not ended, and what the others came to. -/
structure Machine (I : Interface) (Owner Store α : Type) where
  store : Store
  tasks : Owner × Nat → Option (Program I α) := fun _ => none
  results : List ((Owner × Nat) × Except I.Exc α) := []

/-- A task begins, or performs its next operation. -/
inductive Turn (I : Interface) (Owner Choice α : Type)
  | start (task : Owner × Nat) (program : Program I α)
  | move (task : Owner × Nat) (choice : Choice)

def Turn.task : Turn I Owner Choice α → Owner × Nat
  | .start task _ | .move task _ => task

namespace Machine

variable (m : Machine I Owner Store α) [DecidableEq Owner]

def goto (task : Owner × Nat) (program : Program I α) : Machine I Owner Store α :=
  { m with tasks := Function.update m.tasks task (some program) }

def finish (task : Owner × Nat) (result : Except I.Exc α) : Machine I Owner Store α :=
  { m with
    tasks := Function.update m.tasks task none
    results := (task, result) :: m.results }

def resultsOf (owner : Owner) : List ((Owner × Nat) × Except I.Exc α) :=
  m.results.filter fun item => item.1.1 = owner

def step (answering : Answering I Store Choice) :
    Turn I Owner Choice α → Option (Machine I Owner Store α)
  | .start task program =>
      match m.tasks task with
      | none => some (m.goto task program)
      | some _ => none
  | .move task choice =>
      match m.tasks task with
      | none => none
      | some (.ret value) => some (m.finish task (.ok value))
      | some (.raise exception) => some (m.finish task (.error exception))
      | some (.perform op resume) =>
          (answering m.store op choice).map fun answer =>
            { m.goto task (resume answer.1) with store := answer.2 }

theorem tasks_goto (task other : Owner × Nat) (program : Program I α) :
    (m.goto task program).tasks other = if other = task then some program else m.tasks other := by
  simp [goto, Function.update_apply]

theorem tasks_finish (task other : Owner × Nat) (result : Except I.Exc α) :
    (m.finish task result).tasks other = if other = task then none else m.tasks other := by
  simp [finish, Function.update_apply]

/-- The machine after a history of turns, if all of them are possible. -/
def run (answering : Answering I Store Choice) (history : List (Turn I Owner Choice α)) :
    Option (Machine I Owner Store α) :=
  history.foldlM (fun m turn => m.step answering turn) m

end Machine

/-! ### What the owners see -/

section Owners

variable [DecidableEq Owner] {answering : Answering I Store Choice}
  (c : Confinement answering Owner View)

/-- A program that begins is confined to its owner. -/
def Turn.Allowed : Turn I Owner Choice α → Prop
  | .start task program => c.Within task.1 program fun _ => True
  | .move task choice => c.chosen task.1 choice

structure Machine.Safe (m : Machine I Owner Store α) : Prop where
  store : c.safe m.store
  tasks : ∀ task program, m.tasks task = some program → c.Within task.1 program fun _ => True

/-- The machines do not differ for the owner. -/
structure Machine.Alike (owner : Owner) (m m' : Machine I Owner Store α) : Prop where
  view : c.view owner m.store = c.view owner m'.store
  tasks : ∀ n, m.tasks (owner, n) = m'.tasks (owner, n)
  results : m.resultsOf owner = m'.resultsOf owner

def Turn.secret (owner : Owner) (turn : Turn I Owner Choice α) : Bool :=
  turn.task.1 ≠ owner

variable {c} {m m' t : Machine I Owner Store α} {owner : Owner} {turn : Turn I Owner Choice α}
  {task : Owner × Nat} {program : Program I α}

theorem Machine.Alike.refl (owner : Owner) (m : Machine I Owner Store α) :
    Machine.Alike c owner m m :=
  ⟨rfl, fun _ => rfl, rfl⟩

/-- The program of one task is replaced. -/
theorem Machine.Safe.goto {s : Store} (safe : m.Safe c) (storeSafe : c.safe s)
    (within : c.Within task.1 program fun _ => True) :
    Machine.Safe c { m.goto task program with store := s } := by
  refine ⟨storeSafe, ?_⟩
  intro other found running
  have now : (m.goto task program).tasks other = some found := running
  rw [Machine.tasks_goto] at now
  split at now
  case isTrue same =>
    rw [same, ← Option.some.inj now]
    exact within
  case isFalse => exact safe.tasks other found now

theorem Machine.Safe.finish {result : Except I.Exc α} (safe : m.Safe c) :
    (m.finish task result).Safe c := by
  refine ⟨safe.store, ?_⟩
  intro other found running
  rw [Machine.tasks_finish] at running
  split at running
  · cases running
  · exact safe.tasks other found running

/-- What one turn does. -/
theorem Machine.step_cases (stepped : m.step answering turn = some m') :
    (∃ task program, turn = .start task program ∧ m.tasks task = none ∧ m' = m.goto task program) ∨
    (∃ task choice result, turn = .move task choice ∧ m' = m.finish task result ∧
      (m.tasks task = some (match result with
        | .ok value => .ret value
        | .error exception => .raise exception))) ∨
    (∃ task choice op resume result s, turn = .move task choice ∧
      m.tasks task = some (.perform op resume) ∧ answering m.store op choice = some (result, s) ∧
      m' = { m.goto task (resume result) with store := s }) := by
  cases turn with
  | start task program =>
      left
      simp only [Machine.step] at stepped
      split at stepped
      case h_1 free => exact ⟨task, program, rfl, free, (Option.some.inj stepped).symm⟩
      case h_2 => cases stepped
  | move task choice =>
      right
      simp only [Machine.step] at stepped
      split at stepped
      case h_1 => cases stepped
      case h_2 value here =>
        exact Or.inl ⟨task, choice, .ok value, rfl, (Option.some.inj stepped).symm, here⟩
      case h_3 exception here =>
        exact Or.inl ⟨task, choice, .error exception, rfl, (Option.some.inj stepped).symm, here⟩
      case h_4 op resume here =>
        rcases Option.map_eq_some_iff.mp stepped with ⟨⟨result, s⟩, answered, equal⟩
        exact Or.inr ⟨task, choice, op, resume, result, s, rfl, here, answered, equal.symm⟩

theorem Machine.Safe.step (safe : m.Safe c) (allowed : turn.Allowed c)
    (stepped : m.step answering turn = some m') : m'.Safe c := by
  rcases Machine.step_cases stepped with ⟨task, program, rfl, _, rfl⟩ |
    ⟨task, choice, result, rfl, rfl, _⟩ |
    ⟨task, choice, op, resume, result, s, rfl, here, answered, rfl⟩
  · exact safe.goto safe.store allowed
  · exact safe.finish
  · have within := Confinement.Within.operation (safe.tasks task _ here)
    have kept := c.kept safe.store within.1 allowed answered
    exact safe.goto kept.1 (within.2 result kept.2)

theorem Machine.Safe.run {history : List (Turn I Owner Choice α)} (safe : m.Safe c)
    (all : ∀ turn ∈ history, turn.Allowed c) (runs : m.run answering history = some m') :
    m'.Safe c := by
  induction history generalizing m with
  | nil =>
      cases runs
      exact safe
  | cons turn history induction =>
      rw [Machine.run, List.foldlM_cons] at runs
      rcases Option.bind_eq_some_iff.mp runs with ⟨middle, stepped, rest⟩
      exact induction (safe.step (all turn List.mem_cons_self) stepped)
        (fun other member => all other (List.mem_cons_of_mem _ member)) rest

omit [DecidableEq Owner] in
/-- Whatever a task performs is confined to its owner. -/
theorem Machine.Safe.confined (safe : m.Safe c) {op : I.Op}
    {resume : Except I.Exc (I.Answer op) → Program I α}
    (here : m.tasks task = some (.perform op resume)) : c.confined task.1 op :=
  (Confinement.Within.operation (safe.tasks task _ here)).1

/-! ### Turns of others -/

theorem tasks_goto_of_other (different : task.1 ≠ owner) (n : Nat) :
    (m.goto task program).tasks (owner, n) = m.tasks (owner, n) := by
  rw [Machine.tasks_goto, if_neg]
  rintro rfl
  exact different rfl

theorem tasks_finish_of_other {result : Except I.Exc α} (different : task.1 ≠ owner) (n : Nat) :
    (m.finish task result).tasks (owner, n) = m.tasks (owner, n) := by
  rw [Machine.tasks_finish, if_neg]
  rintro rfl
  exact different rfl

theorem resultsOf_finish_of_other {result : Except I.Exc α} (different : task.1 ≠ owner) :
    (m.finish task result).resultsOf owner = m.resultsOf owner :=
  List.filter_cons_of_neg (by simpa using different)

theorem Machine.Alike.hidden (safe : m.Safe c) (alike : m.Alike c owner t)
    (allowed : turn.Allowed c) (secret : turn.secret owner = true)
    (stepped : m.step answering turn = some m') : m'.Alike c owner t := by
  rcases Machine.step_cases stepped with ⟨task, program, rfl, _, rfl⟩ |
    ⟨task, choice, result, rfl, rfl, _⟩ |
    ⟨task, choice, op, resume, result, s, rfl, here, answered, rfl⟩
  · have different : task.1 ≠ owner := of_decide_eq_true secret
    refine ⟨alike.view, ?_, alike.results⟩
    exact fun n => (tasks_goto_of_other different n).trans (alike.tasks n)
  · have different : task.1 ≠ owner := of_decide_eq_true secret
    refine ⟨alike.view, ?_, (resultsOf_finish_of_other different).trans alike.results⟩
    exact fun n => (tasks_finish_of_other different n).trans (alike.tasks n)
  · have different : task.1 ≠ owner := of_decide_eq_true secret
    have confined := safe.confined here
    have same := c.hidden safe.store confined allowed different.symm answered
    refine ⟨same.trans alike.view, ?_, alike.results⟩
    exact fun n => (tasks_goto_of_other different n).trans (alike.tasks n)

/-! ### Turns of the owner -/

theorem Machine.Alike.goto {s s' : Store} (alike : m.Alike c owner t)
    (same : c.view owner s = c.view owner s') :
    Machine.Alike c owner { m.goto task program with store := s }
      { t.goto task program with store := s' } := by
  refine ⟨same, ?_, alike.results⟩
  intro n
  change (m.goto task program).tasks (owner, n) = (t.goto task program).tasks (owner, n)
  rw [Machine.tasks_goto, Machine.tasks_goto, alike.tasks n]

theorem Machine.Alike.finish {result : Except I.Exc α} (alike : m.Alike c owner t) :
    (m.finish task result).Alike c owner (t.finish task result) := by
  refine ⟨alike.view, ?_, ?_⟩
  · intro n
    rw [Machine.tasks_finish, Machine.tasks_finish, alike.tasks n]
  · have results : m.results.filter (fun item => item.1.1 = owner) =
        t.results.filter fun item => item.1.1 = owner := alike.results
    simp only [Machine.resultsOf, Machine.finish, List.filter_cons, results]

theorem Machine.Alike.visible (safe : m.Safe c) (safe' : t.Safe c) (alike : m.Alike c owner t)
    (allowed : turn.Allowed c) (own : turn.secret owner = false)
    (stepped : m.step answering turn = some m') :
    ∃ t', t.step answering turn = some t' ∧ m'.Alike c owner t' := by
  have mine : turn.task.1 = owner := by simpa [Turn.secret] using own
  have tasks : m.tasks turn.task = t.tasks turn.task := by
    have same := alike.tasks turn.task.2
    rw [← mine] at same
    exact same
  rcases Machine.step_cases stepped with ⟨task, program, rfl, free, rfl⟩ |
    ⟨task, choice, result, rfl, rfl, here⟩ |
    ⟨task, choice, op, resume, result, s, rfl, here, answered, rfl⟩
  · refine ⟨t.goto task program, ?_, alike.goto alike.view⟩
    have free' : t.tasks task = none := tasks.symm.trans free
    simp only [Machine.step, free']
  · refine ⟨t.finish task result, ?_, alike.finish⟩
    have here' := tasks.symm.trans here
    cases result with
    | ok value => simp only [Machine.step, Turn.task] at here' ⊢; rw [here']
    | error exception => simp only [Machine.step, Turn.task] at here' ⊢; rw [here']
  · have confined := safe.confined here
    have owned : task.1 = owner := mine
    have view := alike.view
    rw [← owned] at view
    rcases c.visible safe.store safe'.store confined allowed view answered with
      ⟨s', answered', same⟩
    rw [owned] at same
    refine ⟨{ t.goto task (resume result) with store := s' }, ?_, alike.goto same⟩
    have here' : t.tasks task = some (.perform op resume) := tasks.symm.trans here
    simp only [Machine.step, here', answered', Option.map_some]

/-! ### Histories -/

theorem unwinding (c : Confinement answering Owner View) (owner : Owner) :
    Unwinding (fun (m : Machine I Owner Store α) turn => m.step answering turn) (Turn.Allowed c)
      (Machine.Safe c) (Machine.Alike c owner) (Turn.secret owner) where
  safe_step _ _ _ safe allowed stepped := safe.step allowed stepped
  hidden _ _ _ _ safe alike allowed secret stepped := alike.hidden safe allowed secret stepped
  visible _ _ _ _ safe safe' alike allowed own stepped :=
    alike.visible safe safe' allowed own stepped

/-- Without the turns of the others, a history is possible and comes to the same for the owner. -/
theorem Confinement.alone (c : Confinement answering Owner View) (owner : Owner)
    {start : Machine I Owner Store α} {history : List (Turn I Owner Choice α)}
    (safe : start.Safe c) (all : ∀ turn ∈ history, turn.Allowed c)
    (runs : start.run answering history = some m) :
    ∃ t, start.run answering (withoutSecret (Turn.secret owner) history) = some t ∧
      m.Alike c owner t :=
  (unwinding c owner).purged safe safe (.refl owner start) all runs

end Owners

end GrafuxMcp
