import GrafuxMcp.Foundation.Program

/-! # Contracts and all runs of a program

`Meets.sound` says that a program which meets its contract keeps it in every
run. Conversely, a program that keeps its contract in every run meets it: each
outcome that the contract allows is the beginning of some run. -/

namespace GrafuxMcp.Program

variable {I : Interface} {σ : Type} {α β : Type} {contract : Contract I σ} {s : σ}

/-- One allowed outcome of an operation that a program begins with. -/
theorem Meets.of_call {op : I.Op} {post : Except I.Exc (I.Answer op) → σ → Prop}
    (meets : (call op).Meets contract s post) (outcome : Outcome I op)
    (assumed : contract.assume s ⟨op, outcome⟩) :
    contract.guarantee s ⟨op, outcome⟩ ∧
      post outcome.result (contract.observe s ⟨op, outcome⟩) := by
  have parts := meets outcome assumed
  cases outcome with
  | returned answer => exact parts
  | raised exception applied possible => exact parts

/-! ### Programs that keep an invariant -/

section Keeps

variable {inv : σ → Prop}

/-- From a state with the invariant, every step of the program keeps the
contract, and the invariant is true again however the program ends. -/
def Keeps (contract : Contract I σ) (inv : σ → Prop) (program : Program I α) : Prop :=
  ∀ s, inv s → program.Meets contract s fun _ s => inv s

theorem keeps_pure (value : α) : Keeps contract inv (pure value : Program I α) :=
  fun _ holds => meets_pure.mpr holds

theorem keeps_throw (exception : I.Exc) :
    Keeps contract inv (throw exception : Program I α) :=
  fun _ holds => meets_throw.mpr holds

/-- After a program that keeps the invariant the rest may rely on it. -/
theorem Keeps.andThen {program : Program I α} {next : α → Program I β}
    {post : Except I.Exc β → σ → Prop} (first : Keeps contract inv program) (holds : inv s)
    (rest : ∀ value s, inv s → (next value).Meets contract s post)
    (raised : ∀ exception s, inv s → post (.error exception) s) :
    (program >>= next).Meets contract s post := by
  refine meets_bind.mpr ((first s holds).mono ?_)
  intro result s holds
  cases result with
  | ok value => exact rest value s holds
  | error exception => exact raised exception s holds

theorem keeps_bind {program : Program I α} {next : α → Program I β}
    (first : Keeps contract inv program) (rest : ∀ value, Keeps contract inv (next value)) :
    Keeps contract inv (program >>= next) :=
  fun _ holds => first.andThen holds rest fun _ _ holds => holds

theorem keeps_tryCatch {program : Program I α} {handler : I.Exc → Program I α}
    (body : Keeps contract inv program)
    (handled : ∀ exception, Keeps contract inv (handler exception)) :
    Keeps contract inv (MonadExcept.tryCatch program handler : Program I α) := by
  intro s holds
  refine meets_tryCatch.mpr ((body s holds).mono ?_)
  intro result s holds
  cases result with
  | ok _ => exact holds
  | error exception => exact handled exception s holds

theorem keeps_tryFinally {program : Program I α} {cleanup : Program I Unit}
    (body : Keeps contract inv program) (cleans : Keeps contract inv cleanup) :
    Keeps contract inv (program.tryFinally cleanup) := by
  intro s holds
  apply meets_tryFinally
  refine (body s holds).mono ?_
  intro result s holds
  refine (cleans s holds).mono ?_
  intro ended s holds
  cases ended with
  | error _ => exact holds
  | ok _ =>
      cases result with
      | ok _ => exact holds
      | error _ => exact holds

theorem keeps_call {op : I.Op}
    (each : ∀ s (outcome : Outcome I op), inv s → contract.assume s ⟨op, outcome⟩ →
      contract.guarantee s ⟨op, outcome⟩ ∧ inv (contract.observe s ⟨op, outcome⟩)) :
    Keeps contract inv (call op) :=
  fun s holds => meets_call fun outcome assumed => each s outcome holds assumed

theorem keeps_forM {values : List α} {body : α → Program I PUnit}
    (each : ∀ value ∈ values, Keeps contract inv (body value)) :
    Keeps contract inv (values.forM body) := by
  induction values with
  | nil => exact keeps_pure _
  | cons value values induction =>
      simp only [List.forM]
      apply keeps_bind (each value List.mem_cons_self)
      intro _
      exact induction fun other member => each other (List.mem_cons_of_mem _ member)

/-! ### What is known of the value -/

variable {known : α → Prop}

/-- The program keeps the invariant, and something is known of its value. -/
def Learns (contract : Contract I σ) (inv : σ → Prop) (program : Program I α)
    (known : α → Prop) : Prop :=
  ∀ s, inv s → program.Meets contract s fun result s =>
    inv s ∧ ∀ value, result = .ok value → known value

theorem learns_pure {value : α} (holds : known value) :
    Learns contract inv (pure value : Program I α) known := by
  intro s invariant
  refine meets_pure.mpr ⟨invariant, ?_⟩
  intro other equal
  cases equal
  exact holds

theorem learns_throw (exception : I.Exc) :
    Learns contract inv (throw exception : Program I α) known := by
  intro s invariant
  refine meets_throw.mpr ⟨invariant, ?_⟩
  intro value equal
  cases equal

theorem Keeps.learns {program : Program I α} (keeps : Keeps contract inv program) :
    Learns contract inv program fun _ => True := by
  intro s invariant
  refine (keeps s invariant).mono ?_
  intro result s invariant
  exact ⟨invariant, fun _ _ => trivial⟩

theorem Learns.bind {program : Program I α} {next : α → Program I β} {later : β → Prop}
    (first : Learns contract inv program known)
    (rest : ∀ value, known value → Learns contract inv (next value) later) :
    Learns contract inv (program >>= next) later := by
  intro s invariant
  refine meets_bind.mpr ((first s invariant).mono ?_)
  intro result s learned
  cases result with
  | ok value => exact rest value (learned.2 value rfl) s learned.1
  | error _ =>
      refine ⟨learned.1, ?_⟩
      intro value equal
      cases equal

theorem Learns.tryCatch {program : Program I α} {handler : I.Exc → Program I α}
    (body : Learns contract inv program known)
    (handled : ∀ exception, Learns contract inv (handler exception) known) :
    Learns contract inv (MonadExcept.tryCatch program handler : Program I α) known := by
  intro s invariant
  refine meets_tryCatch.mpr ((body s invariant).mono ?_)
  intro result s learned
  cases result with
  | ok _ => exact learned
  | error exception => exact handled exception s learned.1

theorem learns_call {op : I.Op} {known : I.Answer op → Prop} (keeps : Keeps contract inv (call op))
    (answers : ∀ s answer, inv s → contract.assume s ⟨op, .returned answer⟩ → known answer) :
    Learns contract inv (call op) known := by
  intro s invariant
  apply meets_call
  intro outcome assumed
  have parts := (keeps s invariant).of_call outcome assumed
  refine ⟨parts.1, parts.2, ?_⟩
  intro answer equal
  cases outcome with
  | returned other =>
      cases equal
      exact answers s answer invariant assumed
  | raised _ _ _ => cases equal

/-- What is known of the value of the first program may be used in the rest. -/
theorem keeps_bind_of {program : Program I α} {next : α → Program I β}
    (first : Learns contract inv program known)
    (rest : ∀ value, known value → Keeps contract inv (next value)) :
    Keeps contract inv (program >>= next) := by
  intro s invariant
  refine meets_bind.mpr ((first s invariant).mono ?_)
  intro result s learned
  cases result with
  | ok value => exact rest value (learned.2 value rfl) s learned.1
  | error _ => exact learned.1

end Keeps

/-! ### Programs with one result -/

/-- Whatever the contract allows, the program keeps it, has this result and
leaves the state as it is. -/
def Yields (contract : Contract I σ) (s : σ) (program : Program I α)
    (result : Except I.Exc α) : Prop :=
  ∀ post : Except I.Exc α → σ → Prop, program.Meets contract s post ↔ post result s

theorem yields_pure (value : α) : Yields contract s (pure value : Program I α) (.ok value) :=
  fun _ => meets_pure

theorem yields_throw (exception : I.Exc) :
    Yields contract s (throw exception : Program I α) (.error exception) :=
  fun _ => meets_throw

theorem yields_call {op : I.Op} (outcome : Outcome I op)
    (assumed : contract.assume s ⟨op, outcome⟩)
    (only : ∀ other : Outcome I op, contract.assume s ⟨op, other⟩ → other = outcome)
    (guaranteed : contract.guarantee s ⟨op, outcome⟩)
    (observed : contract.observe s ⟨op, outcome⟩ = s) :
    Yields contract s (call op) outcome.result := by
  intro post
  constructor
  · intro meets
    have parts := meets.of_call outcome assumed
    rw [observed] at parts
    exact parts.2
  · intro holds
    refine meets_call fun other otherAssumed => ?_
    rw [only other otherAssumed, observed]
    exact ⟨guaranteed, holds⟩

theorem Yields.bind {program : Program I α} {next : α → Program I β} {value : α}
    {result : Except I.Exc β} (first : Yields contract s program (.ok value))
    (rest : Yields contract s (next value) result) :
    Yields contract s (program >>= next) result :=
  fun post => meets_bind.trans ((first _).trans (rest post))

theorem Yields.bind_error {program : Program I α} {next : α → Program I β} {exception : I.Exc}
    (first : Yields contract s program (.error exception)) :
    Yields contract s (program >>= next) (.error exception) :=
  fun _ => meets_bind.trans (first _)

theorem Yields.map {program : Program I α} {value : α} (f : α → β)
    (first : Yields contract s program (.ok value)) :
    Yields contract s (f <$> program) (.ok (f value)) :=
  first.bind (yields_pure _)

theorem Yields.map_error {program : Program I α} {exception : I.Exc} (f : α → β)
    (first : Yields contract s program (.error exception)) :
    Yields contract s (f <$> program) (.error exception) :=
  first.bind_error

theorem Yields.catch_ok {program : Program I α} {handler : I.Exc → Program I α} {value : α}
    (body : Yields contract s program (.ok value)) :
    Yields contract s (MonadExcept.tryCatch program handler) (.ok value) :=
  fun _ => meets_tryCatch.trans (body _)

theorem Yields.catch_error {program : Program I α} {handler : I.Exc → Program I α}
    {exception : I.Exc} {result : Except I.Exc α}
    (body : Yields contract s program (.error exception))
    (handled : Yields contract s (handler exception) result) :
    Yields contract s (MonadExcept.tryCatch program handler) result :=
  fun post => meets_tryCatch.trans ((body _).trans (handled post))

/-! ### Programs with one run -/

/-- Under the contract the program has this result and ends in this state. -/
def Ends (contract : Contract I σ) (s : σ) (program : Program I α)
    (result : Except I.Exc α) (last : σ) : Prop :=
  program.Meets contract s fun ended t => ended = result ∧ t = last

variable {last : σ}

theorem ends_pure (value : α) : Ends contract s (pure value : Program I α) (.ok value) s :=
  ⟨rfl, rfl⟩

theorem ends_call {op : I.Op} {result : Except I.Exc (I.Answer op)}
    (guaranteed : ∀ outcome : Outcome I op, contract.assume s ⟨op, outcome⟩ →
      contract.guarantee s ⟨op, outcome⟩)
    (only : ∀ outcome : Outcome I op, contract.assume s ⟨op, outcome⟩ →
      outcome.result = result ∧ contract.observe s ⟨op, outcome⟩ = last) :
    Ends contract s (call op) result last :=
  meets_call fun outcome assumed => ⟨guaranteed outcome assumed, only outcome assumed⟩

theorem Ends.bind {program : Program I α} {next : α → Program I β} {value : α} {middle : σ}
    {result : Except I.Exc β} (first : Ends contract s program (.ok value) middle)
    (rest : Ends contract middle (next value) result last) :
    Ends contract s (program >>= next) result last := by
  refine meets_bind.mpr (first.mono ?_)
  rintro _ _ ⟨rfl, rfl⟩
  exact rest

theorem Ends.bind_error {program : Program I α} {next : α → Program I β} {exception : I.Exc}
    (first : Ends contract s program (.error exception) last) :
    Ends contract s (program >>= next) (.error exception) last := by
  refine meets_bind.mpr (first.mono ?_)
  rintro _ _ ⟨rfl, rfl⟩
  exact ⟨rfl, rfl⟩

theorem Ends.catch_ok {program : Program I α} {handler : I.Exc → Program I α} {value : α}
    (body : Ends contract s program (.ok value) last) :
    Ends contract s (MonadExcept.tryCatch program handler : Program I α) (.ok value) last := by
  refine meets_tryCatch.mpr (body.mono ?_)
  rintro _ _ ⟨rfl, rfl⟩
  exact ⟨rfl, rfl⟩

theorem Ends.catch_error {program : Program I α} {handler : I.Exc → Program I α}
    {exception : I.Exc} {middle : σ} {result : Except I.Exc α}
    (body : Ends contract s program (.error exception) middle)
    (handled : Ends contract middle (handler exception) result last) :
    Ends contract s (MonadExcept.tryCatch program handler : Program I α) result last := by
  refine meets_tryCatch.mpr (body.mono ?_)
  rintro _ _ ⟨rfl, rfl⟩
  exact handled

theorem Ends.finally_ok {program : Program I α} {cleanup : Program I Unit} {value : α}
    {middle : σ} (body : Ends contract s program (.ok value) middle)
    (cleaned : Ends contract middle cleanup (.ok ()) last) :
    Ends contract s (program.tryFinally cleanup) (.ok value) last := by
  apply meets_tryFinally
  refine body.mono ?_
  rintro _ _ ⟨rfl, rfl⟩
  refine cleaned.mono ?_
  rintro _ _ ⟨rfl, rfl⟩
  exact ⟨rfl, rfl⟩

/-! ### Programs with one value -/

/-- Under the contract the program ends in this state, with this value or with an
exception of this kind. -/
def EndsAs (contract : Contract I σ) (kind : I.Exc → Prop) (s : σ) (program : Program I α)
    (value : Option α) (last : σ) : Prop :=
  program.Meets contract s fun result t =>
    t = last ∧ result.toOption = value ∧ ∀ exception, result = .error exception → kind exception

section EndsAs

variable {kind : I.Exc → Prop} {middle : σ} {outcome : Option α}

theorem endsAs_pure (value : α) :
    EndsAs contract kind s (pure value : Program I α) (some value) s :=
  ⟨rfl, rfl, nofun⟩

theorem EndsAs.bind {program : Program I α} {next : α → Program I β} {value : α}
    {outcome : Option β} (first : EndsAs contract kind s program (some value) middle)
    (rest : EndsAs contract kind middle (next value) outcome last) :
    EndsAs contract kind s (program >>= next) outcome last := by
  refine meets_bind.mpr (first.mono ?_)
  intro result t ended
  cases result with
  | ok other =>
      rw [ended.1, Option.some.inj ended.2.1]
      exact rest
  | error _ => cases ended.2.1

theorem EndsAs.bind_none {program : Program I α} {next : α → Program I β}
    (first : EndsAs contract kind s program none middle) :
    EndsAs contract kind s (program >>= next) none middle := by
  refine meets_bind.mpr (first.mono ?_)
  intro result t ended
  cases result with
  | ok _ => cases ended.2.1
  | error exception =>
      refine ⟨ended.1, rfl, ?_⟩
      intro other equal
      cases equal
      exact ended.2.2 exception rfl

theorem EndsAs.catch_some {program : Program I α} {handler : I.Exc → Program I α} {value : α}
    (body : EndsAs contract kind s program (some value) last) :
    EndsAs contract kind s (MonadExcept.tryCatch program handler) (some value) last := by
  refine meets_tryCatch.mpr (body.mono ?_)
  intro result t ended
  cases result with
  | ok _ => exact ended
  | error _ => cases ended.2.1

theorem EndsAs.catch_none {program : Program I α} {handler : I.Exc → Program I α}
    (body : EndsAs contract kind s program none middle)
    (handled : ∀ exception, kind exception →
      EndsAs contract kind middle (handler exception) outcome last) :
    EndsAs contract kind s (MonadExcept.tryCatch program handler) outcome last := by
  refine meets_tryCatch.mpr (body.mono ?_)
  intro result t ended
  cases result with
  | ok _ => cases ended.2.1
  | error exception =>
      rw [ended.1]
      exact handled exception (ended.2.2 exception rfl)

/-- Every run that the contract allows ends so. -/
theorem EndsAs.run_eq {program : Program I α}
    (ends : EndsAs contract kind s program outcome last)
    {environment : Environment I}
    (assumed : EachStep contract.observe contract.assume s (program.trace environment)) :
    (program.result environment).toOption = outcome ∧
      (program.trace environment).foldl contract.observe s = last :=
  ⟨(ends.sound environment assumed).2.2.1, (ends.sound environment assumed).2.1⟩

end EndsAs

/-! ### Every run -/

/-- What an environment does at every history, it does in every run. -/
theorem forall_mem_trace {environment : Environment I} {holds : Event I → Prop}
    (each : ∀ history op, holds ⟨op, environment history op⟩) (program : Program I α) :
    ∀ event ∈ program.trace environment, holds event := by
  have all : ∀ history, ∀ event ∈ (program.run environment history).1, holds event := by
    induction program with
    | ret value => simp [run]
    | raise exception => simp [run]
    | perform op resume induction =>
        intro history
        refine List.forall_mem_cons.mpr ⟨each history op, ?_⟩
        exact induction _ _
  exact all []

/-- What an environment does after each history, it does at each step of a run. -/
theorem eachStep_trace {environment : Environment I} {observe : σ → Event I → σ}
    {holds : σ → Event I → Prop}
    (each : ∀ history op, holds (history.foldl observe s) ⟨op, environment history op⟩)
    (program : Program I α) : EachStep observe holds s (program.trace environment) := by
  have all : ∀ history, EachStep observe holds (history.foldl observe s)
      (program.run environment history).1 := by
    induction program with
    | ret value => exact fun _ => eachStep_nil _
    | raise exception => exact fun _ => eachStep_nil _
    | perform op resume induction =>
        intro history
        refine (eachStep_cons _ _).mpr ⟨each history op, ?_⟩
        have rest := induction (environment history op).result
          (history ++ [⟨op, environment history op⟩])
        rw [List.foldl_append] at rest
        exact rest
  exact all []

open Classical in
/-- The environment whose first outcome is the given one. -/
noncomputable def startingWith {op : I.Op} (outcome : Outcome I op)
    (environment : Environment I) : Environment I
  | [], other => if same : op = other then same ▸ outcome else environment [] other
  | _ :: history, other => environment history other

theorem run_startingWith {op : I.Op} (outcome : Outcome I op) (environment : Environment I)
    (program : Program I α) (event : Event I) (history : List (Event I)) :
    program.run (startingWith outcome environment) (event :: history) =
      program.run environment history := by
  induction program generalizing history with
  | ret value => rfl
  | raise exception => rfl
  | perform op' resume induction =>
      simp only [run, List.cons_append]
      rw [induction]
      rfl

theorem trace_startingWith {op : I.Op} (outcome : Outcome I op) (environment : Environment I)
    (resume : Except I.Exc (I.Answer op) → Program I α) :
    (perform op resume).trace (startingWith outcome environment) =
        ⟨op, outcome⟩ :: (resume outcome.result).trace environment ∧
      (perform op resume).result (startingWith outcome environment) =
        (resume outcome.result).result environment := by
  have first : startingWith outcome environment [] op = outcome := by
    simp [startingWith]
  simp only [trace, result, run, first, List.nil_append]
  rw [run_startingWith]
  exact ⟨rfl, rfl⟩

/-- An environment all of whose outcomes are allowed. -/
noncomputable def allowing (contract : Contract I σ)
    (possible : ∀ s op, ∃ outcome : Outcome I op, contract.assume s ⟨op, outcome⟩)
    (s : σ) : Environment I :=
  fun history op => (possible (history.foldl contract.observe s) op).choose

theorem run_allowing (possible : ∀ s op, ∃ outcome : Outcome I op, contract.assume s ⟨op, outcome⟩)
    (program : Program I α) (history : List (Event I)) :
    EachStep contract.observe contract.assume (history.foldl contract.observe s)
      (program.run (allowing contract possible s) history).1 := by
  induction program generalizing history with
  | ret value => exact eachStep_nil _
  | raise exception => exact eachStep_nil _
  | perform op resume induction =>
      refine (eachStep_cons _ _).mpr ⟨?_, ?_⟩
      · exact (possible (history.foldl contract.observe s) op).choose_spec
      · have rest := induction (allowing contract possible s history op).result
          (history ++ [⟨op, allowing contract possible s history op⟩])
        rw [List.foldl_append] at rest
        exact rest

/-- A program whose every run keeps its contract and ends as `post` says meets it. -/
theorem meets_of_runs (possible : ∀ s op, ∃ outcome : Outcome I op, contract.assume s ⟨op, outcome⟩)
    {program : Program I α} {post : Except I.Exc α → σ → Prop}
    (runs : ∀ environment,
      EachStep contract.observe contract.assume s (program.trace environment) →
        EachStep contract.observe contract.guarantee s (program.trace environment) ∧
          post (program.result environment)
            ((program.trace environment).foldl contract.observe s)) :
    program.Meets contract s post := by
  induction program generalizing s with
  | ret value => exact (runs (allowing contract possible s) (eachStep_nil _)).2
  | raise exception => exact (runs (allowing contract possible s) (eachStep_nil _)).2
  | perform op resume induction =>
      intro outcome assumed
      -- a run that begins with this outcome
      have begins : ∀ environment, EachStep contract.observe contract.assume
            (contract.observe s ⟨op, outcome⟩) ((resume outcome.result).trace environment) →
          contract.guarantee s ⟨op, outcome⟩ ∧
            EachStep contract.observe contract.guarantee
              (contract.observe s ⟨op, outcome⟩) ((resume outcome.result).trace environment) ∧
            post ((resume outcome.result).result environment)
              (((resume outcome.result).trace environment).foldl contract.observe
                (contract.observe s ⟨op, outcome⟩)) := by
        intro environment rest
        have whole := runs (startingWith outcome environment)
        rw [(trace_startingWith outcome environment resume).1,
          (trace_startingWith outcome environment resume).2, eachStep_cons, eachStep_cons,
          and_assoc] at whole
        exact whole ⟨assumed, rest⟩
      constructor
      · exact (begins (allowing contract possible _) (run_allowing possible _ [])).1
      · apply induction
        intro environment rest
        exact (begins environment rest).2

theorem meets_iff_runs
    (possible : ∀ s op, ∃ outcome : Outcome I op, contract.assume s ⟨op, outcome⟩)
    {program : Program I α} :
    (program.Meets contract s fun _ _ => True) ↔
      ∀ environment, EachStep contract.observe contract.assume s (program.trace environment) →
        EachStep contract.observe contract.guarantee s (program.trace environment) :=
  ⟨fun meets environment assumed => (meets.sound environment assumed).1,
    fun runs => meets_of_runs possible fun environment assumed =>
      ⟨runs environment assumed, trivial⟩⟩

end GrafuxMcp.Program
