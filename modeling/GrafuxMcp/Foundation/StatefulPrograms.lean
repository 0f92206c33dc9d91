import Mathlib.Data.List.Basic

/-! # Programs that raise and keep their state

An exception does not undo what the program has done to the state. How a program
ends, and what it does to the state, is read off its parts. -/

namespace GrafuxMcp.Stateful

universe u

variable {σ ε α β : Type u}

/-- From every state the program ends with `result` and makes `change`. -/
def Ends (program : ExceptT ε (StateM σ) α) (result : Except ε α) (change : σ → σ) : Prop :=
  ∀ s, program.run.run s = (result, change s)

/-- From every state the program raises. -/
def Raises (program : ExceptT ε (StateM σ) α) : Prop :=
  ∃ exc change, Ends program (.error exc) change

variable {program : ExceptT ε (StateM σ) α} {next : α → ExceptT ε (StateM σ) β}
  {handler : ε → ExceptT ε (StateM σ) α} {value : α} {exc : ε} {result : Except ε β}
  {final : Except ε α} {change change' : σ → σ}

theorem ends_pure (value : α) : Ends (pure value : ExceptT ε (StateM σ) α) (.ok value) id :=
  fun _ => rfl

theorem ends_throw (exc : ε) : Ends (throw exc : ExceptT ε (StateM σ) α) (.error exc) id :=
  fun _ => rfl

theorem ends_modify (change : σ → σ) :
    Ends (modify change : ExceptT ε (StateM σ) PUnit) (.ok ⟨⟩) change :=
  fun _ => rfl

/-- The first part is over. -/
theorem Ends.run_bind (first : Ends program (.ok value) change) (s : σ) :
    (program >>= next).run.run s = (next value).run.run (change s) := by
  have ran := first s
  simp only [ExceptT.run_bind, StateT.run_bind, ran]
  rfl

theorem ends_bind (first : Ends program (.ok value) change)
    (rest : Ends (next value) result change') :
    Ends (program >>= next) result (change' ∘ change) :=
  fun s => (first.run_bind s).trans (rest (change s))

/-- The first part only reads. -/
theorem ends_bind_read (first : Ends program (.ok value) id)
    (rest : Ends (next value) result change) : Ends (program >>= next) result change :=
  ends_bind first rest

/-- The rest leaves the state as it is. -/
theorem ends_bind_last (first : Ends program (.ok value) change)
    (rest : Ends (next value) result id) : Ends (program >>= next) result change := by
  have both : Ends (program >>= next) result (id ∘ change) := ends_bind first rest
  exact both

theorem ends_bind_error (first : Ends program (.error exc) change) :
    Ends (program >>= next) (.error exc) change := by
  intro s
  have ran := first s
  simp only [ExceptT.run_bind, StateT.run_bind, ran]
  rfl

theorem ends_tryCatch (body : Ends program (.ok value) change) :
    Ends (tryCatch program handler) (.ok value) change := by
  intro s
  have ran : StateT.run program s = (_, _) := body s
  simp only [tryCatch, tryCatchThe, MonadExceptOf.tryCatch, ExceptT.tryCatch, ExceptT.run_mk,
    StateT.run_bind, ran]
  rfl

theorem ends_tryCatch_error (body : Ends program (.error exc) change)
    (handled : Ends (handler exc) final change') :
    Ends (tryCatch program handler) final (change' ∘ change) := by
  intro s
  have ran : StateT.run program s = (_, _) := body s
  simp only [tryCatch, tryCatchThe, MonadExceptOf.tryCatch, ExceptT.tryCatch, ExceptT.run_mk,
    StateT.run_bind, ran]
  exact handled (change s)

/-- The body raises before it does anything. -/
theorem ends_tryCatch_handler (body : Ends program (.error exc) id)
    (handled : Ends (handler exc) final change) :
    Ends (tryCatch program handler) final change :=
  ends_tryCatch_error body handled

/-! ### When a program returns -/

/-- The program returns and makes `change` when `ok` holds; else it raises. -/
structure ReturnsIff (program : ExceptT ε (StateM σ) PUnit) (ok : Prop) (change : σ → σ) :
    Prop where
  returns : ok → Ends program (.ok ⟨⟩) change
  raises : ¬ ok → Raises program

section Rules

variable {first : ExceptT ε (StateM σ) PUnit} {second : PUnit → ExceptT ε (StateM σ) PUnit}
  {ok ok' : Prop}

theorem ReturnsIff.congr (spec : ReturnsIff first ok change) (same : ok' ↔ ok)
    (changes : ok' → change' = change) : ReturnsIff first ok' change' := by
  constructor
  · intro holds
    rw [changes holds]
    exact spec.returns (same.mp holds)
  · exact fun fails => spec.raises fun holds => fails (same.mpr holds)

theorem returnsIff_pure : ReturnsIff (pure ⟨⟩ : ExceptT ε (StateM σ) PUnit) True id where
  returns _ := ends_pure _
  raises absurd := (absurd trivial).elim

theorem returnsIff_bind (spec : ReturnsIff first ok change)
    (next : ReturnsIff (second ⟨⟩) ok' change') :
    ReturnsIff (first >>= second) (ok ∧ ok') (change' ∘ change) := by
  constructor
  · intro both
    exact ends_bind (spec.returns both.1) (next.returns both.2)
  · intro either
    by_cases here : ok
    · have later : ¬ ok' := fun there => either ⟨here, there⟩
      obtain ⟨exc, later_, raises⟩ := next.raises later
      exact ⟨exc, later_ ∘ change, ends_bind (spec.returns here) raises⟩
    · obtain ⟨exc, early, raises⟩ := spec.raises here
      exact ⟨exc, early, ends_bind_error raises⟩

/-- A loop returns when all its turns do. -/
theorem returnsIff_forM {ι : Type u} {body : ι → ExceptT ε (StateM σ) PUnit} {ok : ι → Prop}
    {change : ι → σ → σ} (items : List ι)
    (turns : ∀ item ∈ items, ReturnsIff (body item) (ok item) (change item)) :
    ReturnsIff (items.forM body) (∀ item ∈ items, ok item)
      fun s => items.foldl (fun s item => change item s) s := by
  induction items with
  | nil =>
      apply returnsIff_pure.congr
      · simp
      · exact fun _ => rfl
  | cons item items induction =>
      have rest := induction fun other member => turns other (List.mem_cons_of_mem _ member)
      have loop : ReturnsIff (body item >>= fun _ => items.forM body)
          (ok item ∧ ∀ item ∈ items, ok item)
          ((fun s => items.foldl (fun s item => change item s) s) ∘ change item) :=
        returnsIff_bind (turns item List.mem_cons_self) rest
      apply loop.congr
      · exact List.forall_mem_cons
      · exact fun _ => rfl

end Rules

end GrafuxMcp.Stateful
