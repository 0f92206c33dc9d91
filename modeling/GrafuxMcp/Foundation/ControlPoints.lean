import GrafuxMcp.Foundation.Program

/-! # Control points

A program seen as a transition system: its control points, what it performs at
each, and the point that each outcome leads to. An assertion for each point
that every step keeps proves the program's contract. -/

namespace GrafuxMcp

/-- What a program does at a control point. -/
inductive Next (I : Interface) (α : Type) (Point : Type)
  | ended (result : Except I.Exc α)
  | perform (op : I.Op) (resume : Except I.Exc (I.Answer op) → Point)

namespace Program

variable {I : Interface} {σ α Point : Type}

def ofResult : Except I.Exc α → Program I α
  | .ok value => .ret value
  | .error exception => .raise exception

/-- `program point` is the program still to run at `point`. -/
def Follows (next : Point → Next I α Point)
    (program : Point → Program I α) : Prop :=
  ∀ point, program point =
    match next point with
    | .ended result => ofResult result
    | .perform op resume => .perform op fun result => program (resume result)

/-- The step obligation of an assertion at one point. -/
def KeepsAssertion (contract : Contract I σ)
    (assertion : Point → σ → Prop) (post : Except I.Exc α → σ → Prop) :
    Next I α Point → σ → Prop
  | .ended result, s => post result s
  | .perform op resume, s =>
      ∀ outcome : Outcome I op, contract.assume s ⟨op, outcome⟩ →
        contract.guarantee s ⟨op, outcome⟩ ∧
          assertion (resume outcome.result) (contract.observe s ⟨op, outcome⟩)

/-- An assertion that every point keeps is an invariant of the program, from
whichever point it starts. -/
theorem Follows.meets {next : Point → Next I α Point}
    {program : Point → Program I α} (follows : Follows next program)
    {contract : Contract I σ} {assertion : Point → σ → Prop}
    {post : Except I.Exc α → σ → Prop}
    (kept : ∀ point s, assertion point s →
      KeepsAssertion contract assertion post (next point) s)
    {point : Point} {s : σ} (holds : assertion point s) :
    (program point).Meets contract s post := by
  generalize equal : program point = tree
  have unfolded := follows point
  rw [equal] at unfolded
  have step := kept point s holds
  induction tree generalizing point s with
  | ret value =>
      cases ends : next point with
      | perform op resume => simp [ends] at unfolded
      | ended result =>
          rw [ends] at step
          cases result with
          | error exception => simp [ends, ofResult] at unfolded
          | ok value =>
              simp only [ends, ofResult, Program.ret.injEq] at unfolded
              subst unfolded
              exact step
  | raise exception =>
      cases ends : next point with
      | perform op resume => simp [ends] at unfolded
      | ended result =>
          rw [ends] at step
          cases result with
          | ok value => simp [ends, ofResult] at unfolded
          | error exception =>
              simp only [ends, ofResult, Program.raise.injEq] at unfolded
              subst unfolded
              exact step
  | perform op resume induction =>
      cases performs : next point with
      | ended result => cases result <;> simp [performs, ofResult] at unfolded
      | perform op resume' =>
          rw [performs] at step
          simp only [performs, Program.perform.injEq] at unfolded
          obtain ⟨same, resumes⟩ := unfolded
          subst same
          have resumes := eq_of_heq resumes
          subst resumes
          intro outcome assumed
          have parts := step outcome assumed
          exact ⟨parts.1, induction outcome.result parts.2 rfl
            (follows _) (kept _ _ parts.2)⟩

end Program

end GrafuxMcp
