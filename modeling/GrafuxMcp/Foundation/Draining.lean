import GrafuxMcp.Foundation.AsyncLock
import Mathlib.Algebra.Order.BigOperators.Group.Finset
import Mathlib.Data.Set.Finite.Basic
import Mathlib.Order.WellFounded

/-! # Tasks that come to rest

A table of tasks comes to rest if no task waits for ever and no task moves for ever. A lock that
serves its queue keeps nobody waiting whose holder moves on; a rank that every move lowers leaves
no endless run. -/

namespace GrafuxMcp

/-! ### Locks that serve their queues -/

namespace AsyncLock

variable {Task : Type u} {lock new : AsyncLock Task} {task : Task}

/-- The lock has a holder while it is locked, and each task that waits is once in the queue. -/
structure Serves (lock : AsyncLock Task) (holds waits : Task → Prop) : Prop where
  holder : lock.locked = true → ∃ task, holds task
  queue : ∀ task, task ∈ lock.waiters ↔ waits task
  nodup : lock.waiters.Nodup

variable {holds waits holds' waits' : Task → Prop}

/-- If a task waits, there is a holder or the oldest waiter has been woken. -/
theorem Serves.progress [DecidableEq Task] (serves : lock.Serves holds waits)
    (waiting : waits task) :
    (∃ other, holds other) ∨ ∃ other, waits other ∧ lock.canResume other = true := by
  cases locked : lock.locked with
  | true => exact Or.inl (serves.holder locked)
  | false =>
      have queued := (serves.queue task).mpr waiting
      cases queue : lock.waiters with
      | nil =>
          rw [queue] at queued
          cases queued
      | cons oldest rest =>
          have first : oldest ∈ lock.waiters := queue ▸ List.mem_cons_self
          exact Or.inr ⟨oldest, (serves.queue oldest).mp first, by simp [canResume, locked, queue]⟩

/-- How a task treats a lock on its way between two control points, so that the lock serves its
queue. -/
inductive Treats [DecidableEq Task] (task : Task) (lock : AsyncLock Task)
    (held awaited holds waits : Prop) : AsyncLock Task → Prop where
  | keep (holder : held → holds) (queue : waits ↔ awaited) :
      Treats task lock held awaited holds waits lock
  | take (free : lock.isFree = true) (now : holds) (queue : waits ↔ awaited) :
      Treats task lock held awaited holds waits lock.take
  | enqueue (notHeld : ¬ held) (notAwaited : ¬ awaited) (now : waits) :
      Treats task lock held awaited holds waits (lock.enqueue task)
  | resume (woken : lock.canResume task = true) (now : holds) (noMore : ¬ waits) :
      Treats task lock held awaited holds waits lock.resume
  | release (queue : waits ↔ awaited) : Treats task lock held awaited holds waits lock.release
  | leave (notHeld : ¬ held) (noMore : ¬ waits) :
      Treats task lock held awaited holds waits (lock.leave task)

section Treated

variable [DecidableEq Task] (serves : lock.Serves holds waits)
  (others : ∀ t, t ≠ task → (holds' t ↔ holds t) ∧ (waits' t ↔ waits t))

include serves others

omit [DecidableEq Task] in
/-- A holder other than the task is a holder still. -/
theorem Serves.still_holder (notHeld : ¬ holds task) (locked : lock.locked = true) :
    ∃ t, holds' t := by
  rcases serves.holder locked with ⟨t, held⟩
  have different : t ≠ task := by
    intro same
    exact notHeld (same ▸ held)
  exact ⟨t, (others t different).1.mpr held⟩

/-- The queue stays as it is when the task does not begin or stop to wait. -/
theorem Serves.same_queue (same : waits' task ↔ waits task) (t : Task) :
    t ∈ lock.waiters ↔ waits' t := by
  rw [serves.queue t]
  by_cases equal : t = task
  · rw [equal, same]
  · exact (others t equal).2.symm

theorem Serves.enqueued (notHeld : ¬ holds task) (notWaited : ¬ waits task)
    (now : waits' task) : (lock.enqueue task).Serves holds' waits' where
  holder locked := serves.still_holder others notHeld locked
  queue t := by
    rw [enqueue, List.mem_append, List.mem_singleton]
    by_cases equal : t = task
    · simp [equal, now]
    · simp [equal, serves.queue t, others t equal]
  nodup := by
    rw [enqueue, List.nodup_append]
    refine ⟨serves.nodup, List.nodup_singleton task, ?_⟩
    intro first member second last same
    rw [List.mem_singleton.mp last] at same
    exact notWaited ((serves.queue task).mp (same ▸ member))

theorem Serves.resumed (woken : lock.canResume task = true) (now : holds' task)
    (noMore : ¬ waits' task) : lock.resume.Serves holds' waits' where
  holder _ := ⟨task, now⟩
  queue t := by
    have unique := serves.nodup
    have queued := serves.queue t
    simp only [canResume, Bool.and_eq_true, beq_iff_eq] at woken
    cases queue : lock.waiters with
    | nil => simp [queue] at woken
    | cons oldest rest =>
        have first : oldest = task := by simpa [queue] using woken.2
        rw [queue, first] at unique queued
        have gone : task ∉ rest := (List.nodup_cons.mp unique).1
        simp only [resume, queue, List.tail_cons]
        by_cases equal : t = task
        · simp [equal, gone, noMore]
        · rw [(others t equal).2, ← queued, List.mem_cons]
          simp [equal]
  nodup := serves.nodup.sublist (List.tail_sublist _)

theorem Serves.left (notHeld : ¬ holds task) (noMore : ¬ waits' task) :
    (lock.leave task).Serves holds' waits' where
  holder locked := serves.still_holder others notHeld locked
  queue t := by
    rw [leave, List.mem_filter, serves.queue t]
    by_cases equal : t = task
    · simp [equal, noMore]
    · simp [equal, others t equal]
  nodup := serves.nodup.filter _

/-- A lock that a task treats by the rules serves its queue still. -/
theorem Serves.treated
    (treats : Treats task lock (holds task) (waits task) (holds' task) (waits' task) new) :
    new.Serves holds' waits' := by
  cases treats with
  | keep holder queue =>
      refine ⟨?_, serves.same_queue others queue, serves.nodup⟩
      intro locked
      rcases serves.holder locked with ⟨t, holding⟩
      by_cases equal : t = task
      · exact ⟨task, holder (equal ▸ holding)⟩
      · exact ⟨t, (others t equal).1.mpr holding⟩
  | take free now queue =>
      exact ⟨fun _ => ⟨task, now⟩, serves.same_queue others queue, serves.nodup⟩
  | enqueue notHeld notAwaited now => exact serves.enqueued others notHeld notAwaited now
  | resume woken now noMore => exact serves.resumed others woken now noMore
  | release queue =>
      refine ⟨?_, serves.same_queue others queue, serves.nodup⟩
      intro locked
      cases locked
  | leave notHeld noMore => exact serves.left others notHeld noMore

end Treated

end AsyncLock

/-! ### No endless run -/

section Ranks

variable {State Task Point Rank : Type*}

/-- Every move takes one task to a point of a lower rank, and there is none below the rank of
`rest`. -/
structure Draining [LT Rank] (tasks : State → Task → Point) (rest : Point) (rank : Point → Rank)
    (safe : State → Prop) (next : State → State → Prop) : Prop where
  lowest : ∀ point, ¬ rank point < rank rest
  safe_next : ∀ s s', safe s → next s s' → safe s'
  lowers : ∀ s s', safe s → next s s' → ∃ task,
    rank (tasks s' task) < rank (tasks s task) ∧
      ∀ other, other ≠ task → tasks s' other = tasks s other

namespace Draining

variable {tasks : State → Task → Point} {rest : Point} {rank : Point → Rank}
  {safe : State → Prop} {next : State → State → Prop} {s s' : State} {busy : Finset Task}

/-- A task at rest is not moved. -/
theorem resting [LT Rank] (draining : Draining tasks rest rank safe next) (isSafe : safe s)
    (idle : ∀ task, task ∉ busy → tasks s task = rest) (moved : next s s') :
    ∀ task, task ∉ busy → tasks s' task = rest := by
  rcases draining.lowers s s' isSafe moved with ⟨task, lower, others⟩
  intro other outside
  by_cases same : other = task
  · rw [← same, idle other outside] at lower
    exact absurd lower (draining.lowest _)
  · rw [others other same, idle other outside]

section Sums

variable [AddCommMonoid Rank] [PartialOrder Rank] [IsOrderedCancelAddMonoid Rank]

theorem sum_lt (draining : Draining tasks rest rank safe next) (isSafe : safe s)
    (idle : ∀ task, task ∉ busy → tasks s task = rest) (moved : next s s') :
    ∑ task ∈ busy, rank (tasks s' task) < ∑ task ∈ busy, rank (tasks s task) := by
  rcases draining.lowers s s' isSafe moved with ⟨task, lower, others⟩
  have inside : task ∈ busy := by
    by_contra outside
    rw [idle task outside] at lower
    exact draining.lowest _ lower
  refine Finset.sum_lt_sum ?_ ⟨task, inside, lower⟩
  intro other _
  by_cases same : other = task
  · rw [same]
    exact lower.le
  · rw [others other same]

/-- From a state with finitely many busy tasks no run goes on for ever. -/
theorem no_endless_run [WellFoundedLT Rank] (draining : Draining tasks rest rank safe next)
    (isSafe : safe s) (finite : {task | tasks s task ≠ rest}.Finite) :
    ¬ ∃ run : ℕ → State, run 0 = s ∧ ∀ n, next (run n) (run (n + 1)) := by
  rintro ⟨run, starts, moves⟩
  have kept : ∀ n, safe (run n) ∧ ∀ task, task ∉ finite.toFinset → tasks (run n) task = rest := by
    intro n
    induction n with
    | zero =>
        rw [starts]
        refine ⟨isSafe, fun task outside => ?_⟩
        by_contra away
        exact outside (finite.mem_toFinset.mpr away)
    | succ n induction =>
        exact ⟨draining.safe_next _ _ induction.1 (moves n),
          draining.resting induction.1 induction.2 (moves n)⟩
  have lowers : ∀ n, ∑ task ∈ finite.toFinset, rank (tasks (run (n + 1)) task) <
      ∑ task ∈ finite.toFinset, rank (tasks (run n) task) :=
    fun n => draining.sum_lt (kept n).1 (kept n).2 (moves n)
  rcases WellFounded.not_rel_apply_succ (r := (· < ·))
    (fun n => ∑ task ∈ finite.toFinset, rank (tasks (run n) task)) with ⟨n, stays⟩
  exact stays (lowers n)

end Sums

end Draining

end Ranks

end GrafuxMcp
