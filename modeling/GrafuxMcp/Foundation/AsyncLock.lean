import Mathlib.Logic.Function.Basic
import Mathlib.Data.List.Nodup

/-! # Locks of a cooperative scheduler

A lock is handed over in two moves: `release` only marks it free and wakes the
oldest waiter, and that waiter takes it when the scheduler runs it again. In
between the lock is free and has a waiter. -/

namespace GrafuxMcp

/-- The waiters are the tasks suspended on the lock, oldest first. -/
structure AsyncLock (Task : Type u) where
  locked : Bool := false
  waiters : List Task := []
  deriving DecidableEq, Repr

namespace AsyncLock

variable {Task : Type u} (lock : AsyncLock Task) (task : Task)

/-- A task gets the lock without suspending only when no other task waits. -/
def isFree : Bool :=
  !lock.locked && lock.waiters.isEmpty

def take : AsyncLock Task :=
  { lock with locked := true }

def enqueue : AsyncLock Task :=
  { lock with waiters := lock.waiters ++ [task] }

def release : AsyncLock Task :=
  { lock with locked := false }

/-- The task has been woken. -/
def canResume [DecidableEq Task] : Bool :=
  !lock.locked && lock.waiters.head? == some task

def resume : AsyncLock Task :=
  { locked := true, waiters := lock.waiters.tail }

/-- A waiter is cancelled; one that had been woken wakes the next. -/
def leave [DecidableEq Task] : AsyncLock Task :=
  { lock with waiters := lock.waiters.filter (· ≠ task) }

variable {lock task}

theorem locked_eq_false_of_isFree (free : lock.isFree = true) : lock.locked = false := by
  simp only [isFree, Bool.and_eq_true, Bool.not_eq_true'] at free
  exact free.1

theorem locked_eq_false_of_canResume [DecidableEq Task] (woken : lock.canResume task = true) :
    lock.locked = false := by
  simp only [canResume, Bool.and_eq_true, Bool.not_eq_true'] at woken
  exact woken.1

theorem mem_tail_of_canResume [DecidableEq Task] (woken : lock.canResume task = true) {other : Task}
    (different : other ≠ task) (waits : other ∈ lock.waiters) :
    other ∈ lock.waiters.tail := by
  simp only [canResume, Bool.and_eq_true, beq_iff_eq] at woken
  cases queue : lock.waiters with
  | nil => simp [queue] at waits
  | cons first rest =>
      have equal : first = task := by simpa [queue] using woken.2
      rw [queue] at waits
      rcases List.mem_cons.mp waits with head | tail
      · exact absurd (head.trans equal) different
      · exact tail

/-- What one task can do to a lock. -/
inductive Change [DecidableEq Task] (task : Task) (lock : AsyncLock Task) :
    AsyncLock Task → Prop where
  | none : Change task lock lock
  | take (free : lock.isFree = true) : Change task lock lock.take
  | enqueue : Change task lock (lock.enqueue task)
  | release (locked : lock.locked = true) : Change task lock lock.release
  | resume (woken : lock.canResume task = true) : Change task lock lock.resume
  | leave : Change task lock (lock.leave task)

/-- How a task that holds or awaits a lock, or does not, treats it on its way to a
control point where it holds or awaits it, or does not. -/
inductive Passage [DecidableEq Task] (task : Task) (lock : AsyncLock Task)
    (held awaited holds waits : Prop) : AsyncLock Task → Prop where
  | keep (keepsHolds : holds → held) (keepsWaits : waits → awaited) :
      Passage task lock held awaited holds waits lock
  | take (free : lock.isFree = true) (waitsNot : ¬ waits) :
      Passage task lock held awaited holds waits lock.take
  | enqueue (holdsNot : ¬ holds) : Passage task lock held awaited holds waits (lock.enqueue task)
  | resume (woken : lock.canResume task = true) (waitsNot : ¬ waits) :
      Passage task lock held awaited holds waits lock.resume
  | release (owned : held) (holdsNot : ¬ holds) (waitsNot : ¬ waits) :
      Passage task lock held awaited holds waits lock.release
  | leave (keepsHolds : holds → held) (waitsNot : ¬ waits) :
      Passage task lock held awaited holds waits (lock.leave task)

/-- Only a task that has been woken can take a lock for which tasks wait. -/
theorem Change.first [DecidableEq Task] {new : AsyncLock Task} {first : Task}
    (change : Change task lock new) (different : first ≠ task)
    (woken : lock.canResume first = true) : new.canResume first = true := by
  have unlocked := locked_eq_false_of_canResume woken
  have head : lock.waiters.head? = some first := by
    simp only [canResume, Bool.and_eq_true, beq_iff_eq] at woken
    exact woken.2
  cases change with
  | none => exact woken
  | take free =>
      simp only [isFree, Bool.and_eq_true, List.isEmpty_iff] at free
      simp [free.2] at head
  | enqueue => simp [canResume, AsyncLock.enqueue, unlocked, head]
  | release locked =>
      rw [unlocked] at locked
      cases locked
  | resume woken' =>
      simp only [canResume, Bool.and_eq_true, beq_iff_eq, head, Option.some.injEq] at woken'
      exact absurd woken'.2 different
  | leave =>
      cases queue : lock.waiters with
      | nil => simp [queue] at head
      | cons oldest rest =>
          have equal : oldest = first := by simpa [queue] using head
          simp [canResume, AsyncLock.leave, unlocked, queue, equal, different]

end AsyncLock

/-- What the control points of the tasks say about a table of locks: a lock that
a task holds is locked and no other task holds it, and a task that waits for a
lock is among its waiters. -/
structure LockDiscipline {Task : Type u} {Lock : Type v} {Point : Type w}
    (holds waits : Point → Lock → Prop)
    (locks : Lock → AsyncLock Task) (tasks : Task → Point) : Prop where
  held : ∀ task lock, holds (tasks task) lock → (locks lock).locked = true
  exclusive : ∀ task other lock,
    holds (tasks task) lock → holds (tasks other) lock → task = other
  queued : ∀ task lock, waits (tasks task) lock → task ∈ (locks lock).waiters

namespace LockDiscipline

variable {Task : Type u} {Lock : Type v} {Point : Type w}
  [DecidableEq Task] [DecidableEq Lock]
  {holds waits : Point → Lock → Prop}
  {locks : Lock → AsyncLock Task} {tasks : Task → Point}
  {task : Task} {lock : Lock} {point : Point}

omit [DecidableEq Lock] in
/-- A task moves on without taking a lock or queueing for one. -/
theorem goto (discipline : LockDiscipline holds waits locks tasks)
    (keepsHolds : ∀ l, holds point l → holds (tasks task) l)
    (keepsWaits : ∀ l, waits point l → waits (tasks task) l) :
    LockDiscipline holds waits locks (Function.update tasks task point) := by
  have heldBefore : ∀ t l, holds (Function.update tasks task point t) l → holds (tasks t) l := by
    intro t l
    rcases eq_or_ne t task with rfl | different
    · rw [Function.update_self]
      exact keepsHolds l
    · rw [Function.update_of_ne different]
      exact id
  constructor
  · intro t l holding
    exact discipline.held t l (heldBefore t l holding)
  · intro t u l first second
    exact discipline.exclusive t u l (heldBefore t l first) (heldBefore u l second)
  · intro t l waiting
    rcases eq_or_ne t task with rfl | different
    · rw [Function.update_self] at waiting
      exact discipline.queued t l (keepsWaits l waiting)
    · rw [Function.update_of_ne different] at waiting
      exact discipline.queued t l waiting

/-- The lock that a task releases is one that it held. -/
theorem release (discipline : LockDiscipline holds waits locks tasks)
    (held : holds (tasks task) lock)
    (keepsHolds : ∀ l, holds point l → l ≠ lock ∧ holds (tasks task) l)
    (keepsWaits : ∀ l, waits point l → waits (tasks task) l) :
    LockDiscipline holds waits (Function.update locks lock (locks lock).release)
      (Function.update tasks task point) := by
  have moved := discipline.goto (fun l h => (keepsHolds l h).2) keepsWaits
  constructor
  · intro t l holding
    -- no task but the one that released it held the lock
    have other : l ≠ lock := by
      rintro rfl
      rcases eq_or_ne t task with rfl | different
      · rw [Function.update_self] at holding
        exact (keepsHolds l holding).1 rfl
      · rw [Function.update_of_ne different] at holding
        exact different (discipline.exclusive t task l holding held)
    rw [Function.update_of_ne other]
    exact moved.held t l holding
  · exact moved.exclusive
  · intro t l waiting
    have queued := moved.queued t l waiting
    rcases eq_or_ne l lock with rfl | other
    · rw [Function.update_self]
      exact queued
    · rw [Function.update_of_ne other]
      exact queued

/-- A task queues for a lock. -/
theorem enqueue (discipline : LockDiscipline holds waits locks tasks)
    (keepsHolds : ∀ l, holds point l → holds (tasks task) l)
    (keepsWaits : ∀ l, waits point l → l = lock ∨ waits (tasks task) l) :
    LockDiscipline holds waits (Function.update locks lock ((locks lock).enqueue task))
      (Function.update tasks task point) := by
  have sameLocked : ∀ l, (Function.update locks lock ((locks lock).enqueue task) l).locked =
      (locks l).locked := by
    intro l
    rcases eq_or_ne l lock with rfl | other
    · rw [Function.update_self]
      rfl
    · rw [Function.update_of_ne other]
  have stillQueued : ∀ t l, t ∈ (locks l).waiters →
      t ∈ (Function.update locks lock ((locks lock).enqueue task) l).waiters := by
    intro t l queued
    rcases eq_or_ne l lock with rfl | other
    · rw [Function.update_self]
      exact List.mem_append_left _ queued
    · rwa [Function.update_of_ne other]
  have heldBefore : ∀ t l, holds (Function.update tasks task point t) l → holds (tasks t) l := by
    intro t l
    rcases eq_or_ne t task with rfl | different
    · rw [Function.update_self]
      exact keepsHolds l
    · rw [Function.update_of_ne different]
      exact id
  constructor
  · intro t l holding
    rw [sameLocked]
    exact discipline.held t l (heldBefore t l holding)
  · intro t u l first second
    exact discipline.exclusive t u l (heldBefore t l first) (heldBefore u l second)
  · intro t l waiting
    rcases eq_or_ne t task with rfl | different
    · rw [Function.update_self] at waiting
      rcases keepsWaits l waiting with rfl | before
      · rw [Function.update_self]
        exact List.mem_append_right _ (List.mem_singleton_self t)
      · exact stillQueued t l (discipline.queued t l before)
    · rw [Function.update_of_ne different] at waiting
      exact stillQueued t l (discipline.queued t l waiting)

/-- A task gives up waiting for a lock. -/
theorem leave (discipline : LockDiscipline holds waits locks tasks)
    (keepsHolds : ∀ l, holds point l → holds (tasks task) l)
    (keepsWaits : ∀ l, waits point l → l ≠ lock ∧ waits (tasks task) l) :
    LockDiscipline holds waits (Function.update locks lock ((locks lock).leave task))
      (Function.update tasks task point) := by
  have moved := discipline.goto keepsHolds fun l waiting => (keepsWaits l waiting).2
  constructor
  · intro t l holding
    have locked := moved.held t l holding
    rcases eq_or_ne l lock with rfl | other
    · rw [Function.update_self]
      exact locked
    · rwa [Function.update_of_ne other]
  · exact moved.exclusive
  · intro t l waiting
    have queued := moved.queued t l waiting
    rcases eq_or_ne l lock with rfl | other
    · have different : t ≠ task := by
        rintro rfl
        rw [Function.update_self] at waiting
        exact (keepsWaits l waiting).1 rfl
      rw [Function.update_self]
      exact List.mem_filter.mpr ⟨queued, by simpa using different⟩
    · rwa [Function.update_of_ne other]

/-- A task takes a lock that is not locked; `waiters` is what remains of the
queue, from which only this task may have gone. -/
theorem lock_of_unlocked (discipline : LockDiscipline holds waits locks tasks)
    (unlocked : (locks lock).locked = false) (waiters : List Task)
    (others : ∀ t, t ≠ task → t ∈ (locks lock).waiters → t ∈ waiters)
    (keepsHolds : ∀ l, holds point l → l = lock ∨ holds (tasks task) l)
    (keepsWaits : ∀ l, waits point l → l ≠ lock ∧ waits (tasks task) l) :
    LockDiscipline holds waits (Function.update locks lock ⟨true, waiters⟩)
      (Function.update tasks task point) := by
  -- nobody held the lock, so the task is now its only holder
  have nobody : ∀ t, ¬ holds (tasks t) lock := by
    intro t holding
    have locked := discipline.held t lock holding
    simp [unlocked] at locked
  have heldBefore : ∀ t l, holds (Function.update tasks task point t) l →
      (t = task ∧ l = lock) ∨ (holds (tasks t) l ∧ l ≠ lock) := by
    intro t l holding
    have before : (t = task ∧ l = lock) ∨ holds (tasks t) l := by
      rcases eq_or_ne t task with rfl | different
      · rw [Function.update_self] at holding
        exact (keepsHolds l holding).imp (fun equal => ⟨rfl, equal⟩) id
      · rw [Function.update_of_ne different] at holding
        exact Or.inr holding
    rcases before with now | holding
    · exact Or.inl now
    · have other : l ≠ lock := by
        rintro rfl
        exact nobody t holding
      exact Or.inr ⟨holding, other⟩
  constructor
  · intro t l holding
    rcases heldBefore t l holding with ⟨-, rfl⟩ | ⟨before, other⟩
    · rw [Function.update_self]
    · rw [Function.update_of_ne other]
      exact discipline.held t l before
  · intro t u l first second
    rcases heldBefore t l first with ⟨rfl, rfl⟩ | ⟨before, other⟩
    · rcases heldBefore u l second with ⟨rfl, -⟩ | ⟨-, other⟩
      · rfl
      · exact absurd rfl other
    · rcases heldBefore u l second with ⟨-, equal⟩ | ⟨before', -⟩
      · exact absurd equal other
      · exact discipline.exclusive t u l before before'
  · intro t l waiting
    rcases eq_or_ne t task with rfl | different
    · rw [Function.update_self] at waiting
      have parts := keepsWaits l waiting
      rw [Function.update_of_ne parts.1]
      exact discipline.queued t l parts.2
    · rw [Function.update_of_ne different] at waiting
      have queued := discipline.queued t l waiting
      rcases eq_or_ne l lock with rfl | other
      · rw [Function.update_self]
        exact others t different queued
      · rwa [Function.update_of_ne other]

theorem take (discipline : LockDiscipline holds waits locks tasks)
    (free : (locks lock).isFree = true)
    (keepsHolds : ∀ l, holds point l → l = lock ∨ holds (tasks task) l)
    (keepsWaits : ∀ l, waits point l → l ≠ lock ∧ waits (tasks task) l) :
    LockDiscipline holds waits (Function.update locks lock (locks lock).take)
      (Function.update tasks task point) :=
  discipline.lock_of_unlocked (AsyncLock.locked_eq_false_of_isFree free) _
    (fun _ _ queued => queued) keepsHolds keepsWaits

theorem resume (discipline : LockDiscipline holds waits locks tasks)
    (woken : (locks lock).canResume task = true)
    (keepsHolds : ∀ l, holds point l → l = lock ∨ holds (tasks task) l)
    (keepsWaits : ∀ l, waits point l → l ≠ lock ∧ waits (tasks task) l) :
    LockDiscipline holds waits (Function.update locks lock (locks lock).resume)
      (Function.update tasks task point) :=
  discipline.lock_of_unlocked (AsyncLock.locked_eq_false_of_canResume woken) _
    (fun _ different queued => AsyncLock.mem_tail_of_canResume woken different queued)
    keepsHolds keepsWaits

/-- A task treats one lock in one of these ways and leaves the others. -/
theorem pass {new : AsyncLock Task} (discipline : LockDiscipline holds waits locks tasks)
    (passage : (locks lock).Passage task (holds (tasks task) lock) (waits (tasks task) lock)
      (holds point lock) (waits point lock) new)
    (otherHolds : ∀ l, l ≠ lock → holds point l → holds (tasks task) l)
    (otherWaits : ∀ l, l ≠ lock → waits point l → waits (tasks task) l) :
    LockDiscipline holds waits (Function.update locks lock new)
      (Function.update tasks task point) := by
  have allHold (keeps : holds point lock → holds (tasks task) lock) :
      ∀ l, holds point l → holds (tasks task) l := by
    intro l holding
    rcases eq_or_ne l lock with rfl | different
    · exact keeps holding
    · exact otherHolds l different holding
  have orHold : ∀ l, holds point l → l = lock ∨ holds (tasks task) l := by
    intro l holding
    rcases eq_or_ne l lock with rfl | different
    · exact Or.inl rfl
    · exact Or.inr (otherHolds l different holding)
  have elseWait (not : ¬ waits point lock) :
      ∀ l, waits point l → l ≠ lock ∧ waits (tasks task) l := by
    intro l waiting
    have different : l ≠ lock := fun same => not (same ▸ waiting)
    exact ⟨different, otherWaits l different waiting⟩
  cases passage with
  | keep keepsHolds keepsWaits =>
      rw [Function.update_eq_self]
      apply discipline.goto (allHold keepsHolds)
      intro l waiting
      rcases eq_or_ne l lock with rfl | different
      · exact keepsWaits waiting
      · exact otherWaits l different waiting
  | take free waitsNot => exact discipline.take free orHold (elseWait waitsNot)
  | enqueue holdsNot =>
      apply discipline.enqueue (allHold fun holding => absurd holding holdsNot)
      intro l waiting
      rcases eq_or_ne l lock with rfl | different
      · exact Or.inl rfl
      · exact Or.inr (otherWaits l different waiting)
  | resume woken waitsNot => exact discipline.resume woken orHold (elseWait waitsNot)
  | release owned holdsNot waitsNot =>
      apply discipline.release owned
      · intro l holding
        have different : l ≠ lock := fun same => holdsNot (same ▸ holding)
        exact ⟨different, otherHolds l different holding⟩
      · intro l waiting
        exact (elseWait waitsNot l waiting).2
  | leave keepsHolds waitsNot =>
      exact discipline.leave (allHold keepsHolds) (elseWait waitsNot)

omit [DecidableEq Task] in
/-- A lock is replaced by a new one, which no task holds or waits for. -/
theorem renew (discipline : LockDiscipline holds waits locks tasks)
    (unused : ∀ t, ¬ holds (tasks t) lock ∧ ¬ waits (tasks t) lock)
    (fresh : AsyncLock Task) :
    LockDiscipline holds waits (Function.update locks lock fresh) tasks := by
  constructor
  · intro t l holding
    have other : l ≠ lock := by
      rintro rfl
      exact (unused t).1 holding
    rw [Function.update_of_ne other]
    exact discipline.held t l holding
  · exact discipline.exclusive
  · intro t l waiting
    have other : l ≠ lock := by
      rintro rfl
      exact (unused t).2 waiting
    rw [Function.update_of_ne other]
    exact discipline.queued t l waiting

end LockDiscipline

/-- What a table of locks says about the control points of the tasks: a task holds
a lock that is locked, and every waiter waits for it, once. -/
structure LockAccount {Task : Type u} {Lock : Type v} {Point : Type w}
    (holds waits : Point → Lock → Prop)
    (locks : Lock → AsyncLock Task) (tasks : Task → Point) : Prop where
  holder : ∀ lock, (locks lock).locked = true → ∃ task, holds (tasks task) lock
  waiter : ∀ lock, ∀ task ∈ (locks lock).waiters, waits (tasks task) lock
  nodup : ∀ lock, (locks lock).waiters.Nodup

namespace LockAccount

variable {Task : Type u} {Lock : Type v} {Point : Type w}
  [DecidableEq Task] [DecidableEq Lock]
  {holds waits : Point → Lock → Prop}
  {locks : Lock → AsyncLock Task} {tasks : Task → Point}
  {task : Task} {lock : Lock} {point : Point}

/-- A task moves on while one lock changes: the lock has a holder if it is locked,
and its waiters were waiters before or are the task. -/
theorem update (account : LockAccount holds waits locks tasks) {new : AsyncLock Task}
    (holder : new.locked = true → holds point lock ∨
      (locks lock).locked = true ∧ (holds (tasks task) lock → holds point lock))
    (waiter : ∀ t ∈ new.waiters, t = task ∧ waits point lock ∨
      t ≠ task ∧ t ∈ (locks lock).waiters)
    (nodup : new.waiters.Nodup)
    (keepsHolds : ∀ l, l ≠ lock → holds (tasks task) l → holds point l)
    (keepsWaits : ∀ l, l ≠ lock → waits (tasks task) l → waits point l) :
    LockAccount holds waits (Function.update locks lock new)
      (Function.update tasks task point) := by
  have self : (Function.update tasks task point) task = point := Function.update_self ..
  have other : ∀ t, t ≠ task → (Function.update tasks task point) t = tasks t :=
    fun t different => Function.update_of_ne different ..
  -- a holder is still one, unless it is the task and has let the lock go
  have stillHolds : ∀ l, (locks l).locked = true → (holds (tasks task) l → holds point l) →
      ∃ t, holds (Function.update tasks task point t) l := by
    intro l locked keeps
    obtain ⟨t, holding⟩ := account.holder l locked
    rcases eq_or_ne t task with rfl | different
    · exact ⟨t, by rw [self]; exact keeps holding⟩
    · exact ⟨t, by rw [other t different]; exact holding⟩
  constructor
  · intro l locked
    rcases eq_or_ne l lock with rfl | different
    · rw [Function.update_self] at locked
      rcases holder locked with now | ⟨before, keeps⟩
      · exact ⟨task, by rw [self]; exact now⟩
      · exact stillHolds l before keeps
    · rw [Function.update_of_ne different] at locked
      exact stillHolds l locked (keepsHolds l different)
  · intro l t queued
    rcases eq_or_ne l lock with rfl | different
    · rw [Function.update_self] at queued
      rcases waiter t queued with ⟨rfl, waiting⟩ | ⟨apart, before⟩
      · rw [self]
        exact waiting
      · rw [other t apart]
        exact account.waiter l t before
    · rw [Function.update_of_ne different] at queued
      have waiting := account.waiter l t queued
      rcases eq_or_ne t task with rfl | apart
      · rw [self]
        exact keepsWaits l different waiting
      · rw [other t apart]
        exact waiting
  · intro l
    rcases eq_or_ne l lock with rfl | different
    · rw [Function.update_self]
      exact nodup
    · rw [Function.update_of_ne different]
      exact account.nodup l

omit [DecidableEq Lock] in
theorem goto (account : LockAccount holds waits locks tasks)
    (keepsHolds : ∀ l, holds (tasks task) l → holds point l)
    (keepsWaits : ∀ l, ¬ waits (tasks task) l) :
    LockAccount holds waits locks (Function.update tasks task point) := by
  constructor
  · intro l locked
    obtain ⟨t, holding⟩ := account.holder l locked
    refine ⟨t, ?_⟩
    rcases eq_or_ne t task with rfl | different
    · rw [Function.update_self]
      exact keepsHolds l holding
    · rw [Function.update_of_ne different]
      exact holding
  · intro l t queued
    have waiting := account.waiter l t queued
    rcases eq_or_ne t task with rfl | different
    · exact absurd waiting (keepsWaits l)
    · rw [Function.update_of_ne different]
      exact waiting
  · exact account.nodup

theorem take (account : LockAccount holds waits locks tasks) (now : holds point lock)
    (waitsNot : ∀ l, ¬ waits (tasks task) l)
    (keepsHolds : ∀ l, l ≠ lock → holds (tasks task) l → holds point l) :
    LockAccount holds waits (Function.update locks lock (locks lock).take)
      (Function.update tasks task point) := by
  apply account.update
  · exact fun _ => Or.inl now
  · intro t queued
    refine Or.inr ⟨?_, queued⟩
    rintro rfl
    exact waitsNot lock (account.waiter lock t queued)
  · exact account.nodup lock
  · exact keepsHolds
  · exact fun l _ waiting => absurd waiting (waitsNot l)

theorem enqueue (account : LockAccount holds waits locks tasks) (now : waits point lock)
    (waitsNot : ∀ l, ¬ waits (tasks task) l) (holdsNot : ∀ l, ¬ holds (tasks task) l) :
    LockAccount holds waits (Function.update locks lock ((locks lock).enqueue task))
      (Function.update tasks task point) := by
  have absent : task ∉ (locks lock).waiters :=
    fun queued => waitsNot lock (account.waiter lock task queued)
  apply account.update
  · exact fun locked => Or.inr ⟨locked, fun holding => absurd holding (holdsNot lock)⟩
  · intro t queued
    rcases List.mem_append.mp queued with before | added
    · refine Or.inr ⟨?_, before⟩
      rintro rfl
      exact absent before
    · exact Or.inl ⟨List.mem_singleton.mp added, now⟩
  · have nodup : (locks lock).waiters.Nodup := account.nodup lock
    exact nodup.append (List.nodup_singleton task) (List.disjoint_singleton.mpr absent)
  · exact fun l _ holding => absurd holding (holdsNot l)
  · exact fun l _ waiting => absurd waiting (waitsNot l)

theorem resume (account : LockAccount holds waits locks tasks)
    (woken : (locks lock).canResume task = true) (now : holds point lock)
    (waitsOne : ∀ l, waits (tasks task) l → l = lock) (holdsNot : ∀ l, ¬ holds (tasks task) l) :
    LockAccount holds waits (Function.update locks lock (locks lock).resume)
      (Function.update tasks task point) := by
  have nodup := account.nodup lock
  apply account.update (fun _ => Or.inl now)
  · intro t queued
    refine Or.inr ⟨?_, List.mem_of_mem_tail queued⟩
    rintro rfl
    simp only [AsyncLock.canResume, Bool.and_eq_true, beq_iff_eq] at woken
    cases queue : (locks lock).waiters with
    | nil => simp [queue] at woken
    | cons first rest =>
        have equal : first = t := by simpa [queue] using woken.2
        rw [queue, equal] at nodup
        simp only [AsyncLock.resume, queue, List.tail_cons] at queued
        exact (List.nodup_cons.mp nodup).1 queued
  · exact nodup.sublist (List.tail_sublist _)
  · exact fun l _ holding => absurd holding (holdsNot l)
  · exact fun l different waiting => absurd (waitsOne l waiting) different

theorem release (account : LockAccount holds waits locks tasks)
    (waitsNot : ∀ l, ¬ waits (tasks task) l) (held : ∀ l, holds (tasks task) l → l = lock) :
    LockAccount holds waits (Function.update locks lock (locks lock).release)
      (Function.update tasks task point) := by
  apply account.update
  · intro locked
    cases locked
  · intro t queued
    refine Or.inr ⟨?_, queued⟩
    rintro rfl
    exact waitsNot lock (account.waiter lock t queued)
  · exact account.nodup lock
  · exact fun l different holding => absurd (held l holding) different
  · exact fun l _ waiting => absurd waiting (waitsNot l)

omit [DecidableEq Task] in
theorem renew (account : LockAccount holds waits locks tasks) :
    LockAccount holds waits (Function.update locks lock {}) tasks := by
  constructor
  · intro l locked
    rcases eq_or_ne l lock with rfl | different
    · rw [Function.update_self] at locked
      cases locked
    · rw [Function.update_of_ne different] at locked
      exact account.holder l locked
  · intro l t queued
    rcases eq_or_ne l lock with rfl | different
    · rw [Function.update_self] at queued
      cases queued
    · rw [Function.update_of_ne different] at queued
      exact account.waiter l t queued
  · intro l
    rcases eq_or_ne l lock with rfl | different
    · rw [Function.update_self]
      exact List.nodup_nil
    · rw [Function.update_of_ne different]
      exact account.nodup l

omit [DecidableEq Task] [DecidableEq Lock] in
/-- When no task holds or awaits a lock, it is free. -/
theorem isFree (account : LockAccount holds waits locks tasks)
    (holdsNot : ∀ t, ¬ holds (tasks t) lock) (waitsNot : ∀ t, ¬ waits (tasks t) lock) :
    (locks lock).isFree = true := by
  have unlocked : (locks lock).locked = false := by
    rw [← Bool.not_eq_true]
    intro locked
    obtain ⟨t, holding⟩ := account.holder lock locked
    exact holdsNot t holding
  have nobody : (locks lock).waiters = [] := by
    rw [List.eq_nil_iff_forall_not_mem]
    exact fun t queued => waitsNot t (account.waiter lock t queued)
  simp [AsyncLock.isFree, unlocked, nobody]

end LockAccount

end GrafuxMcp
