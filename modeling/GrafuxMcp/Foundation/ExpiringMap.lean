import Mathlib.Order.Lattice

/-! # Maps whose entries expire

An entry can be read until its expiry time, or for good when it has none. Maps that agree
from some time on cannot be told apart from then on. -/

namespace GrafuxMcp

/-- The value of each key, and the time from which on it is gone. -/
def ExpiringMap (Key Value Time : Type) :=
  Key → Option (Value × Option Time)

namespace ExpiringMap

variable {Key Value Time : Type} [LinearOrder Time]

def empty : ExpiringMap Key Value Time := fun _ => none

def isLive (now : Time) (entry : Value × Option Time) : Bool :=
  entry.2.all fun expiry => now < expiry

section Operations

variable (map : ExpiringMap Key Value Time)

/-- The entries that are there at a time. -/
def live (now : Time) : ExpiringMap Key Value Time :=
  fun key => (map key).filter (isLive now)

def get (now : Time) (key : Key) : Option Value :=
  (map.live now key).map Prod.fst

def put [DecidableEq Key] (key : Key) (value : Value) (expiry : Option Time) :
    ExpiringMap Key Value Time :=
  fun other => if other = key then some (value, expiry) else map other

/-- The map without some keys. -/
def remove (gone : Key → Bool) : ExpiringMap Key Value Time :=
  fun key => if gone key then none else map key

end Operations

variable {left right : ExpiringMap Key Value Time} {since now : Time} {key : Key}

theorem isLive_earlier {entry : Value × Option Time} (before : since ≤ now)
    (isLive : isLive now entry = true) : ExpiringMap.isLive since entry = true := by
  rw [ExpiringMap.isLive, Option.all_eq_true] at isLive ⊢
  intro expiry given
  have later := of_decide_eq_true (isLive expiry given)
  exact decide_eq_true (lt_of_le_of_lt before later)

/-- From a time on the two maps have the same entries. -/
def Agrees (since : Time) (left right : ExpiringMap Key Value Time) : Prop :=
  ∀ now, since ≤ now → left.live now = right.live now

theorem agrees_refl (since : Time) (map : ExpiringMap Key Value Time) : Agrees since map map :=
  fun _ _ => rfl

theorem Agrees.trans {middle : ExpiringMap Key Value Time} (agrees : Agrees since left middle)
    (further : Agrees since middle right) : Agrees since left right :=
  fun now reached => (agrees now reached).trans (further now reached)

theorem Agrees.later (agrees : Agrees since left right) (before : since ≤ now) :
    Agrees now left right :=
  fun moment reached => agrees moment (le_trans before reached)

theorem Agrees.get_eq (agrees : Agrees since left right) (reached : since ≤ now) (key : Key) :
    left.get now key = right.get now key := by
  rw [get, get, agrees now reached]

theorem Agrees.put [DecidableEq Key] (agrees : Agrees since left right) (key : Key)
    (value : Value) (expiry : Option Time) :
    Agrees since (left.put key value expiry) (right.put key value expiry) := by
  intro now reached
  funext other
  have same := congrFun (agrees now reached) other
  rw [live, live] at same ⊢
  rw [ExpiringMap.put, ExpiringMap.put]
  split
  · rfl
  · exact same

theorem Agrees.remove (agrees : Agrees since left right) (gone : Key → Bool) :
    Agrees since (left.remove gone) (right.remove gone) := by
  intro now reached
  funext other
  have same := congrFun (agrees now reached) other
  rw [live, live] at same ⊢
  rw [ExpiringMap.remove, ExpiringMap.remove]
  split
  · rfl
  · exact same

/-- A map that has lost nothing but entries that have expired still agrees. -/
theorem agrees_of_shed (shed : ∀ key, left key = right key ∨
    left key = none ∧ ∀ entry, right key = some entry → isLive since entry = false) :
    Agrees since left right := by
  intro now reached
  funext key
  rw [live, live]
  rcases shed key with same | ⟨lost, expired⟩
  · rw [same]
  · rw [lost]
    cases had : right key with
    | none => rfl
    | some entry =>
        have ended : isLive now entry = false := by
          cases isLive' : isLive now entry with
          | false => rfl
          | true =>
              have contrary := isLive_earlier reached isLive'
              rw [expired entry had] at contrary
              cases contrary
        rw [Option.filter_some, ended]
        rfl

end ExpiringMap

end GrafuxMcp
