import GrafuxMcp.Foundation.OrderedDict
import GrafuxMcp.Runtime.Exceptions

/-! # The in-process store

`_InMemoryRedis` of `app/cache/redis_client.py` and the helpers that read and write JSON
through it. The clock counts nanoseconds. -/

namespace GrafuxMcp.InMemoryRedis

open GrafuxMcp

structure Item where
  value : Text
  expiry : Option Int
deriving DecidableEq, Repr

/-- `self._store`. -/
abbrev Store := OrderedDict Text Item

def seconds (ttl : Int) : Int := ttl * 1000000000

def Item.isExpired (now : Int) (item : Item) : Bool :=
  item.expiry.any fun expiry => expiry ≤ now

variable (now : Int) (key : Text) (store : Store)

/-- `_expired` and what it leaves of the store. -/
def expired : Bool × Store :=
  match store.get key with
  | none => (true, store)
  | some item => if item.isExpired now then (true, store.pop key) else (false, store)

def get : Option Text × Store :=
  match expired now key store with
  | (true, left) => (none, left)
  | (false, left) => ((left.get key).map Item.value, left)

def set (value : Text) : Store :=
  OrderedDict.set store key ⟨value, none⟩

def setex (ttl : Int) (value : Text) : Store :=
  OrderedDict.set store key ⟨value, some (now + seconds ttl)⟩

def delete : Store :=
  OrderedDict.pop store key

/-! ### Typed helpers -/

/-- `json.dumps`, and `json.loads` where it raises no `JSONDecodeError`. -/
structure Json where
  dumps : Value → Text
  loads : Text → Option Value

variable (json : Json)

/-- Strings are stored as they are. -/
def serialized : Value → Text
  | .str text => text.toList
  | value => json.dumps value

def cacheSet (value : Value) (ttl : Option Int) : Store :=
  match ttl.filter (· != 0) with
  | some ttl => setex now key store ttl (serialized json value)
  | none => set key store (serialized json value)

def deserialized (raw : Text) : Value :=
  (json.loads raw).getD (.str (String.ofList raw))

def cacheGet : Option Value × Store :=
  let answer := get now key store
  (answer.1.map (deserialized json), answer.2)

def cacheDelete : Store :=
  delete key store

/-! ### Reads -/

variable {now key store json}

theorem isExpired_earlier {earlier : Int} {item : Item} (before : earlier ≤ now)
    (live : item.isExpired now = false) : item.isExpired earlier = false := by
  rw [Item.isExpired] at live ⊢
  cases expiry : item.expiry with
  | none => rfl
  | some expiry' =>
      rw [expiry, Option.any_some, decide_eq_false_iff_not] at live
      rw [Option.any_some, decide_eq_false_iff_not]
      omega

/-- A live item is read, and stays. -/
theorem get_of_live {item : Item} (found : OrderedDict.get store key = some item)
    (live : item.isExpired now = false) : get now key store = (some item.value, store) := by
  have kept : expired now key store = (false, store) := by
    simp only [expired, found, live, Bool.false_eq_true, if_false]
  simp only [get, kept, found, Option.map_some]

theorem get_of_missing (missing : OrderedDict.get store key = none) :
    get now key store = (none, store) := by
  have gone : expired now key store = (true, store) := by simp only [expired, missing]
  simp only [get, gone]

/-- A read drops no other key. -/
theorem get_get_of_ne {other : Text} (different : other ≠ key) :
    OrderedDict.get (get now key store).2 other = OrderedDict.get store other := by
  have left : (get now key store).2 = (expired now key store).2 := by
    rw [get]
    split <;> rename_i answer <;> rw [answer]
  have frame : OrderedDict.get (expired now key store).2 other = OrderedDict.get store other := by
    rw [expired]
    split
    · rfl
    · split
      · rw [OrderedDict.get_pop, if_neg different]
      · rfl
  rw [left, frame]

end GrafuxMcp.InMemoryRedis
