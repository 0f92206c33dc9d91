/-! # Caches whose entries expire

A cache gives each key at most one entry with an expiry time. What is known of
every stored entry is kept by each operation and is known of what is read. -/

namespace GrafuxMcp

structure CacheEntry (Value : Type) where
  value : Value
  expires : Nat

structure TtlCache (Key Value : Type) where
  entry : Key → Option (CacheEntry Value)

namespace TtlCache

variable {Key Value : Type}

def empty : TtlCache Key Value := ⟨fun _ => none⟩

/-- An entry can be read strictly before it expires. -/
def get (cache : TtlCache Key Value) (now : Nat) (key : Key) : Option Value :=
  match cache.entry key with
  | some entry => if now < entry.expires then some entry.value else none
  | none => none

section Get

variable {cache : TtlCache Key Value} {now : Nat} {key : Key} {value : Value}

theorem get_eq_some (read : cache.get now key = some value) :
    ∃ expires, cache.entry key = some ⟨value, expires⟩ ∧ now < expires := by
  unfold get at read
  split at read
  · next entry stored =>
      split at read
      · next live =>
          cases read
          exact ⟨entry.expires, stored, live⟩
      · cases read
  · cases read

/-- An entry read at some time could also be read before. -/
theorem get_earlier {earlier : Nat} (read : cache.get now key = some value)
    (ordered : earlier ≤ now) : cache.get earlier key = some value := by
  obtain ⟨expires, stored, live⟩ := get_eq_some read
  have liveEarlier : earlier < expires := by omega
  simp [get, stored, liveEarlier]

end Get

/-- Every stored entry satisfies `P`. -/
def Stores (P : Key → Value → Prop) (cache : TtlCache Key Value) : Prop :=
  ∀ key value expires, cache.entry key = some ⟨value, expires⟩ → P key value

section Stores

variable {cache : TtlCache Key Value} {now : Nat} {key : Key} {value : Value}
  {P : Key → Value → Prop}

theorem stores_empty : Stores P empty := by
  intro key value expires stored
  cases stored

theorem Stores.get (stores : Stores P cache)
    (read : cache.get now key = some value) : P key value := by
  obtain ⟨expires, stored, -⟩ := get_eq_some read
  exact stores key value expires stored

end Stores

variable [DecidableEq Key]

def setex (cache : TtlCache Key Value) (now : Nat) (key : Key) (ttl : Nat)
    (value : Value) : TtlCache Key Value :=
  ⟨fun other =>
    if other = key then some ⟨value, now + ttl⟩ else cache.entry other⟩

def delete (cache : TtlCache Key Value) (key : Key) : TtlCache Key Value :=
  ⟨fun other => if other = key then none else cache.entry other⟩

variable {cache : TtlCache Key Value} {now : Nat} {key : Key} {value : Value}
  {P : Key → Value → Prop}

/-- `delete` for every key of a set. -/
def deleteAll (cache : TtlCache Key Value) (keys : Key → Bool) :
    TtlCache Key Value :=
  ⟨fun key => if keys key then none else cache.entry key⟩

omit [DecidableEq Key] in
/-- What can be read after a deletion was not deleted and could be read. -/
theorem get_deleteAll {keys : Key → Bool}
    (read : (cache.deleteAll keys).get now key = some value) :
    keys key = false ∧ cache.get now key = some value := by
  cases deleted : keys key with
  | true => simp [get, deleteAll, deleted] at read
  | false => simpa [get, deleteAll, deleted] using read

theorem get_delete {other : Key}
    (read : (cache.delete key).get now other = some value) :
    other ≠ key ∧ cache.get now other = some value := by
  by_cases same : other = key
  · simp [get, delete, same] at read
  · simpa [get, delete, same] using read

/-- What can be read after a write was written or could be read. -/
theorem get_setex {other : Key} {ttl : Nat} {written : Value}
    (read : (cache.setex now key ttl written).get now other = some value) :
    other = key ∧ value = written ∨ cache.get now other = some value := by
  by_cases same : other = key
  · left
    obtain ⟨expires, stored, -⟩ := get_eq_some read
    simp only [setex, same, if_true, Option.some.injEq,
      CacheEntry.mk.injEq] at stored
    exact ⟨same, stored.1.symm⟩
  · right
    simpa [get, setex, same] using read

theorem Stores.setex (stores : Stores P cache) (ttl : Nat)
    (holds : P key value) : Stores P (cache.setex now key ttl value) := by
  intro other value' expires stored
  unfold TtlCache.setex at stored
  dsimp only at stored
  split at stored
  · next same =>
      cases stored
      rw [same]
      exact holds
  · exact stores other value' expires stored

end TtlCache

end GrafuxMcp
