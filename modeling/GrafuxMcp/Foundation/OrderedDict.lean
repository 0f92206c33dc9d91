import Mathlib.Data.List.Nodup

/-! # Dictionaries in insertion order -/

namespace GrafuxMcp

/-- The items of a dictionary in the order in which their keys were first set. -/
structure OrderedDict (Key : Type u) (Value : Type v) where
  items : List (Key × Value)
  nodup : (items.map Prod.fst).Nodup

namespace OrderedDict

variable {Key : Type u} {Value : Type v} [DecidableEq Key]
  (dict : OrderedDict Key Value) {key : Key} {value : Value} {item : Key × Value}

def empty : OrderedDict Key Value where
  items := []
  nodup := List.nodup_nil

def get (key : Key) : Option Value :=
  dict.items.lookup key

/-- The items that `keeps` accepts. -/
def filter (keeps : Key × Value → Bool) : OrderedDict Key Value where
  items := dict.items.filter keeps
  nodup := dict.nodup.sublist (List.filter_sublist.map Prod.fst)

def pop (key : Key) : OrderedDict Key Value :=
  dict.filter fun item => item.1 != key

/-- A key that is set again keeps its place. -/
def set (key : Key) (value : Value) : OrderedDict Key Value :=
  if member : key ∈ dict.items.map Prod.fst then
    { items := dict.items.map fun item => if item.1 = key then (key, value) else item
      nodup := by
        have sameKeys : (dict.items.map fun item =>
            if item.1 = key then (key, value) else item).map Prod.fst =
            dict.items.map Prod.fst := by
          rw [List.map_map]
          apply List.map_congr_left
          intro item _
          by_cases same : item.1 = key <;> simp [same]
        rw [sameKeys]
        exact dict.nodup }
  else
    { items := dict.items ++ [(key, value)]
      nodup := by
        rw [List.map_append]
        exact dict.nodup.append (List.nodup_singleton _)
          (List.disjoint_singleton.mpr member) }

variable {dict}

theorem mem_of_get (found : dict.get key = some value) : (key, value) ∈ dict.items := by
  obtain ⟨before, after, equal, -⟩ := List.lookup_eq_some_iff.mp found
  rw [equal]
  exact List.mem_append_right _ List.mem_cons_self

theorem get_of_mem (member : (key, value) ∈ dict.items) : dict.get key = some value := by
  obtain ⟨before, after, equal⟩ := List.append_of_mem member
  refine List.lookup_eq_some_iff.mpr ⟨before, after, equal, ?_⟩
  intro other earlier
  -- the key stands once in the dictionary
  have nodup := dict.nodup
  rw [equal, List.map_append, List.map_cons] at nodup
  have apart := (List.nodup_append.mp nodup).2.2 other.1 (List.mem_map_of_mem earlier) key
    List.mem_cons_self
  simpa using apart.symm

theorem isSome_get : (dict.get key).isSome = true ↔ key ∈ dict.items.map Prod.fst := by
  constructor
  · intro found
    have present := mem_of_get (Option.some_get found).symm
    exact List.mem_map_of_mem (f := Prod.fst) present
  · intro member
    rcases List.mem_map.mp member with ⟨item, inside, same⟩
    rw [← same, get_of_mem inside]
    rfl

theorem get_eq_of_items {other : OrderedDict Key Value} (same : other.items = dict.items)
    (key : Key) : other.get key = dict.get key := by
  rw [get, get, same]

theorem get_filter {keeps : Key × Value → Bool} (missing : dict.get key = none) :
    (dict.filter keeps).get key = none := by
  rw [get, List.lookup_eq_none_iff] at missing ⊢
  intro item member
  exact missing item (List.mem_of_mem_filter member)

theorem get_pop_self : (dict.pop key).get key = none := by
  rw [get, List.lookup_eq_none_iff]
  intro item member
  have keeps : item.1 ≠ key := by simpa using List.of_mem_filter member
  simpa using keeps.symm

/-- A key stands for one value. -/
theorem value_unique {other : Value} (member : (key, value) ∈ dict.items)
    (member' : (key, other) ∈ dict.items) : value = other := by
  have found := get_of_mem member
  rw [get_of_mem member', Option.some.injEq] at found
  exact found.symm

theorem items_set_of_get (missing : dict.get key = none) :
    (dict.set key value).items = dict.items ++ [(key, value)] := by
  have vacant : key ∉ dict.items.map Prod.fst := by
    intro member
    obtain ⟨item, inside, rfl⟩ := List.mem_map.mp member
    rw [get_of_mem inside] at missing
    cases missing
  rw [set, dif_neg vacant]

theorem items_set_of_isSome (present : (dict.get key).isSome = true) :
    (dict.set key value).items =
      dict.items.map fun item => if item.1 = key then (key, value) else item := by
  rw [set, dif_pos (isSome_get.mp present)]

omit [DecidableEq Key] in
theorem mem_of_mem_filter {keeps : Key × Value → Bool}
    (member : item ∈ (dict.filter keeps).items) : item ∈ dict.items :=
  List.mem_of_mem_filter member

theorem mem_of_mem_pop (member : item ∈ (dict.pop key).items) : item ∈ dict.items :=
  mem_of_mem_filter member

theorem mem_of_mem_set (member : item ∈ (dict.set key value).items) :
    item = (key, value) ∨ item ∈ dict.items := by
  unfold set at member
  split at member
  · obtain ⟨before, inside, rfl⟩ := List.mem_map.mp member
    by_cases same : before.1 = key
    · simp [same]
    · simp [same, inside]
  · rcases List.mem_append.mp member with inside | new
    · exact Or.inr inside
    · exact Or.inl (List.mem_singleton.mp new)

theorem mem_set_of_ne {key' : Key} (different : key' ≠ key) {value' : Value} :
    (key', value') ∈ (dict.set key value).items ↔ (key', value') ∈ dict.items := by
  constructor
  · intro member
    rcases mem_of_mem_set member with new | old
    · exact absurd (congrArg Prod.fst new) different
    · exact old
  · intro member
    unfold set
    split
    · exact List.mem_map.mpr ⟨(key', value'), member, if_neg different⟩
    · exact List.mem_append_left _ member

theorem mem_set_self : (key, value) ∈ (dict.set key value).items := by
  unfold set
  split
  case isTrue present =>
    obtain ⟨item, member, same⟩ := List.mem_map.mp present
    exact List.mem_map.mpr ⟨item, member, if_pos same⟩
  case isFalse => exact List.mem_append_right _ (List.mem_singleton_self _)

theorem get_set (key' : Key) :
    (dict.set key value).get key' = if key' = key then some value else dict.get key' := by
  split
  case isTrue same =>
    rw [same]
    exact get_of_mem mem_set_self
  case isFalse different =>
    ext value'
    constructor
    · exact fun found => get_of_mem ((mem_set_of_ne different).mp (mem_of_get found))
    · exact fun found => get_of_mem ((mem_set_of_ne different).mpr (mem_of_get found))

theorem get_pop (key' : Key) :
    (dict.pop key).get key' = if key' = key then none else dict.get key' := by
  split
  case isTrue same => rw [same, get_pop_self]
  case isFalse different =>
    have kept : ∀ value', (key', value') ∈ (dict.pop key).items ↔ (key', value') ∈ dict.items := by
      intro value'
      simp [pop, filter, different]
    ext value'
    constructor
    · exact fun found => get_of_mem ((kept value').mp (mem_of_get found))
    · exact fun found => get_of_mem ((kept value').mpr (mem_of_get found))

theorem length_set_le :
    (dict.set key value).items.length ≤ dict.items.length + 1 := by
  cases found : dict.get key with
  | none =>
      apply Nat.le_of_eq
      rw [items_set_of_get found, List.length_append, List.length_singleton]
  | some old =>
      rw [items_set_of_isSome (Option.isSome_of_eq_some found), List.length_map]
      exact Nat.le_succ _

theorem length_pop_of_isSome (present : (dict.get key).isSome = true) :
    (dict.pop key).items.length + 1 ≤ dict.items.length := by
  rcases List.mem_map.mp (isSome_get.mp present) with ⟨item, member, same⟩
  apply List.length_filter_lt_length_iff_exists.mpr
  exact ⟨item, member, by simp [same]⟩

end OrderedDict

end GrafuxMcp
