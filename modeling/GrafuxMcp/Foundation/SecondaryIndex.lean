import GrafuxMcp.Foundation.OrderedDict
import Mathlib.Data.List.Induction

/-! # Secondary indexes

A dictionary whose values have names, and beside it the keys under each name. An
insertion that replaces a value does not look at the name that the old one had. -/

namespace GrafuxMcp

structure IndexedDict (Key : Type u) (Name : Type v) (Value : Type w) where
  table : OrderedDict Key Value := .empty
  index : OrderedDict Name (List Key) := .empty

namespace IndexedDict

variable {Key : Type u} {Name : Type v} {Value : Type w} [DecidableEq Key] [DecidableEq Name]
  (name : Value → Name) (dict : IndexedDict Key Name Value)

/-- What the index lists under a name. -/
def keysOf (wanted : Name) : List Key :=
  (dict.index.get wanted).getD []

def insert (entry : Key × Value) : IndexedDict Key Name Value where
  table := dict.table.set entry.1 entry.2
  index :=
    if entry.1 ∈ dict.keysOf (name entry.2) then dict.index
    else dict.index.set (name entry.2) (dict.keysOf (name entry.2) ++ [entry.1])

def insertAll (entries : List (Key × Value)) : IndexedDict Key Name Value :=
  entries.foldl (insert name) dict

/-- The keys whose values have the name, in the order of the dictionary. -/
def scan (wanted : Name) : List Key :=
  (dict.table.items.filter fun item => name item.2 = wanted).map Prod.fst

/-- The index lists each key once, under the name that its value has now. -/
structure Exact : Prop where
  nodup : ∀ wanted, (dict.keysOf wanted).Nodup
  current : ∀ wanted key, key ∈ dict.keysOf wanted ↔
    ∃ value, dict.table.get key = some value ∧ name value = wanted

/-- No key is used for two names. -/
def OneName (entries : List (Key × Value)) : Prop :=
  ∀ entry ∈ entries, ∀ other ∈ entries, entry.1 = other.1 → name entry.2 = name other.2

variable {name dict} {entry : Key × Value} {entries : List (Key × Value)}

theorem keysOf_insert (wanted : Name) :
    (dict.insert name entry).keysOf wanted =
      if wanted = name entry.2 ∧ entry.1 ∉ dict.keysOf wanted then
        dict.keysOf wanted ++ [entry.1]
      else dict.keysOf wanted := by
  have index : (dict.insert name entry).index =
      if entry.1 ∈ dict.keysOf (name entry.2) then dict.index
      else dict.index.set (name entry.2) (dict.keysOf (name entry.2) ++ [entry.1]) := rfl
  by_cases listed : entry.1 ∈ dict.keysOf (name entry.2)
  · have old : ¬ (wanted = name entry.2 ∧ entry.1 ∉ dict.keysOf wanted) := by
      rintro ⟨same, missing⟩
      rw [same] at missing
      exact missing listed
    rw [if_neg old, keysOf, index, if_pos listed, keysOf]
  · rw [keysOf, index, if_neg listed, OrderedDict.get_set]
    by_cases same : wanted = name entry.2
    · rw [if_pos same, if_pos ⟨same, by rw [same]; exact listed⟩, same, Option.getD_some]
    · rw [if_neg same, if_neg fun new => same new.1, keysOf]

theorem insertAll_concat :
    dict.insertAll name (entries ++ [entry]) = (dict.insertAll name entries).insert name entry := by
  rw [insertAll, List.foldl_append]
  rfl

section Built

variable (name entries)

/-- The dictionary after these insertions. -/
abbrev built : IndexedDict Key Name Value :=
  insertAll name {} entries

theorem nodup_keysOf (wanted : Name) : ((built name entries).keysOf wanted).Nodup := by
  induction entries using List.reverseRecOn with
  | nil => exact List.nodup_nil
  | append_singleton entries entry induction =>
      rw [built, insertAll_concat, keysOf_insert]
      split
      case isTrue new =>
        have apart := List.disjoint_singleton.mpr new.2
        exact induction.append (List.nodup_singleton _) apart
      case isFalse => exact induction

/-- The index lists every key under all the names that it was ever used for. -/
theorem mem_keysOf {wanted : Name} {key : Key} :
    key ∈ (built name entries).keysOf wanted ↔
      ∃ entry ∈ entries, entry.1 = key ∧ name entry.2 = wanted := by
  induction entries using List.reverseRecOn with
  | nil => simp [built, insertAll, keysOf, OrderedDict.get, OrderedDict.empty]
  | append_singleton entries entry induction =>
      rw [built, insertAll_concat, keysOf_insert]
      simp only [List.mem_append, List.mem_singleton, or_and_right, exists_or, exists_eq_left]
      rw [← induction]
      split
      case isTrue new =>
        rw [List.mem_append, List.mem_singleton, new.1]
        simp [eq_comm]
      case isFalse old =>
        refine ⟨Or.inl, ?_⟩
        rintro (listed | ⟨same, named⟩)
        · exact listed
        · by_contra missing
          rw [← same] at missing
          exact old ⟨named.symm, missing⟩

/-- Under a key stands the last entry with it. -/
theorem get_built (key : Key) :
    (built name entries).table.get key =
      (entries.reverse.find? fun entry => entry.1 = key).map Prod.snd := by
  induction entries using List.reverseRecOn with
  | nil => rfl
  | append_singleton entries entry induction =>
      rw [built, insertAll_concat, insert, OrderedDict.get_set, List.reverse_concat,
        List.find?_cons]
      split
      case isTrue same => simp [same]
      case isFalse different =>
        have other : decide (entry.1 = key) = false := by simpa using Ne.symm different
        rw [other]
        exact induction

theorem get_built_iff {key : Key} :
    ((built name entries).table.get key).isSome = true ↔ ∃ entry ∈ entries, entry.1 = key := by
  rw [get_built, Option.isSome_map, List.find?_isSome]
  simp

theorem mem_of_get_built {key : Key} {value : Value}
    (found : (built name entries).table.get key = some value) : (key, value) ∈ entries := by
  rw [get_built] at found
  rcases Option.map_eq_some_iff.mp found with ⟨entry, first, same⟩
  have named : entry.1 = key := by simpa using List.find?_some first
  have member := List.mem_reverse.mp (List.mem_of_find?_eq_some first)
  rw [← named, ← same]
  exact member

/-- The first key of a name that a test accepts is that of the first such entry. -/
theorem find_keysOf (wanted : Name) (accepts : Key → Bool) :
    ((built name entries).keysOf wanted).find? accepts =
      (entries.find? fun entry => decide (name entry.2 = wanted) && accepts entry.1).map
        Prod.fst := by
  induction entries using List.reverseRecOn with
  | nil => rfl
  | append_singleton entries entry induction =>
      rw [built, insertAll_concat, keysOf_insert, List.find?_append, Option.map_or, ← induction]
      by_cases named : name entry.2 = wanted
      · by_cases listed : entry.1 ∈ (built name entries).keysOf wanted
        · rw [if_neg fun new => new.2 listed]
          cases first : ((built name entries).keysOf wanted).find? accepts with
          | some key => rfl
          | none =>
              have refused := List.find?_eq_none.mp first entry.1 listed
              simp [refused]
        · rw [if_pos ⟨named.symm, listed⟩, List.find?_append]
          congr 1
          by_cases accepted : accepts entry.1 = true <;> simp [named, accepted]
      · rw [if_neg fun new => named new.1.symm]
        simp [named]

theorem exact_iff_oneName : (built name entries).Exact name ↔ OneName name entries := by
  constructor
  · intro exact_ entry member other member' same
    have listed := (mem_keysOf name entries).mpr ⟨entry, member, rfl, rfl⟩
    have listed' := (mem_keysOf name entries).mpr ⟨other, member', rfl, rfl⟩
    rcases (exact_.current _ _).mp listed with ⟨value, found, named⟩
    rcases (exact_.current _ _).mp listed' with ⟨value', found', named'⟩
    rw [← same, found, Option.some.injEq] at found'
    rw [← named, ← named', found']
  · intro oneName
    refine ⟨nodup_keysOf name entries, ?_⟩
    intro wanted key
    rw [mem_keysOf]
    constructor
    · rintro ⟨entry, member, same, named⟩
      have present := (get_built_iff name entries).mpr ⟨entry, member, same⟩
      rcases Option.isSome_iff_exists.mp present with ⟨value, found⟩
      have last := mem_of_get_built name entries found
      have equal := oneName (key, value) last entry member same.symm
      exact ⟨value, found, equal.trans named⟩
    · rintro ⟨value, found, named⟩
      exact ⟨(key, value), mem_of_get_built name entries found, rfl, named⟩

variable {name entries}

/-- Replacing a value by one of the same name does not show in a scan. -/
theorem scan_replace {dict : IndexedDict Key Name Value}
    (present : (dict.table.get entry.1).isSome = true)
    (same : ∀ value, dict.table.get entry.1 = some value → name value = name entry.2)
    (wanted : Name) : (dict.insert name entry).scan name wanted = dict.scan name wanted := by
  have keeps : ∀ item ∈ dict.table.items,
      name (if item.1 = entry.1 then entry else item).2 = name item.2 ∧
        (if item.1 = entry.1 then entry else item).1 = item.1 := by
    intro item member
    split
    case isTrue equal =>
      have found : dict.table.get entry.1 = some item.2 := by
        rw [← equal]
        exact OrderedDict.get_of_mem member
      exact ⟨(same _ found).symm, equal.symm⟩
    case isFalse => exact ⟨rfl, rfl⟩
  rw [scan, scan, insert, OrderedDict.items_set_of_isSome present]
  generalize dict.table.items = items at keeps
  induction items with
  | nil => rfl
  | cons item items induction =>
      have first := keeps item List.mem_cons_self
      have rest := induction fun other member => keeps other (List.mem_cons_of_mem _ member)
      rw [List.map_cons, List.filter_cons, List.filter_cons]
      simp only [first.1]
      split
      · rw [List.map_cons, List.map_cons, first.2, rest]
      · exact rest

theorem scan_append {dict : IndexedDict Key Name Value}
    (missing : dict.table.get entry.1 = none) (wanted : Name) :
    (dict.insert name entry).scan name wanted =
      dict.scan name wanted ++ if name entry.2 = wanted then [entry.1] else [] := by
  rw [scan, scan, insert, OrderedDict.items_set_of_get missing, List.filter_append,
    List.map_append, List.filter_singleton]
  congr 1
  by_cases named : name entry.2 = wanted <;> simp [named]

/-- Then the index lists the keys in the order of the dictionary, too. -/
theorem keysOf_eq_scan (oneName : OneName name entries) (wanted : Name) :
    (built name entries).keysOf wanted = (built name entries).scan name wanted := by
  induction entries using List.reverseRecOn with
  | nil => rfl
  | append_singleton entries entry induction =>
      have earlier : OneName name entries := by
        intro first member second member'
        exact oneName first (List.mem_append_left _ member) second (List.mem_append_left _ member')
      have before := induction earlier
      have last : entry ∈ entries ++ [entry] := List.mem_append_right _ List.mem_cons_self
      rw [built, insertAll_concat, keysOf_insert]
      cases found : (built name entries).table.get entry.1 with
      | some value =>
          have same : ∀ value, (built name entries).table.get entry.1 = some value →
              name value = name entry.2 := by
            intro value found
            have member := mem_of_get_built name entries found
            exact oneName _ (List.mem_append_left _ member) entry last rfl
          have member := mem_of_get_built name entries found
          have listed : entry.1 ∈ (built name entries).keysOf (name entry.2) :=
            (mem_keysOf name entries).mpr ⟨_, member, rfl, same value found⟩
          have old : ¬ (wanted = name entry.2 ∧ entry.1 ∉ (built name entries).keysOf wanted) := by
            rintro ⟨equal, missing⟩
            rw [equal] at missing
            exact missing listed
          rw [if_neg old, scan_replace (by rw [found]; rfl) same]
          exact before
      | none =>
          have missing : entry.1 ∉ (built name entries).keysOf wanted := by
            intro listed
            rcases (mem_keysOf name entries).mp listed with ⟨other, member, same, _⟩
            have present := (get_built_iff name entries).mpr ⟨other, member, same⟩
            rw [found] at present
            cases present
          rw [scan_append found]
          by_cases named : wanted = name entry.2
          · rw [if_pos ⟨named, missing⟩, if_pos named.symm, before]
          · rw [if_neg fun new => named new.1, if_neg fun same => named same.symm, List.append_nil]
            exact before

end Built

end IndexedDict

end GrafuxMcp
