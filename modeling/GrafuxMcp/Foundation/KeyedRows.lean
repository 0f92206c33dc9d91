import Mathlib.Data.List.Nodup

/-! # Tables with a unique key

The rows of a table with a unique key, and what two statements of SQL do to them:
`UPDATE ... WHERE` and `INSERT ... ON CONFLICT (key) DO UPDATE`. -/

namespace GrafuxMcp

section Rows

variable {Row Key : Type} [DecidableEq Key]

/-- `UPDATE ... SET change WHERE wanted`. -/
def updateWhere (wanted : Row → Bool) (change : Row → Row) (rows : List Row) : List Row :=
  rows.map fun row => if wanted row then change row else row

/-- The row of a conflict takes over what `merge` takes from the new row. -/
def mergeInto (key : Row → Key) (merge : Row → Row → Row) (new : List Row) (row : Row) : Row :=
  match new.find? fun other => key other = key row with
  | some other => merge row other
  | none => row

/-- `INSERT ... ON CONFLICT (key) DO UPDATE` of new rows with different keys. -/
def upsertRows (key : Row → Key) (merge : Row → Row → Row) (new rows : List Row) : List Row :=
  rows.map (mergeInto key merge new) ++ new.filter fun row => key row ∉ rows.map key

/-! ### Updates -/

section Update

variable {wanted : Row → Bool} {change : Row → Row} {rows : List Row} {row : Row}

theorem mem_updateWhere (member : row ∈ updateWhere wanted change rows) :
    ∃ old ∈ rows, wanted old = true ∧ row = change old ∨ wanted old = false ∧ row = old := by
  rcases List.mem_map.mp member with ⟨old, inside, equal⟩
  refine ⟨old, inside, ?_⟩
  cases wants : wanted old with
  | true =>
      rw [wants, if_pos rfl] at equal
      exact Or.inl ⟨rfl, equal.symm⟩
  | false =>
      rw [wants] at equal
      exact Or.inr ⟨rfl, equal.symm⟩

theorem mem_updateWhere_of_wanted (member : row ∈ rows) (wants : wanted row = true) :
    change row ∈ updateWhere wanted change rows := by
  apply List.mem_map.mpr
  exact ⟨row, member, by rw [wants, if_pos rfl]⟩

theorem mem_updateWhere_of_not_wanted (member : row ∈ rows) (spared : wanted row = false) :
    row ∈ updateWhere wanted change rows := by
  apply List.mem_map.mpr
  refine ⟨row, member, ?_⟩
  rw [spared]
  rfl

/-- What the change leaves as it is. -/
theorem map_updateWhere {View : Type} {view : Row → View}
    (same : ∀ row ∈ rows, wanted row = true → view (change row) = view row) :
    (updateWhere wanted change rows).map view = rows.map view := by
  rw [updateWhere, List.map_map]
  apply List.map_congr_left
  intro row member
  cases wants : wanted row with
  | true => simp [wants, same row member wants]
  | false => simp [wants]

theorem filter_updateWhere {keeps : Row → Bool}
    (same : ∀ row, keeps (change row) = keeps row) :
    (updateWhere wanted change rows).filter keeps =
      updateWhere wanted change (rows.filter keeps) := by
  rw [updateWhere, updateWhere, List.filter_map]
  congr 1
  apply List.filter_congr
  intro row _
  simp only [Function.comp_apply]
  split
  · exact same row
  · rfl

theorem updateWhere_eq_self (spared : ∀ row ∈ rows, wanted row = false) :
    updateWhere wanted change rows = rows := by
  calc updateWhere wanted change rows = rows.map id := by
        apply List.map_congr_left
        intro row member
        rw [spared row member]
        rfl
    _ = rows := List.map_id rows

end Update

/-! ### Insertions -/

section Insert

variable {key : Row → Key} {merge : Row → Row → Row} {new rows : List Row} {row other : Row}

theorem mergeInto_of_notMem (free : key row ∉ new.map key) : mergeInto key merge new row = row := by
  have none : new.find? (fun other => key other = key row) = none := by
    apply List.find?_eq_none.mpr
    intro other member same
    apply free
    rw [← of_decide_eq_true same]
    exact List.mem_map_of_mem member
  rw [mergeInto, none]

variable (merge) in
/-- The row takes over from the new row with its key. -/
theorem mergeInto_of_mem (distinct : (new.map key).Nodup) (member : other ∈ new)
    (same : key other = key row) : mergeInto key merge new row = merge row other := by
  have found : new.find? (fun candidate => key candidate = key row) = some other := by
    induction new with
    | nil => cases member
    | cons first new induction =>
        rw [List.map_cons, List.nodup_cons] at distinct
        rcases List.mem_cons.mp member with here | later
        · rw [List.find?_cons_of_pos (by simp [← here, same]), here]
        · have different : key first ≠ key row := by
            intro equal
            apply distinct.1
            rw [equal, ← same]
            exact List.mem_map_of_mem later
          rw [List.find?_cons_of_neg (by simpa using different)]
          exact induction distinct.2 later
  rw [mergeInto, found]

variable (key merge new row) in
/-- Either the row stays, or a new row has its key. -/
theorem mergeInto_cases :
    (key row ∉ new.map key ∧ mergeInto key merge new row = row) ∨
      ∃ other ∈ new, key other = key row ∧ mergeInto key merge new row = merge row other := by
  cases found : new.find? fun other => key other = key row with
  | none =>
      left
      constructor
      · intro member
        rcases List.mem_map.mp member with ⟨other, inside, same⟩
        exact List.find?_eq_none.mp found other inside (by simpa using same)
      · rw [mergeInto, found]
  | some other =>
      right
      refine ⟨other, List.mem_of_find?_eq_some found, ?_, ?_⟩
      · simpa using List.find?_some found
      · rw [mergeInto, found]

section Keys

variable (keeps : ∀ row other, key (merge row other) = key row)
include keeps

theorem key_mergeInto : key (mergeInto key merge new row) = key row := by
  rcases mergeInto_cases key merge new row with
    ⟨_, stays⟩ | ⟨other, _, _, merged⟩
  · rw [stays]
  · rw [merged, keeps]

theorem nodup_upsertRows (distinct : (new.map key).Nodup) (unique : (rows.map key).Nodup) :
    ((upsertRows key merge new rows).map key).Nodup := by
  have keys : (rows.map (mergeInto key merge new)).map key = rows.map key := by
    rw [List.map_map]
    exact List.map_congr_left fun row _ => key_mergeInto keeps
  rw [upsertRows, List.map_append, keys]
  apply List.Nodup.append unique (distinct.sublist (List.filter_sublist.map _))
  intro found inside added
  rcases List.mem_map.mp added with ⟨row, member, same⟩
  have apart := (List.mem_filter.mp member).2
  rw [same] at apart
  exact absurd inside (by simpa using apart)

theorem filter_map_mergeInto (part : Key → Bool) :
    (rows.map (mergeInto key merge new)).filter (fun row => part (key row)) =
      (rows.filter fun row => part (key row)).map (mergeInto key merge new) := by
  rw [List.filter_map]
  congr 1
  apply List.filter_congr
  intro row _
  rw [Function.comp_apply, key_mergeInto keeps]

/-- The rows of a part of the keys, when all new rows belong to it. -/
theorem filter_upsertRows (part : Key → Bool) (within : ∀ row ∈ new, part (key row) = true) :
    (upsertRows key merge new rows).filter (fun row => part (key row)) =
      upsertRows key merge new (rows.filter fun row => part (key row)) := by
  rw [upsertRows, upsertRows, List.filter_append, filter_map_mergeInto keeps,
    List.filter_filter]
  congr 1
  apply List.filter_congr
  intro row member
  have belongs := within row member
  simp only [belongs, Bool.true_and, List.mem_map, List.mem_filter, decide_eq_decide]
  constructor
  · rintro apart ⟨other, ⟨inside, _⟩, same⟩
    exact apart ⟨other, inside, same⟩
  · rintro apart ⟨other, inside, same⟩
    refine apart ⟨other, ⟨inside, ?_⟩, same⟩
    rw [same]
    exact belongs

/-- The rows of a part of the keys, when no new row belongs to it. -/
theorem filter_upsertRows_of_apart (part : Key → Bool)
    (apart : ∀ row ∈ new, part (key row) = false) :
    (upsertRows key merge new rows).filter (fun row => part (key row)) =
      rows.filter fun row => part (key row) := by
  have added : (new.filter fun row => key row ∉ rows.map key).filter (fun row => part (key row)) =
      [] := by
    apply List.filter_eq_nil_iff.mpr
    intro row member
    rw [apart row (List.mem_of_mem_filter member)]
    exact Bool.false_ne_true
  rw [upsertRows, List.filter_append, filter_map_mergeInto keeps, added, List.append_nil]
  calc (rows.filter fun row => part (key row)).map (mergeInto key merge new)
      = (rows.filter fun row => part (key row)).map id := by
        apply List.map_congr_left
        intro row member
        apply mergeInto_of_notMem
        intro named
        rcases List.mem_map.mp named with ⟨other, inside, same⟩
        have belongs := (List.mem_filter.mp member).2
        rw [← same, apart other inside] at belongs
        cases belongs
    _ = rows.filter fun row => part (key row) := List.map_id _

end Keys

theorem mem_upsertRows (member : row ∈ upsertRows key merge new rows) :
    (∃ old ∈ rows, row = mergeInto key merge new old) ∨ row ∈ new ∧ key row ∉ rows.map key := by
  rcases List.mem_append.mp member with before | added
  · rcases List.mem_map.mp before with ⟨old, inside, equal⟩
    exact Or.inl ⟨old, inside, equal.symm⟩
  · have parts := List.mem_filter.mp added
    exact Or.inr ⟨parts.1, of_decide_eq_true parts.2⟩

variable (key merge new) in
theorem mem_upsertRows_of_old (member : row ∈ rows) :
    mergeInto key merge new row ∈ upsertRows key merge new rows :=
  List.mem_append_left _ (List.mem_map_of_mem member)

theorem mem_upsertRows_of_new (member : row ∈ new) (free : key row ∉ rows.map key) :
    row ∈ upsertRows key merge new rows :=
  List.mem_append_right _ (List.mem_filter.mpr ⟨member, decide_eq_true free⟩)

/-- What a second insertion leaves as it is. -/
theorem map_upsertRows_again {View : Type} {view : Row → View}
    (present : ∀ row ∈ new, key row ∈ rows.map key)
    (same : ∀ row ∈ rows, ∀ other ∈ new, key other = key row → view (merge row other) = view row) :
    (upsertRows key merge new rows).map view = rows.map view := by
  have added : (new.filter fun row => key row ∉ rows.map key) = [] := by
    apply List.filter_eq_nil_iff.mpr
    intro row member
    simpa using present row member
  rw [upsertRows, added, List.append_nil, List.map_map]
  apply List.map_congr_left
  intro row member
  rw [Function.comp_apply]
  rcases mergeInto_cases key merge new row with
    ⟨_, stays⟩ | ⟨other, inside, equal, merged⟩
  · rw [stays]
  · rw [merged, same row member other inside equal]

end Insert

end Rows

end GrafuxMcp
