import GrafuxMcp.Foundation.PosixPath

/-! # Markers in paths

A path that is cut at the first `/marker/` of its text is cut at the first segment of
that name that has a segment before and one after it. -/

namespace GrafuxMcp.PosixPath

/-- The text before and behind the first place where the marker stands. -/
def cutAt (marker : List Char) : List Char → Option (List Char × List Char)
  | [] => if marker.isEmpty then some ([], []) else none
  | letter :: text =>
      if marker.isPrefixOf (letter :: text) then
        some ([], (letter :: text).drop marker.length)
      else (cutAt marker text).map fun pieces => (letter :: pieces.1, pieces.2)

/-- The segments before and behind the first one of this name, not counting the ends. -/
def cutSegments (marker : String) : List String → Option (List String × List String)
  | first :: second :: third :: rest =>
      if second = marker then some ([first], third :: rest)
      else (cutSegments marker (second :: third :: rest)).map fun pieces =>
        (first :: pieces.1, pieces.2)
  | _ => none

theorem exists_cons_of_cutSegments {marker : String} {parts : List String}
    {pieces : List String × List String} (cut : cutSegments marker parts = some pieces) :
    ∃ head before, pieces.1 = head :: before := by
  rw [cutSegments.eq_def] at cut
  split at cut
  case h_1 first second third rest =>
    split at cut
    · cases cut
      exact ⟨first, [], rfl⟩
    · rcases Option.map_eq_some_iff.mp cut with ⟨inner, _, rfl⟩
      exact ⟨first, inner.1, rfl⟩
  case h_2 => cases cut

/-! ### Text -/

theorem eq_of_cutAt {marker text : List Char} {pieces : List Char × List Char}
    (cut : cutAt marker text = some pieces) : text = pieces.1 ++ marker ++ pieces.2 := by
  induction text generalizing pieces with
  | nil =>
      rw [cutAt] at cut
      split at cut
      case isTrue empty =>
        cases cut
        simpa using empty
      case isFalse => cases cut
  | cons letter text induction =>
      rw [cutAt] at cut
      split at cut
      case isTrue begins =>
        cases cut
        have isPrefix := List.isPrefixOf_iff_prefix.mp begins
        exact (List.prefix_iff_eq_append.mp isPrefix).symm
      case isFalse =>
        rcases Option.map_eq_some_iff.mp cut with ⟨inner, found, rfl⟩
        rw [induction found]
        rfl

theorem cutAt_of_notMem {letter : Char} {marker text : List Char} (clean : letter ∉ text) :
    cutAt (letter :: marker) text = none := by
  induction text with
  | nil => rfl
  | cons first text induction =>
      have parts : letter ≠ first ∧ letter ∉ text := by simpa using clean
      have apart : (letter :: marker).isPrefixOf (first :: text) = false := by
        simp [List.isPrefixOf, parts.1]
      rw [cutAt, apart, induction parts.2]
      rfl

/-- The marker cannot begin before its first letter does. -/
theorem cutAt_append {letter : Char} {marker piece : List Char} (clean : letter ∉ piece)
    (text : List Char) :
    cutAt (letter :: marker) (piece ++ letter :: text) =
      if marker.isPrefixOf text then some (piece, text.drop marker.length)
      else (cutAt (letter :: marker) text).map fun pieces =>
        (piece ++ letter :: pieces.1, pieces.2) := by
  induction piece with
  | nil => simp [cutAt, List.isPrefixOf]
  | cons first piece induction =>
      have parts : letter ≠ first ∧ letter ∉ piece := by simpa using clean
      have apart : (letter :: marker).isPrefixOf (first :: (piece ++ letter :: text)) = false := by
        simp [List.isPrefixOf, parts.1]
      rw [List.cons_append, cutAt, apart, induction parts.2]
      simp only [Bool.false_eq_true, if_false]
      split
      · rfl
      · cases cutAt (letter :: marker) text <;> rfl

theorem isPrefixOf_append {letter : Char} {marker piece : List Char} (clean : letter ∉ marker)
    (clean' : letter ∉ piece) (text : List Char) :
    (marker ++ [letter]).isPrefixOf (piece ++ letter :: text) = decide (piece = marker) := by
  induction marker generalizing piece with
  | nil =>
      cases piece with
      | nil => simp [List.isPrefixOf]
      | cons first piece =>
          have parts : letter ≠ first ∧ letter ∉ piece := by simpa using clean'
          simp [List.isPrefixOf, parts.1]
  | cons wanted marker induction =>
      have parts : letter ≠ wanted ∧ letter ∉ marker := by simpa using clean
      cases piece with
      | nil => simp [List.isPrefixOf, parts.1.symm]
      | cons first piece =>
          have parts' : letter ≠ first ∧ letter ∉ piece := by simpa using clean'
          have rest := induction parts.2 parts'.2
          rw [List.cons_append, List.cons_append, List.isPrefixOf, rest]
          by_cases same : wanted = first
          · simp [same]
          · have different : first ≠ wanted := fun equal => same equal.symm
            simp [same, different]

theorem isPrefixOf_of_notMem {letter : Char} {marker text : List Char} (clean : letter ∉ text) :
    (marker ++ [letter]).isPrefixOf text = false := by
  rw [Bool.eq_false_iff]
  intro begins
  have isPrefix := List.isPrefixOf_iff_prefix.mp begins
  exact clean (isPrefix.subset (by simp))

/-! ### Segments -/

theorem join_cons (first second : String) (rest : List String) :
    join (first :: second :: rest) = first ++ "/" ++ join (second :: rest) := by
  apply String.toList_injective
  rw [toList_join_cons]
  simp

theorem cutAt_join {marker : String} (plain : '/' ∉ marker.toList) {parts : List String}
    (clean : ∀ part ∈ parts, '/' ∉ part.toList) :
    cutAt ('/' :: (marker.toList ++ ['/'])) (join parts).toList =
      (cutSegments marker parts).map fun pieces =>
        ((join pieces.1).toList, (join pieces.2).toList) := by
  induction parts with
  | nil => rfl
  | cons first parts induction =>
      have plainFirst := clean first List.mem_cons_self
      have later := induction fun part member => clean part (List.mem_cons_of_mem _ member)
      cases parts with
      | nil =>
          rw [join_singleton, cutAt_of_notMem plainFirst]
          rfl
      | cons second parts =>
          have plainSecond := clean second (List.mem_cons_of_mem _ List.mem_cons_self)
          rw [toList_join_cons, cutAt_append plainFirst, later]
          cases parts with
          | nil =>
              rw [join_singleton, isPrefixOf_of_notMem plainSecond]
              rfl
          | cons third parts =>
              rw [toList_join_cons, isPrefixOf_append plain plainSecond, cutSegments]
              by_cases same : second = marker
              · rw [if_pos same, same]
                simp [join_singleton]
              · have different : ¬ second.toList = marker.toList :=
                  fun equal => same (String.toList_injective equal)
                rw [if_neg same]
                simp only [different, decide_false, Bool.false_eq_true, if_false]
                cases cut : cutSegments marker (second :: third :: parts) with
                | none => rfl
                | some pieces =>
                    rcases exists_cons_of_cutSegments cut with ⟨head, before, first_⟩
                    rw [Option.map_some, Option.map_some, Option.map_some, Option.map_some, first_,
                      toList_join_cons]

end GrafuxMcp.PosixPath
