import Mathlib.Data.List.Infix

/-! # Paths of a file system

A path is a list of components below the root of the file system and may climb
with `..`; a location is what a path leads to. There are no symbolic links. -/

namespace GrafuxMcp.PosixPath

/-! ### Strings -/

/-- `string.split("/")`. -/
def split (string : String) : List String :=
  (string.toList.splitOn '/').map String.ofList

/-- `"/".join(components)`. -/
def join (components : List String) : String :=
  String.ofList (['/'].intercalate (components.map String.toList))

def contains (string part : String) : Bool :=
  part.toList <:+: string.toList

def isAbsolute (string : String) : Bool :=
  string.toList.head? == some '/'

/-- Empty components and `.` say nothing. -/
def components (string : String) : List String :=
  (split string).filter fun part => part != "" && part != "."

/-- `base / string`: an absolute string replaces the base. -/
def child (base : List String) (string : String) : List String :=
  if isAbsolute string then components string else base ++ components string

/-! ### Locations -/

abbrev Location := List String

/-- `..` climbs, but not above the root. -/
def enter (location : Location) (part : String) : Location :=
  if part = ".." then location.dropLast else location ++ [part]

def resolve (path : List String) : Location :=
  path.foldl enter []

/-- A path that never climbs. -/
def IsPlain (path : List String) : Prop :=
  ".." ∉ path

instance (path : List String) : Decidable (IsPlain path) :=
  inferInstanceAs (Decidable (".." ∉ path))

theorem foldl_enter_of_plain {path : List String} (plain : IsPlain path)
    (location : Location) : path.foldl enter location = location ++ path := by
  induction path generalizing location with
  | nil => simp
  | cons part path induction =>
      have parts : ".." ≠ part ∧ ".." ∉ path := by simpa [IsPlain] using plain
      have stays : enter location part = location ++ [part] := by
        simp [enter, Ne.symm parts.1]
      rw [List.foldl_cons, stays, induction parts.2, List.append_assoc]
      rfl

theorem resolve_of_plain {path : List String} (plain : IsPlain path) :
    resolve path = path := by
  rw [resolve, foldl_enter_of_plain plain, List.nil_append]

theorem resolve_append_of_plain {base path : List String} (plain : IsPlain path) :
    resolve (base ++ path) = resolve base ++ path := by
  rw [resolve, List.foldl_append, foldl_enter_of_plain plain, ← resolve]

/-! ### The way of a path -/

/-- The location is inside the tree or on the way to it. -/
def OnLine (tree location : Location) : Prop :=
  tree <+: location ∨ location <+: tree

/-- No part of the path leads beside the tree. -/
def StaysOn (tree : Location) (path : List String) : Prop :=
  ∀ front, front <+: path → OnLine tree (resolve front)

instance (tree location : Location) : Decidable (OnLine tree location) :=
  inferInstanceAs (Decidable (_ ∨ _))

instance (tree : Location) (path : List String) : Decidable (StaysOn tree path) :=
  decidable_of_iff (∀ front ∈ path.inits, OnLine tree (resolve front)) (by
    simp only [StaysOn, List.mem_inits])

theorem prefix_iff_of_dropLast {front path : List String} :
    front <+: path ↔ front <+: path.dropLast ∨ front = path := by
  constructor
  · intro isPrefix
    rcases List.eq_nil_or_concat path with rfl | ⟨path, last, rfl⟩
    · exact Or.inr (List.prefix_nil.mp isPrefix)
    · rw [List.concat_eq_append] at isPrefix ⊢
      rw [List.dropLast_concat]
      exact (List.prefix_concat_iff.mp isPrefix).symm
  · rintro (within | rfl)
    · exact within.trans (List.dropLast_prefix path)
    · exact List.prefix_rfl

/-- The parents of the path and the path itself. -/
theorem staysOn_iff {tree : Location} {path : List String} :
    StaysOn tree path ↔
      (∀ front ∈ path.dropLast.inits, OnLine tree (resolve front)) ∧
        OnLine tree (resolve path) := by
  constructor
  · intro stays
    constructor
    · intro front member
      have within := (List.mem_inits front path.dropLast).mp member
      exact stays front (within.trans (List.dropLast_prefix path))
    · exact stays path List.prefix_rfl
  · rintro ⟨parents, whole⟩ front isPrefix
    rcases prefix_iff_of_dropLast.mp isPrefix with within | rfl
    · exact parents front ((List.mem_inits front path.dropLast).mpr within)
    · exact whole

theorem mem_of_foldl_enter {path : List String} {start : Location} {index : Nat} {part : String}
    (found : (path.foldl enter start)[index]? = some part) :
    start[index]? = some part ∨ part ∈ path ∧ part ≠ ".." := by
  induction path generalizing start with
  | nil => exact Or.inl found
  | cons head path induction =>
      rcases induction found with early | later
      · unfold enter at early
        split at early
        · left
          rw [List.getElem?_dropLast] at early
          split at early
          · exact early
          · cases early
        case isFalse stays =>
          rcases Nat.lt_or_ge index start.length with before | after
          · left
            rwa [List.getElem?_append_left before] at early
          · right
            rw [List.getElem?_append_right after] at early
            have same := List.mem_singleton.mp (List.mem_of_getElem? early)
            rw [same]
            exact ⟨List.mem_cons_self, stays⟩
      · exact Or.inr ⟨List.mem_cons_of_mem _ later.1, later.2⟩

/-! ### Components that are followed by another -/

/-- Another component comes after this one. -/
def Followed (part : α) (path : List α) : Prop :=
  ∃ next, [part, next].Sublist path

theorem Followed.of_sublist {part : α} {path longer : List α} (followed : Followed part path)
    (sublist : path.Sublist longer) : Followed part longer := by
  obtain ⟨next, within⟩ := followed
  exact ⟨next, within.trans sublist⟩

theorem followed_cons {part head : α} {path : List α} :
    Followed part (head :: path) ↔ (part = head ∧ path ≠ []) ∨ Followed part path := by
  constructor
  · rintro ⟨next, sublist⟩
    cases sublist with
    | cons _ later => exact Or.inr ⟨next, later⟩
    | cons_cons _ later =>
        left
        refine ⟨rfl, ?_⟩
        rintro rfl
        cases later
  · rintro (⟨rfl, nonempty⟩ | followed)
    · cases path with
      | nil => exact absurd rfl nonempty
      | cons next path =>
          exact ⟨next, ((List.singleton_sublist.mpr List.mem_cons_self)).cons_cons part⟩
    · exact followed.of_sublist (List.sublist_cons_self head path)

/-- What a path leads below its start, except for the last part, are components
of the path. -/
theorem followed_of_foldl_enter {path : List String} {start : Location} {index : Nat}
    {part : String} (found : (path.foldl enter start)[index]? = some part)
    (notLast : index + 1 < (path.foldl enter start).length) :
    start[index]? = some part ∨ Followed part path := by
  induction path generalizing start with
  | nil => exact Or.inl found
  | cons head path induction =>
      rcases induction found notLast with early | later
      · unfold enter at early
        split at early
        · left
          rw [List.getElem?_dropLast] at early
          split at early
          · exact early
          · cases early
        · rcases Nat.lt_or_ge index start.length with before | after
          · left
            rwa [List.getElem?_append_left before] at early
          · right
            rw [List.getElem?_append_right after] at early
            have member := List.mem_of_getElem? early
            refine followed_cons.mpr (Or.inl ⟨List.mem_singleton.mp member, ?_⟩)
            rintro rfl
            have length : (enter start head).length ≤ start.length + 1 := by
              unfold enter
              split
              · rw [List.length_dropLast]
                omega
              · simp
            simp only [List.foldl_cons, List.foldl_nil] at notLast
            omega
      · exact Or.inr (later.of_sublist (List.sublist_cons_self head path))

/-! ### Splitting and joining -/

theorem not_mem_of_mem_splitOn {text piece : List Char} (member : piece ∈ text.splitOn '/') :
    '/' ∉ piece := by
  induction text generalizing piece with
  | nil =>
      rw [List.splitOn_nil, List.mem_singleton] at member
      simp [member]
  | cons letter text induction =>
      rw [List.splitOn_cons_eq_if_modifyHead] at member
      split at member
      · rcases List.mem_cons.mp member with rfl | later
        · simp
        · exact induction later
      case isFalse other =>
        obtain ⟨first, rest, pieces⟩ := List.exists_cons_of_ne_nil (List.splitOn_ne_nil '/' text)
        rw [pieces] at member induction
        rw [List.modifyHead_cons, List.mem_cons] at member
        rcases member with rfl | later
        · have clean := induction List.mem_cons_self
          have different : letter ≠ '/' := by simpa using other
          simp [clean, different.symm]
        · exact induction (List.mem_cons_of_mem _ later)

theorem join_split (string : String) : join (split string) = string := by
  simp [join, split, Function.comp_def]

theorem split_join {parts : List String} (nonempty : parts ≠ [])
    (clean : ∀ part ∈ parts, '/' ∉ part.toList) : split (join parts) = parts := by
  have pieces : (['/'].intercalate (parts.map String.toList)).splitOn '/' =
      parts.map String.toList := by
    apply List.splitOn_intercalate
    · intro piece member
      obtain ⟨part, inside, rfl⟩ := List.mem_map.mp member
      exact clean part inside
    · simpa using nonempty
  simp [join, split, pieces, Function.comp_def]

theorem not_mem_of_mem_split {string part : String} (member : part ∈ split string) :
    '/' ∉ part.toList := by
  obtain ⟨piece, inside, rfl⟩ := List.mem_map.mp member
  simpa using not_mem_of_mem_splitOn inside

theorem proper_of_mem_components {path part : String} (member : part ∈ components path) :
    part ≠ "" ∧ part ≠ "." ∧ '/' ∉ part.toList := by
  rw [components, List.mem_filter] at member
  have parts := member.2
  simp only [Bool.and_eq_true, bne_iff_ne] at parts
  exact ⟨parts.1, parts.2, not_mem_of_mem_split member.1⟩

theorem toList_join (parts : List String) :
    (join parts).toList = ['/'].intercalate (parts.map String.toList) := by
  rw [join, String.toList_ofList]

theorem toList_join_cons (first second : String) (rest : List String) :
    (join (first :: second :: rest)).toList = first.toList ++ '/' :: (join (second :: rest)).toList := by
  rw [toList_join, toList_join, List.map_cons, List.map_cons, List.intercalate_cons_cons,
    List.append_assoc]
  rfl

theorem join_singleton (part : String) : join [part] = part := by
  simp [join]

theorem components_join {parts : List String} (nonempty : parts ≠ [])
    (proper : ∀ part ∈ parts, part ≠ "" ∧ part ≠ "." ∧ '/' ∉ part.toList) :
    components (join parts) = parts := by
  rw [components, split_join nonempty fun part member => (proper part member).2.2,
    List.filter_eq_self]
  intro part member
  simp [(proper part member).1, (proper part member).2.1]

theorem isAbsolute_join {first : String} {rest : List String} (nonempty : first ≠ "")
    (clean : '/' ∉ first.toList) : isAbsolute (join (first :: rest)) = false := by
  cases letters : first.toList with
  | nil => exact absurd (String.toList_eq_nil_iff.mp letters) nonempty
  | cons letter others =>
      have different : letter ≠ '/' := by
        rintro rfl
        rw [letters] at clean
        exact clean List.mem_cons_self
      have head : (join (first :: rest)).toList.head? = some letter := by
        cases rest with
        | nil => rw [join_singleton, letters, List.head?_cons]
        | cons second rest => rw [toList_join_cons, letters, List.cons_append, List.head?_cons]
      rw [isAbsolute, head]
      simpa using different

/-- A relative path that is joined from its components. -/
theorem child_join {base parts : List String} (nonempty : parts ≠ [])
    (proper : ∀ part ∈ parts, part ≠ "" ∧ part ≠ "." ∧ '/' ∉ part.toList) :
    child base (join parts) = base ++ parts := by
  have relative : isAbsolute (join parts) = false := by
    cases parts with
    | nil => exact absurd rfl nonempty
    | cons first rest =>
        have head := proper first List.mem_cons_self
        exact isAbsolute_join head.1 head.2.2
  rw [child, relative, components_join nonempty proper]
  simp

/-- A piece between two others stands between two slashes. -/
theorem infix_intercalate {piece first : List Char} {pieces : List (List Char)}
    (followed : Followed piece pieces) :
    ('/' :: piece ++ ['/']) <:+: ['/'].intercalate (first :: pieces) := by
  induction pieces generalizing first with
  | nil =>
      obtain ⟨_, sublist⟩ := followed
      cases sublist
  | cons next pieces induction =>
      rw [List.intercalate_cons_cons]
      rcases followed_cons.mp followed with ⟨rfl, nonempty⟩ | later
      · rw [List.intercalate_cons_of_ne_nil nonempty]
        exact ⟨first, ['/'].intercalate pieces, by simp⟩
      · exact (induction later).trans (List.suffix_append _ _).isInfix

theorem contains_of_followed {string part first : String} {parts : List String}
    (pieces : split string = first :: parts) (followed : Followed part parts) :
    contains string ("/" ++ part ++ "/") = true := by
  have whole := congrArg String.toList (join_split string)
  rw [pieces] at whole
  obtain ⟨next, sublist⟩ := followed
  have mapped : Followed part.toList (parts.map String.toList) :=
    ⟨next.toList, by simpa using sublist.map String.toList⟩
  have isInfix : ('/' :: part.toList ++ ['/']) <:+:
      ['/'].intercalate (first.toList :: parts.map String.toList) := infix_intercalate mapped
  simp only [contains, decide_eq_true_eq]
  rw [← whole]
  simpa [join] using isInfix

end GrafuxMcp.PosixPath
