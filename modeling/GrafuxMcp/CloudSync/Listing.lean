import GrafuxMcp.CloudSync.StaysInside

/-! # Complete listings

What `_list_recursive` finds of a tree of folders and objects. It asks for one page of each
folder. -/

namespace GrafuxMcp.CloudSync

open GrafuxMcp PosixPath Program

/-! ### Trees -/

/-- What lies in a folder, in the order in which the storage lists it. -/
inductive Forest
  | nil
  | object (name : String) (rest : Forest)
  | folder (name : String) (children rest : Forest)

/-- The way to an object: the place of each segment among the children of its folder, and
its name. -/
abbrev Trail := List (Nat × String)

namespace Forest

def items : Forest → List StorageItem
  | .nil => []
  | .object name rest => ⟨name, true⟩ :: rest.items
  | .folder name _ rest => ⟨name, false⟩ :: rest.items

def height : Forest → Nat
  | .nil => 0
  | .object _ rest => rest.height
  | .folder _ children rest => max (children.height + 1) rest.height

/-- The ways to the objects, where the first child has this place. -/
def trails : Nat → Forest → List Trail
  | _, .nil => []
  | place, .object name rest => [(place, name)] :: trails (place + 1) rest
  | place, .folder name children rest =>
      (trails 0 children).map (fun trail => (place, name) :: trail) ++ trails (place + 1) rest

end Forest

def pathOf (folder : String) (trail : Trail) : String :=
  trail.foldl (fun path step => s!"{path}/{step.2}") folder

/-- None of the segments starts with a dot. -/
def isVisible (trail : Trail) : Bool :=
  trail.all fun step => step.2.toList.head? != some '.'

/-! ### The storage -/

/-- The `limit` and `offset` of the requests. -/
def listLimit : Nat := 1000

def listOffset : Nat := 0

/-- What the storage answers to a request. -/
def page (offset limit : Nat) (items : List StorageItem) : List StorageItem :=
  (items.drop offset).take limit

/-- The storage lists the folders below a folder with these contents. -/
def ListsBelow (folders : String → Option (List StorageItem)) : String → Forest → Prop
  | _, .nil => True
  | folder, .object _ rest => ListsBelow folders folder rest
  | folder, .folder name children rest =>
      (folders s!"{folder}/{name}" = some (page listOffset listLimit children.items) ∧
        ListsBelow folders s!"{folder}/{name}" children) ∧
      ListsBelow folders folder rest

structure Lists (folders : String → Option (List StorageItem)) (folder : String)
    (forest : Forest) : Prop where
  here : folders folder = some (page listOffset listLimit forest.items)
  below : ListsBelow folders folder forest

/-- The storage answers every request. -/
def Answers (environment : Environment effects) (remote : Remote) : Prop :=
  ∀ history folder,
    environment history (.listFolder folder) = .returned (remote.folders folder)

/-- Where the recursion may go as deep as the tree, the paths of the visible objects are
returned, each once, and no others. -/
def ListsCompletely (environment : Environment effects) (folder : String) (forest : Forest) :
    Prop :=
  ∀ depth, forest.height < depth →
    ∃ paths, (listRecursive depth folder).result environment = .ok paths ∧
      paths.Perm (((forest.trails 0).filter isVisible).map (pathOf folder))

/-! ### What is found -/

/-- On the first page of its folder, and not passed over. -/
def isWalked (place : Nat) (item : StorageItem) : Bool :=
  place < listLimit && !isHidden item

def isListed (trail : Trail) : Bool :=
  trail.all fun step => step.1 < listLimit && step.2 != "" && step.2.toList.head? != some '.'

def listedPaths (folder : String) (place : Nat) (forest : Forest) : List String :=
  ((forest.trails place).filter isListed).map (pathOf folder)

theorem isListed_cons (place : Nat) (name : String) (hasId : Bool) (trail : Trail) :
    isListed ((place, name) :: trail) = (isWalked place ⟨name, hasId⟩ && isListed trail) := by
  simp [isListed, isWalked, isHidden, Bool.and_assoc, bne]

theorem listedPaths_object (folder name : String) (place : Nat) (rest : Forest) :
    listedPaths folder place (.object name rest) =
      (if isWalked place ⟨name, true⟩ then [s!"{folder}/{name}"] else []) ++
        listedPaths folder (place + 1) rest := by
  have single : isListed [(place, name)] = isWalked place ⟨name, true⟩ := by
    rw [isListed_cons place name true]
    exact Bool.and_true _
  rw [listedPaths, Forest.trails, List.filter_cons, single]
  split
  · rfl
  · rfl

theorem listedPaths_folder (folder name : String) (place : Nat) (children rest : Forest) :
    listedPaths folder place (.folder name children rest) =
      (if isWalked place ⟨name, false⟩ then listedPaths s!"{folder}/{name}" 0 children else []) ++
        listedPaths folder (place + 1) rest := by
  have under : ((children.trails 0).map fun trail => (place, name) :: trail).filter isListed =
      if isWalked place ⟨name, false⟩ then
        ((children.trails 0).filter isListed).map fun trail => (place, name) :: trail
      else [] := by
    rw [List.filter_map]
    have same : isListed ∘ (fun trail => (place, name) :: trail) =
        fun trail => isWalked place ⟨name, false⟩ && isListed trail := by
      funext trail
      exact isListed_cons place name false trail
    rw [same]
    split
    case isTrue walked => simp only [walked, Bool.true_and]
    case isFalse passed =>
      simp only [passed, Bool.false_and, List.filter_false, List.map_nil]
  rw [listedPaths, Forest.trails, List.filter_append, List.map_append, under]
  split
  · rw [List.map_map]
    rfl
  · rfl

theorem isWalked_of_le {place : Nat} (behind : listLimit ≤ place) (item : StorageItem) :
    isWalked place item = false := by
  have late : ¬ place < listLimit := by omega
  simp [isWalked, late]

/-- Behind the first page nothing is found. -/
theorem listedPaths_of_le {place : Nat} (behind : listLimit ≤ place) (folder : String)
    (forest : Forest) : listedPaths folder place forest = [] := by
  induction forest generalizing place with
  | nil => rfl
  | object name rest induction =>
      rw [listedPaths_object, induction (by omega), isWalked_of_le behind]
      rfl
  | folder name children rest _ induction =>
      rw [listedPaths_folder, induction (by omega), isWalked_of_le behind]
      rfl

/-- The loop over the rest of a page. -/
theorem listedItems_take {remote : Remote} {depth : Nat}
    (subfolders : ∀ folder forest, forest.height < depth → Lists remote.folders folder forest →
      remote.listed depth folder = .ok (listedPaths folder 0 forest))
    {folder : String} {forest : Forest} (low : forest.height ≤ depth)
    (below : ListsBelow remote.folders folder forest) (place : Nat) (paths : List String) :
    listedItems (remote.listed depth) folder (forest.items.take (listLimit - place)) paths =
      paths ++ listedPaths folder place forest := by
  induction forest generalizing place paths with
  | nil => simp [Forest.items, listedItems, listedPaths, Forest.trails]
  | object name rest induction =>
      by_cases first : place < listLimit
      · have more : listLimit - place = listLimit - (place + 1) + 1 := by omega
        have walked : isWalked place ⟨name, true⟩ = !isHidden ⟨name, true⟩ := by
          simp [isWalked, first]
        rw [more, Forest.items, List.take_succ_cons, listedItems, listedPaths_object, walked]
        have rest := induction (by simpa [Forest.height] using low) below (place + 1)
        cases hidden : isHidden ⟨name, true⟩ with
        | true => simpa using rest paths
        | false => simpa using rest (paths ++ [s!"{folder}/{name}"])
      · rw [Nat.sub_eq_zero_of_le (by omega), List.take_zero, listedPaths_of_le (by omega)]
        rw [listedItems, List.append_nil]
  | folder name children rest _ induction =>
      have heights : children.height + 1 ≤ depth ∧ rest.height ≤ depth := Nat.max_le.mp low
      by_cases first : place < listLimit
      · have more : listLimit - place = listLimit - (place + 1) + 1 := by omega
        have walked : isWalked place ⟨name, false⟩ = !isHidden ⟨name, false⟩ := by
          simp [isWalked, first]
        have listed : remote.listed depth s!"{folder}/{name}" =
            .ok (listedPaths s!"{folder}/{name}" 0 children) :=
          subfolders _ children heights.1 ⟨below.1.1, below.1.2⟩
        rw [more, Forest.items, List.take_succ_cons, listedItems, listedPaths_folder, walked]
        have rest := induction heights.2 below.2 (place + 1)
        cases hidden : isHidden ⟨name, false⟩ with
        | true => simpa using rest paths
        | false => simpa [listed] using rest (paths ++ listedPaths s!"{folder}/{name}" 0 children)
      · rw [Nat.sub_eq_zero_of_le (by omega), List.take_zero, listedPaths_of_le (by omega)]
        rw [listedItems, List.append_nil]

/-- The walk finds what lies on first pages and is not passed over. -/
theorem listed_eq {remote : Remote} {depth : Nat} {folder : String} {forest : Forest}
    (low : forest.height < depth) (lists : Lists remote.folders folder forest) :
    remote.listed depth folder = .ok (listedPaths folder 0 forest) := by
  induction depth generalizing folder forest with
  | zero => omega
  | succ depth induction =>
      have subfolders : ∀ folder forest, forest.height < depth →
          Lists remote.folders folder forest →
          remote.listed depth folder = .ok (listedPaths folder 0 forest) :=
        fun folder forest low lists => induction low lists
      have walked := listedItems_take subfolders (Nat.le_of_lt_succ low) lists.below 0 []
      rw [Remote.listed, lists.here]
      exact congrArg Except.ok walked

/-! ### Every run -/

/-- The storage answers the requests, whatever else happens. -/
def listing (remote : Remote) : Contract effects Unit where
  observe _ _ := ()
  assume _
    | ⟨.listFolder folder, outcome⟩ => outcome = .returned (remote.folders folder)
    | _ => True
  guarantee _ _ := True

theorem listing_lists (remote : Remote) : ListsFolders (listing remote) remote () where
  answers _ := rfl
  only _ _ assumed := assumed
  guaranteed _ := trivial
  unobserved _ := rfl

theorem result_listRecursive {environment : Environment effects} {remote : Remote}
    (answers : Answers environment remote) (depth : Nat) (folder : String) :
    (listRecursive depth folder).result environment = remote.listed depth folder := by
  have yields := yields_listRecursive (listing_lists remote) depth folder
  have meets := (yields fun result _ => result = remote.listed depth folder).mpr rfl
  have assumed : ∀ history op,
      (listing remote).assume (history.foldl (listing remote).observe ())
        ⟨op, environment history op⟩ := by
    intro history op
    cases op with
    | listFolder folder => exact answers history folder
    | _ => trivial
  exact (meets.sound environment (eachStep_trace assumed _)).2

/-- All visible objects are found just where none is passed over. -/
theorem perm_iff (folder : String) (trails : List Trail) :
    ((trails.filter isListed).map (pathOf folder)).Perm
        ((trails.filter isVisible).map (pathOf folder)) ↔
      ∀ trail ∈ trails, isVisible trail = true → isListed trail = true := by
  have visible : ∀ trail, isListed trail = true → isVisible trail = true := by
    intro trail listed
    simp only [isListed, isVisible, List.all_eq_true, Bool.and_eq_true] at listed ⊢
    exact fun step member => (listed step member).2
  have among : trails.filter isListed = (trails.filter isVisible).filter isListed := by
    rw [List.filter_filter]
    apply List.filter_congr
    intro trail _
    cases listed : isListed trail with
    | false => rfl
    | true => rw [visible trail listed, Bool.and_self]
  have all : (trails.filter isVisible).filter isListed = trails.filter isVisible ↔
      ∀ trail ∈ trails, isVisible trail = true → isListed trail = true := by
    rw [List.filter_eq_self]
    simp only [List.mem_filter, and_imp]
  rw [← all, among]
  constructor
  · intro perm
    have lengths := perm.length_eq
    rw [List.length_map, List.length_map] at lengths
    exact List.filter_sublist.eq_of_length lengths
  · intro same
    rw [same]

/-- The listing is complete just where every visible object lies on the first page of each
folder on its way, and no segment of its path is empty. -/
theorem lists_completely_iff {environment : Environment effects} {remote : Remote}
    (answers : Answers environment remote) {folder : String} {forest : Forest}
    (lists : Lists remote.folders folder forest) :
    ListsCompletely environment folder forest ↔
      ∀ trail ∈ forest.trails 0, isVisible trail = true →
        ∀ step ∈ trail, step.1 < listLimit ∧ step.2 ≠ "" := by
  have found : ListsCompletely environment folder forest ↔
      ∀ trail ∈ forest.trails 0, isVisible trail = true → isListed trail = true := by
    rw [← perm_iff folder]
    constructor
    · intro complete
      rcases complete (forest.height + 1) (Nat.lt_succ_self _) with ⟨paths, returned, perm⟩
      rw [result_listRecursive answers, listed_eq (Nat.lt_succ_self _) lists] at returned
      cases returned
      exact perm
    · intro perm depth deep
      refine ⟨_, ?_, perm⟩
      rw [result_listRecursive answers, listed_eq deep lists]
      rfl
  rw [found]
  apply forall_congr'
  intro trail
  apply imp_congr_right
  intro _
  apply imp_congr_right
  intro visible
  rw [isVisible, List.all_eq_true] at visible
  simp only [isListed, List.all_eq_true, Bool.and_eq_true, decide_eq_true_eq, bne_iff_ne, ne_eq]
  constructor
  · intro listed step member
    exact (listed step member).1
  · intro inside step member
    exact ⟨inside step member, by simpa using visible step member⟩

/-- A tool with a file, and a folder that the client does not show. -/
def toolForest : Forest :=
  .object "add.py" (.folder ".cache" (.object "add.pyc" .nil) .nil)

def toolFolder : String := "ann/demo/tools/add"

def toolListing : Remote where
  objects _ := none
  userIds _ _ := none
  folders path :=
    if path = toolFolder then some (page listOffset listLimit toolForest.items)
    else some [⟨"add.pyc", true⟩]

theorem lists_completely_tool : ListsCompletely (existing toolListing) toolFolder toolForest := by
  have answers : Answers (existing toolListing) toolListing := fun _ _ => rfl
  have apart : s!"{toolFolder}/.cache" ≠ toolFolder := by decide
  have lists : Lists toolListing.folders toolFolder toolForest := by
    constructor
    · simp only [toolListing, if_true]
    · have hidden : toolListing.folders s!"{toolFolder}/.cache" = some [⟨"add.pyc", true⟩] := by
        simp only [toolListing, apart, if_false]
      exact ⟨⟨hidden, trivial⟩, trivial⟩
  exact (lists_completely_iff answers lists).mpr (by decide)

/-- Objects with numbers for names. -/
def numbered : Nat → Nat → Forest
  | _, 0 => .nil
  | first, count + 1 => .object s!"{first}.py" (numbered (first + 1) count)

theorem listsBelow_numbered (folders : String → Option (List StorageItem)) (folder : String)
    (first count : Nat) : ListsBelow folders folder (numbered first count) := by
  induction count generalizing first with
  | zero => trivial
  | succ count induction => exact induction (first + 1)

theorem mem_trails_numbered {index count : Nat} (inside : index < count) (first place : Nat) :
    [(place + index, s!"{first + index}.py")] ∈ (numbered first count).trails place := by
  induction count generalizing first place index with
  | zero => omega
  | succ count induction =>
      cases index with
      | zero => exact List.mem_cons_self
      | succ index =>
          have later := induction (Nat.lt_of_succ_lt_succ inside) (first + 1) (place + 1)
          rw [Nat.add_right_comm place 1, Nat.add_right_comm first 1] at later
          exact List.mem_cons_of_mem _ later

def numberedListing (count : Nat) : Remote where
  objects _ := none
  userIds _ _ := none
  folders _ := some (page listOffset listLimit (numbered 0 count).items)

theorem lists_numbered (folder : String) (count : Nat) :
    Lists (numberedListing count).folders folder (numbered 0 count) :=
  ⟨rfl, listsBelow_numbered _ _ 0 count⟩

/-- The file number 1000 of a folder is not found. -/
theorem numbered_cut {count : Nat} (many : listLimit < count) (folder : String) :
    ¬ ListsCompletely (existing (numberedListing count)) folder (numbered 0 count) := by
  intro complete
  have answers : Answers (existing (numberedListing count)) (numberedListing count) :=
    fun _ _ => rfl
  rcases complete _ (Nat.lt_add_one _) with ⟨paths, returned, perm⟩
  rw [result_listRecursive answers, listed_eq (Nat.lt_add_one _) (lists_numbered folder count)]
    at returned
  cases returned
  have visible : isVisible [(0 + listLimit, s!"{0 + listLimit}.py")] = true := by decide
  have listed := (perm_iff folder _).mp perm _ (mem_trails_numbered many 0 0) visible
  have behind : listLimit ≤ 0 + listLimit := Nat.le_add_left _ 0
  rw [isListed_cons _ _ true, isWalked_of_le behind] at listed
  exact Bool.false_ne_true listed

theorem crowded_folder_cut :
    ¬ ∀ environment remote folder forest, Answers environment remote →
      Lists remote.folders folder forest → ListsCompletely environment folder forest := by
  intro claimed
  have many : listLimit < 1001 := Nat.lt_add_one 1000
  exact numbered_cut many toolFolder
    (claimed _ (numberedListing 1001) _ _ (fun _ _ => rfl) (lists_numbered toolFolder 1001))

end GrafuxMcp.CloudSync
