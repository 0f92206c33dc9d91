import GrafuxMcp.Foundation.PathMarkers
import GrafuxMcp.Runtime.ToolExecutor

/-! # Output files

`app/core/runtime/output_files.py`: the text files of the output ports and the images and
PDF files that they name. Each file should lie in `data/`. -/

namespace GrafuxMcp.OutputFiles

open GrafuxMcp PosixPath ToolExecutor

/-! ### Model -/

/-- What a directory can list. -/
structure IsName (name : String) : Prop where
  nonempty : name ≠ ""
  notDot : name ≠ "."
  notDotDot : name ≠ ".."
  clean : '/' ∉ name.toList

/-- The files as they are found; a look-up that raises gives nothing. -/
structure FileSystem where
  /-- `_PROJECT_ROOT`. -/
  root : List String
  plainRoot : IsPlain root
  pathExists : List String → Option Bool
  isDir : List String → Option Bool
  /-- `read_text(encoding="utf-8")`. -/
  readText : List String → Option String
  readBytes : List String → Option (List UInt8)
  /-- The sorted names that `*.txt` matches in a directory. -/
  textFiles : List String → List String
  areNames : ∀ path, ∀ name ∈ textFiles path, IsName name
  /-- `str.lower`. -/
  lower : String → String

inductive Content
  | text (text : String)
  | base64 (data : List UInt8)
  deriving DecidableEq

structure OutputFile where
  path : String
  content : Content
  /-- The file that was read. -/
  source : List String
  deriving DecidableEq

def imageExts : List String := [".png", ".jpg", ".jpeg", ".webp"]

def pdfExts : List String := [".pdf"]

/-- `_normalize_rel_path`. -/
def normalizeRelPath (rel : String) : String :=
  String.ofList ((slashes rel).toList.dropWhile fun letter => letter == '/')

/-- `text.strip()`. -/
def strip (text : String) : String :=
  String.ofList ((text.toList.dropWhile isSpace).reverse.dropWhile isSpace).reverse

/-- `Path(text).suffix`. -/
def suffix (text : String) : String :=
  let letters := (baseName text).toList.reverse
  let extension := letters.takeWhile fun letter => letter != '.'
  match letters.dropWhile fun letter => letter != '.' with
  | _ :: _ :: _ =>
      if extension.isEmpty then "" else String.ofList ('.' :: extension.reverse)
  | _ => ""

/-- `rel.rsplit("/", 1)[0]`. -/
def directoryPart (rel : String) : String :=
  match (split rel).dropLast with
  | [] => rel
  | parts => join parts

section Model

variable (files : FileSystem)

/-- The binary that a text file names. -/
def readNamed (rel : String) (directory : List String) (text : String) : List OutputFile :=
  let name := strip text
  let candidate := child directory name
  let ext := files.lower (suffix name)
  if ext ∈ imageExts ∨ ext ∈ pdfExts then
    match files.pathExists candidate with
    | some true =>
        match files.readBytes candidate with
        | some data => [⟨directoryPart rel ++ "/" ++ name, .base64 data, candidate⟩]
        | none => []
    | _ => []
  else []

/-- One turn of the loop, unless it raises. -/
def readPath : Value → Option (List OutputFile)
  | .str path =>
      let rel := normalizeRelPath path
      let file := child files.root rel
      match files.pathExists file with
      | none => none
      | some false => some []
      | some true =>
          match files.readText file with
          | none => some []
          | some text =>
              some (⟨rel, .text text, file⟩ :: readNamed files rel file.dropLast text)
  | _ => none

def readOutputFiles : List Value → Option (List OutputFile)
  | [] => some []
  | path :: paths => do
      let first ← readPath files path
      let rest ← readOutputFiles paths
      return first ++ rest

/-- The base that the first argument with `/inputs/` gives. -/
def toolBase (arguments : List (String × Value)) : Option String :=
  arguments.findSome? fun argument =>
    match argument.2 with
    | .str text =>
        (cutAt "/inputs/".toList (normalizeRelPath text).toList).map fun pieces =>
          String.ofList pieces.1
    | _ => none

def inferOutputPortPaths (arguments : List (String × Value)) : Option (List String) :=
  match toolBase arguments with
  | none => some []
  | some base =>
      if base = "" then some []
      else
        let outDir := child files.root base ++ ["outputs"]
        match files.isDir outDir with
        | none => none
        | some false => some []
        | some true =>
            some ((files.textFiles outDir).map fun name =>
              join (outDir.drop files.root.length ++ [name]))

end Model

section Confinement

variable (files : FileSystem)

/-! ### The property -/

/-- The path leads to something below `data/`. -/
def UnderData (path : List String) : Prop :=
  files.root ++ ["data"] <+: resolve path ∧ resolve path ≠ files.root ++ ["data"]

structure Confined (paths : List Value) (arguments : List (String × Value)) : Prop where
  read : ∀ found, readOutputFiles files paths = some found →
    ∀ file ∈ found, UnderData files file.source
  inferred : ∀ found, inferOutputPortPaths files arguments = some found →
    ∀ path ∈ found, UnderData files (child files.root path)

/-! ### The condition -/

/-- The path is not a text, or its existence cannot be told. -/
def Raises : Value → Prop
  | .str path => files.pathExists (child files.root (normalizeRelPath path)) = none
  | _ => True

def HasText (file : List String) (text : String) : Prop :=
  files.pathExists file = some true ∧ files.readText file = some text

/-- An image or a PDF file that can be read. -/
structure IsBinary (name : String) (file : List String) : Prop where
  ext : files.lower (suffix name) ∈ imageExts ∨ files.lower (suffix name) ∈ pdfExts
  pathExists : files.pathExists file = some true
  readable : (files.readBytes file).isSome = true

/-- If the path names a text file, this lies below `data/`, and so does the binary that
its text names. -/
def LeadsInside (path : String) : Prop :=
  let file := child files.root (normalizeRelPath path)
  ∀ text, HasText files file text → UnderData files file ∧
    (IsBinary files (strip text) (child file.dropLast (strip text)) →
      UnderData files (child file.dropLast (strip text)))

/-- If the arguments give a base whose `outputs` has text files, the base is `data/` or
lies below it. -/
def HasInnerBase (arguments : List (String × Value)) : Prop :=
  ∀ base, toolBase arguments = some base → base ≠ "" →
    files.isDir (child files.root base ++ ["outputs"]) = some true →
      files.textFiles (child files.root base ++ ["outputs"]) ≠ [] →
        files.root ++ ["data"] <+: resolve (child files.root base)

variable {files}

/-! ### Reading -/

theorem mem_readNamed {rel : String} {directory : List String} {text : String}
    {file : OutputFile} (member : file ∈ readNamed files rel directory text) :
    file.source = child directory (strip text) ∧
      IsBinary files (strip text) (child directory (strip text)) := by
  simp only [readNamed] at member
  split at member
  case isFalse => cases member
  case isTrue ext =>
    split at member
    case h_2 => cases member
    case h_1 present =>
      split at member
      case h_2 => cases member
      case h_1 data readable =>
        rw [List.mem_singleton] at member
        have binary : IsBinary files (strip text) (child directory (strip text)) :=
          ⟨ext, present, by rw [readable, Option.isSome_some]⟩
        simp only [member, binary, and_self]

theorem readNamed_of_isBinary (rel : String) {directory : List String} {text : String}
    (binary : IsBinary files (strip text) (child directory (strip text))) :
    ∃ file ∈ readNamed files rel directory text, file.source = child directory (strip text) := by
  rcases Option.isSome_iff_exists.mp binary.readable with ⟨data, readable⟩
  simp only [readNamed, if_pos binary.ext, binary.pathExists, readable, List.mem_singleton,
    exists_eq_left]

theorem readPath_eq_none {path : Value} : readPath files path = none ↔ Raises files path := by
  cases path with
  | str path =>
      simp only [readPath, Raises]
      cases files.pathExists (child files.root (normalizeRelPath path)) with
      | none => simp
      | some present =>
          cases present with
          | false => simp
          | true => cases files.readText (child files.root (normalizeRelPath path)) <;> simp
  | none | bool | int | list | dict | object => exact ⟨fun _ => trivial, fun _ => rfl⟩

/-- What one path gives lies below `data/` exactly if the path leads inside. -/
theorem readPath_inside {path : String} {found : List OutputFile}
    (read : readPath files (.str path) = some found) :
    (∀ file ∈ found, UnderData files file.source) ↔ LeadsInside files path := by
  simp only [readPath] at read
  simp only [LeadsInside, HasText]
  generalize child files.root (normalizeRelPath path) = file at read
  cases present : files.pathExists file with
  | none =>
      rw [present] at read
      cases read
  | some isPresent =>
      rw [present] at read
      cases isPresent with
      | false =>
          cases read
          simp
      | true =>
          cases content : files.readText file with
          | none =>
              rw [content] at read
              cases read
              simp
          | some text =>
              rw [content] at read
              cases read
              simp only [true_and, Option.some.injEq, forall_eq', List.forall_mem_cons]
              apply and_congr_right
              intro _
              constructor
              · intro named binary
                rcases readNamed_of_isBinary (normalizeRelPath path) binary with
                  ⟨entry, member, source⟩
                rw [← source]
                exact named entry member
              · intro inside entry member
                rcases mem_readNamed member with ⟨source, binary⟩
                rw [source]
                exact inside binary

theorem readOutputFiles_cons {path : Value} {paths : List Value} {found : List OutputFile} :
    readOutputFiles files (path :: paths) = some found ↔
      ∃ first rest, readPath files path = some first ∧ readOutputFiles files paths = some rest ∧
        found = first ++ rest := by
  rw [readOutputFiles]
  cases readPath files path <;> cases readOutputFiles files paths <;> simp [eq_comm]

theorem exists_readOutputFiles {paths : List Value}
    (answered : ∀ path ∈ paths, ¬ Raises files path) :
    ∃ found, readOutputFiles files paths = some found := by
  induction paths with
  | nil => exact ⟨[], rfl⟩
  | cons path paths induction =>
      have first := answered path List.mem_cons_self
      rw [← readPath_eq_none, ← ne_eq, Option.ne_none_iff_exists'] at first
      rcases first with ⟨found, read⟩
      rcases induction fun other member => answered other (List.mem_cons_of_mem _ member) with
        ⟨rest, reads⟩
      exact ⟨_, readOutputFiles_cons.mpr ⟨found, rest, read, reads, rfl⟩⟩

theorem not_raises_of_read {paths : List Value} {found : List OutputFile}
    (read : readOutputFiles files paths = some found) : ∀ path ∈ paths, ¬ Raises files path := by
  induction paths generalizing found with
  | nil =>
      intro path member
      cases member
  | cons path paths induction =>
      rcases readOutputFiles_cons.mp read with ⟨first, rest, head, tail, _⟩
      intro other member
      rcases List.mem_cons.mp member with same | later
      · rw [same, ← readPath_eq_none, head]
        simp
      · exact induction tail other later

theorem readOutputFiles_inside {paths : List Value} {found : List OutputFile}
    (read : readOutputFiles files paths = some found) :
    (∀ file ∈ found, UnderData files file.source) ↔
      ∀ path, .str path ∈ paths → LeadsInside files path := by
  induction paths generalizing found with
  | nil =>
      cases read
      simp
  | cons path paths induction =>
      rcases readOutputFiles_cons.mp read with ⟨first, rest, head, tail, rfl⟩
      have later := induction tail
      cases path with
      | str path =>
          rw [List.forall_mem_append, readPath_inside head, later]
          simp only [List.mem_cons, Value.str.injEq]
          constructor
          · rintro ⟨inside, others⟩ other (rfl | member)
            · exact inside
            · exact others other member
          · intro all
            exact ⟨all path (Or.inl rfl), fun other member => all other (Or.inr member)⟩
      | none | bool | int | list | dict | object => cases head

/-! ### Inferring -/

/-- The location of a file two levels below another one. -/
theorem underData_append {base : List String} {name : String} (named : IsName name) :
    UnderData files (base ++ ["outputs", name]) ↔ files.root ++ ["data"] <+: resolve base := by
  have plain : IsPlain ["outputs", name] := by
    have different := named.notDotDot
    simp [IsPlain, different.symm]
  have whole : resolve base ++ ["outputs", name] = (resolve base ++ ["outputs"]) ++ [name] := by
    simp
  rw [UnderData, resolve_append_of_plain plain, whole, List.prefix_concat_iff,
    List.prefix_concat_iff]
  constructor
  · rintro ⟨equal | equal | inside, different⟩
    · exact absurd equal.symm different
    · have last := congrArg List.getLast? equal
      simp at last
    · exact inside
  · intro inside
    refine ⟨Or.inr (Or.inr inside), ?_⟩
    intro equal
    have lengths := congrArg List.length equal
    have shorter := inside.length_le
    simp only [List.length_append, List.length_cons, List.length_nil] at lengths shorter
    omega

/-- An inferred path leads to the file that was listed. -/
theorem child_inferred {base name : String} (named : IsName name)
    (relative : isAbsolute base = false) :
    child files.root (join ((child files.root base ++ ["outputs"]).drop files.root.length ++
      [name])) = child files.root base ++ ["outputs", name] := by
  have outDir : child files.root base ++ ["outputs"] =
      files.root ++ (components base ++ ["outputs"]) := by
    simp [child, relative]
  have proper : ∀ part ∈ components base ++ ["outputs"] ++ [name],
      part ≠ "" ∧ part ≠ "." ∧ '/' ∉ part.toList := by
    intro part member
    rcases List.mem_append.mp member with member | last
    · rcases List.mem_append.mp member with inside | outputs
      · exact proper_of_mem_components inside
      · rw [List.mem_singleton.mp outputs]
        decide
    · rw [List.mem_singleton.mp last]
      exact ⟨named.nonempty, named.notDot, named.clean⟩
  rw [outDir, List.drop_left, child_join (by simp) proper]
  simp [child, relative]

theorem relative_toolBase {arguments : List (String × Value)} {base : String}
    (found : toolBase arguments = some base) : isAbsolute base = false := by
  rcases List.exists_of_findSome?_eq_some found with ⟨argument, _, given⟩
  split at given
  case h_2 => cases given
  case h_1 text same =>
    rcases Option.map_eq_some_iff.mp given with ⟨pieces, cut, rfl⟩
    have whole := eq_of_cutAt cut
    rw [normalizeRelPath, String.toList_ofList] at whole
    rw [isAbsolute, String.toList_ofList]
    cases before : pieces.1 with
    | nil => rfl
    | cons letter others =>
        have head := List.head?_dropWhile_not (fun letter => letter == '/') (slashes text).toList
        rw [whole, before] at head
        simpa using head

theorem inferred_inside {arguments : List (String × Value)} {found : List String}
    (inferred : inferOutputPortPaths files arguments = some found) :
    (∀ path ∈ found, UnderData files (child files.root path)) ↔ HasInnerBase files arguments := by
  rw [inferOutputPortPaths] at inferred
  rw [HasInnerBase]
  cases based : toolBase arguments with
  | none =>
      rw [based] at inferred
      cases inferred
      simp
  | some base =>
      simp only [based] at inferred
      simp only [Option.some.injEq, forall_eq']
      split at inferred
      case isTrue empty =>
        cases inferred
        simp [empty]
      case isFalse nonempty =>
        cases listed : files.isDir (child files.root base ++ ["outputs"]) with
        | none =>
            rw [listed] at inferred
            cases inferred
        | some isDir =>
            rw [listed] at inferred
            cases isDir with
            | false =>
                cases inferred
                simp
            | true =>
                cases inferred
                have each : ∀ name ∈ files.textFiles (child files.root base ++ ["outputs"]),
                    UnderData files (child files.root
                      (join ((child files.root base ++ ["outputs"]).drop files.root.length ++
                        [name]))) ↔ files.root ++ ["data"] <+: resolve (child files.root base) := by
                  intro name member
                  have named := files.areNames _ name member
                  rw [child_inferred named (relative_toolBase based), underData_append named]
                simp only [List.forall_mem_map, nonempty, not_false_eq_true, ne_eq, true_imp_iff]
                constructor
                · intro inside exists_
                  rcases List.exists_mem_of_ne_nil _ exists_ with ⟨name, member⟩
                  exact (each name member).mp (inside name member)
                · intro inside name member
                  exact (each name member).mpr (inside (List.ne_nil_of_mem member))

theorem hasInnerBase_of_raises {arguments : List (String × Value)}
    (raises : inferOutputPortPaths files arguments = none) : HasInnerBase files arguments := by
  intro base based nonempty listed
  rw [inferOutputPortPaths, based] at raises
  simp only [nonempty, if_false, listed] at raises
  cases raises

theorem output_reading_confined_iff (files : FileSystem) (paths : List Value)
    (arguments : List (String × Value)) :
    Confined files paths arguments ↔
      ((∃ path ∈ paths, Raises files path) ∨
        ∀ path, .str path ∈ paths → LeadsInside files path) ∧
      HasInnerBase files arguments := by
  constructor
  · intro confined
    constructor
    · by_cases raises : ∃ path ∈ paths, Raises files path
      · exact Or.inl raises
      · right
        have answered : ∀ path ∈ paths, ¬ Raises files path := by
          intro path member raised
          exact raises ⟨path, member, raised⟩
        rcases exists_readOutputFiles answered with ⟨found, read⟩
        exact (readOutputFiles_inside read).mp (confined.read found read)
    · cases inferred : inferOutputPortPaths files arguments with
      | none => exact hasInnerBase_of_raises inferred
      | some found => exact (inferred_inside inferred).mp (confined.inferred found inferred)
  · rintro ⟨given, base⟩
    constructor
    · intro found read
      rcases given with ⟨path, member, raised⟩ | inside
      · exact absurd raised (not_raises_of_read read path member)
      · exact (readOutputFiles_inside read).mpr inside
    · intro found inferred
      exact (inferred_inside inferred).mpr base

end Confinement

/-- A repository with a file `.env` beside `data/`. -/
def exampleFiles : FileSystem where
  root := ["srv"]
  plainRoot := by decide
  pathExists path := some (path == ["srv", "data", "..", ".env"])
  isDir _ := some false
  readText _ := some "SECRET_KEY=1"
  readBytes _ := none
  textFiles _ := []
  areNames _ _ := nofun
  lower text := text

theorem parent_of_data_read : ¬ ∀ files paths arguments, Confined files paths arguments := by
  intro claimed
  have confined := claimed exampleFiles [.str "data/../.env"] []
  have inside := confined.read [⟨"data/../.env", .text "SECRET_KEY=1",
    ["srv", "data", "..", ".env"]⟩] (by decide +kernel) _ List.mem_cons_self
  have within := inside.1
  revert within
  decide

end GrafuxMcp.OutputFiles
