import GrafuxMcp.Foundation.OrderedDict
import GrafuxMcp.Foundation.StatefulPrograms
import GrafuxMcp.Runtime.Exceptions

/-! # Plugin loader

The registries of `app/core/runtime/plugin_loader.py` and the walk over `tools/` and
`data/` that fills them. What the registries have taken stays when an exception
leaves the walk. -/

namespace GrafuxMcp.PluginLoader

open GrafuxMcp Stateful

/-- The names from the root of the repository down. -/
abbrev Path := List String

/-- The identity of a Python function. -/
abbrev Func := Nat

/-! ### Registries -/

structure Owner where
  username : Option String := none
  project : Option String := none
  category : Option String := none
  deriving DecidableEq, Repr

structure Tool extends Owner where
  func : Func
  name : String
  description : String
  inputSchema : Value

structure Resource where
  uri : String
  name : String
  description : String := ""
  mimeType : String := "text/plain"
  content : String := ""

structure Prompt where
  func : Func
  description : String
  arguments : List Value := []

structure PluginError where
  file : String
  error : String
  deriving DecidableEq, Repr

structure Registries where
  tools : OrderedDict String Tool := .empty
  nameIndex : OrderedDict String (List String) := .empty
  resources : OrderedDict String Resource := .empty
  prompts : OrderedDict String Prompt := .empty
  pluginErrors : List PluginError := []
  pluginsLoaded : Bool := false

instance : Inhabited Registries := ⟨{}⟩

abbrev Load := ExceptT Exc (StateM Registries)

/-! ### Registration -/

/-- Neither `None` nor empty. -/
def truthy (text : Option String) : Option String :=
  text.filter fun text => !text.isEmpty

def Owner.key (owner : Owner) (name : String) : String :=
  match truthy owner.username, truthy owner.project, truthy owner.category with
  | some username, some project, some category =>
      username ++ "/" ++ project ++ "/" ++ category ++ "/" ++ name
  | some username, some project, none => username ++ "/" ++ project ++ "/" ++ name
  | _, _, _ => name

def Tool.key (tool : Tool) : String :=
  tool.toOwner.key tool.name

namespace Registries

variable (registries : Registries)

def registerTool (tool : Tool) : Registries :=
  let keys := (registries.nameIndex.get tool.name).getD []
  { registries with
    tools := registries.tools.set tool.key tool
    nameIndex :=
      if tool.key ∈ keys then registries.nameIndex
      else registries.nameIndex.set tool.name (keys ++ [tool.key]) }

def registerResource (resource : Resource) : Registries :=
  { registries with resources := registries.resources.set resource.uri resource }

def registerPrompt (name : String) (prompt : Prompt) : Registries :=
  { registries with prompts := registries.prompts.set name prompt }

def addError (error : PluginError) : Registries :=
  { registries with pluginErrors := registries.pluginErrors ++ [error] }

end Registries

/-- A call of one of the functions that the loader puts into a plugin module. -/
inductive Registration where
  | tool (tool : Tool)
  | resource (resource : Resource)
  | prompt (name : String) (prompt : Prompt)

/-- What the body of a module does: its registrations, and what it raises. -/
structure Execution where
  registrations : List Registration := []
  raised : Option Exc := none

/-! ### The surroundings of the walk -/

/-- The files and the interpreter as the walk finds them. An error of the system is
an `OSError`. `compile` gives the exception that compiling a source raises. -/
structure Host where
  root : String := "/app"
  pathExists : Path → Except String Bool
  isDir : Path → Except String Bool
  iterdir : Path → Except String (List String)
  mkdir : Path → Except String Unit
  readBytes : Path → Except String ByteArray
  compile : String → Option Exc
  execModule : Path → Execution

namespace Host

variable (host : Host)

def str (path : Path) : String :=
  "/".intercalate (host.root :: path)

/-- The directories among the names, in the order of the listing. -/
def visible (parent : Path) : List String → Except String (List String)
  | [] => return []
  | name :: names => do
      let isDir ← host.isDir (parent ++ [name])
      let rest ← visible parent names
      return if isDir && !name.startsWith "." then name :: rest else rest

/-- `[d for d in parent.iterdir() if d.is_dir() and not d.name.startswith(".")]` -/
def directories (parent : Path) : Except String (List String) := do
  host.visible parent (← host.iterdir parent)

/-- The `.py` files to load; `glob` passes over a directory that cannot be listed. -/
def pluginNames (base : Path) : List String :=
  let names := (host.iterdir base).toOption.getD []
  (names.filter fun name => name.endsWith ".py").filter fun name => !name.startsWith "_"

end Host

def toolsRoot : Path := ["tools"]

def dataRoot : Path := ["data"]

section Loader

variable (host : Host)

def osCall {α : Type} (call : Except String α) : Load α :=
  match call with
  | .ok value => pure value
  | .error message => throw ⟨.OSError, message⟩

def readText (file : Path) : Load String := do
  let bytes ← osCall (host.readBytes file)
  match String.fromUTF8? bytes with
  | some source => pure source
  | none => throw ⟨.UnicodeDecodeError, "'utf-8' codec can't decode"⟩

def compile (source : String) : Load Unit :=
  match host.compile source with
  | none => pure ()
  | some exc => throw exc

/-- The owner of a tool is that of its directory, when this has a full one. -/
def Owner.own (owner : Owner) (tool : Tool) : Tool :=
  if (truthy owner.username).isSome && (truthy owner.project).isSome &&
      (truthy owner.category).isSome then
    { tool with toOwner := owner }
  else tool

def register (owner : Owner) (registries : Registries) : Registration → Registries
  | .tool tool => registries.registerTool (owner.own tool)
  | .resource resource => registries.registerResource resource
  | .prompt name prompt => registries.registerPrompt name prompt

def execModule (owner : Owner) (file : Path) : Load Unit := do
  modify fun registries =>
    (host.execModule file).registrations.foldl (register owner) registries
  match (host.execModule file).raised with
  | none => pure ()
  | some exc => throw exc

def recordError (file : Path) (exc : Exc) : Load Unit :=
  modify fun registries => registries.addError ⟨host.str file, exc.message⟩

/-- The first `try` of the loop of `_load_directory`. -/
def checkSource (file : Path) : Load Bool :=
  tryCatch
    (do
      let source ← readText host file
      compile host source
      return true)
    fun exc => do
      if exc.isinstance .SyntaxError then
        recordError host file exc
        return false
      else throw exc

/-- The second one. -/
def runModule (owner : Owner) (file : Path) : Load Unit :=
  tryCatch (execModule host owner file) fun exc =>
    if exc.isException then recordError host file exc else throw exc

def loadFile (owner : Owner) (file : Path) : Load Unit := do
  if ← checkSource host file then
    runModule host owner file

def loadDirectory (base : Path) (owner : Owner) : Load Unit :=
  (host.pluginNames base).forM fun name => loadFile host owner (base ++ [name])

/-- The loop over the directories of `parent`: each name is examined when its turn
comes. -/
def forDirectories (parent : Path) (body : String → Load Unit) : Load Unit := do
  let names ← osCall (host.iterdir parent)
  names.forM fun name => do
    let isDir ← osCall (host.isDir (parent ++ [name]))
    if isDir && !name.startsWith "." then
      body name

def loadProject (username project : String) : Load Unit := do
  let tools := dataRoot ++ [username, project, "tools"]
  if ← osCall (host.pathExists tools) then
    forDirectories host tools fun category =>
      forDirectories host (tools ++ [category]) fun tool => do
        let references := tools ++ [category, tool, "references"]
        if ← osCall (host.pathExists references) then
          loadDirectory host references ⟨username, project, category⟩

/-- The directories of the users; a failure to list them is logged. -/
def userDirectories : Load (Option (List String)) :=
  tryCatch (some <$> osCall (host.directories dataRoot)) fun exc =>
    if exc.isException then return none else throw exc

def loadSystemTools : Load Unit := do
  if ← osCall (host.pathExists toolsRoot) then
    loadDirectory host toolsRoot {}

def makeDataRoot : Load Unit := do
  if !(← osCall (host.pathExists dataRoot)) then
    osCall (host.mkdir dataRoot)

def loadUserTools : Load Unit := do
  match ← userDirectories host with
  | none => pure ()
  | some users =>
      users.forM fun username =>
        forDirectories host (dataRoot ++ [username]) (loadProject host username)

def loadPlugins : Load Unit := do
  loadSystemTools host
  makeDataRoot host
  loadUserTools host

/-- The sizes of the registries. -/
structure Counts where
  tools : Nat
  resources : Nat
  prompts : Nat
  errors : Nat
  deriving DecidableEq, Repr

def Registries.counts (registries : Registries) : Counts where
  tools := registries.tools.items.length
  resources := registries.resources.items.length
  prompts := registries.prompts.items.length
  errors := registries.pluginErrors.length

/-- `host` is what the purge of the bytecode directories leaves. -/
def reloadPlugins : Load Counts := do
  modify fun _ => {}
  loadPlugins host
  modify fun registries => { registries with pluginsLoaded := true }
  return (← get).counts

end Loader

end GrafuxMcp.PluginLoader
