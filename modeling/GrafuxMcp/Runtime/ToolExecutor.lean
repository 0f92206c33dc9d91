import GrafuxMcp.Foundation.PosixPath
import GrafuxMcp.Runtime.PluginLoader

/-! # Tool executor

`call_tool_direct` of `app/core/runtime/tool_executor.py`: how it finds a tool, loads
the code that is edited live, runs it and shapes what comes out. The exceptions are
those of class `Exception`. -/

namespace GrafuxMcp.ToolExecutor

open GrafuxMcp PosixPath PluginLoader

/-! ### Looking a tool up -/

/-- The caller's username, project and category. -/
abbrev Caller := Owner

/-- The username and the project, if neither is missing or empty. -/
def tenant (owner : Owner) : Option (String × String) :=
  match truthy owner.username, truthy owner.project with
  | some username, some project => some (username, project)
  | _, _ => none

def candidates (caller : Caller) (toolName : String) : List String :=
  match tenant caller with
  | none => []
  | some (username, project) =>
      let plain := username ++ "/" ++ project ++ "/" ++ toolName
      match truthy caller.category with
      | some category => [username ++ "/" ++ project ++ "/" ++ category ++ "/" ++ toolName, plain]
      | none => [plain]

/-- The tests on a tool that the display-name index gives. -/
def admits (caller : Caller) (info : Tool) : Bool :=
  match tenant caller with
  | none => true
  | some (username, project) =>
      info.username == some username && info.project == some project &&
        match truthy caller.category with
        | some category => info.category == some category
        | none => true

section Lookup

variable (registries : Registries) (toolName : String) (caller : Caller)

def lookUp (key : String) : Option (String × Tool) :=
  (registries.tools.get key).map fun info => (key, info)

/-- The branch of the display-name index. -/
def byName : Option (String × Tool) :=
  ((registries.nameIndex.get toolName).getD []).findSome? fun key =>
    (lookUp registries key).filter fun found => admits caller found.2

def resolve : Option (String × Tool) :=
  match (candidates caller toolName).findSome? (lookUp registries) with
  | some found => some found
  | none =>
      match lookUp registries toolName with
      | some found => some found
      | none => byName registries toolName caller

/-- An empty key counts as none. -/
def found : Option Tool :=
  match resolve registries toolName caller with
  | some (key, info) => if key = "" then none else some info
  | none => none

end Lookup

/-! ### Exceptions and warnings -/

/-- The attributes of a `SyntaxError`. -/
structure SyntaxDetails where
  msg : Value
  filename : Value
  lineno : Value
  offset : Value
  text : Value

structure ToolException where
  /-- `type(exc).__name__`. -/
  name : String
  /-- `str(exc)`, unless it raises. -/
  str : Option String
  /-- `traceback.format_exc()`, unless it raises. -/
  traceback : Option String
  /-- For a `SyntaxError`. -/
  details : Option SyntaxDetails := none

structure PyWarning where
  filename : Value
  lineno : Value
  category : String
  /-- Its category is a `DeprecationWarning` or a `PendingDeprecationWarning`. -/
  isDeprecation : Bool
  message : Value

/-- The code that was run. -/
inductive Code
  | function (tool : Tool)
  | source (file : Location)

/-- How a part of a call ends, what it warned of, and what it ran. -/
structure Ran (α : Type) where
  result : Except ToolException α
  warnings : List PyWarning := []
  executed : List Code := []

namespace Ran

variable {α β : Type}

def ofExcept (result : Except ToolException α) : Ran α :=
  { result }

def bind (first : Ran α) (next : α → Ran β) : Ran β :=
  match first.result with
  | .error exc => { result := .error exc, warnings := first.warnings, executed := first.executed }
  | .ok value =>
      { result := (next value).result
        warnings := first.warnings ++ (next value).warnings
        executed := first.executed ++ (next value).executed }

instance : Monad Ran where
  pure value := ofExcept (.ok value)
  bind := bind

end Ran

/-- A `pathlib.Path`. -/
structure PyPath where
  isAbsolute : Bool
  components : List String
  deriving DecidableEq, Repr

/-- The interpreter and the file system. -/
structure Host where
  /-- `str(value)`. -/
  str : Value → Except ToolException String
  /-- `str.lower`. -/
  lower : String → String
  /-- `bool(value)` for an object of another class. -/
  isTruthy : Nat → Except ToolException Bool
  /-- The number that such an object is, in arithmetic. -/
  number : Nat → Option Int
  /-- The path that such an object is. -/
  fspath : Nat → Option String
  /-- `value.rstrip()`. -/
  rstrip : Nat → Option Value
  /-- Its entries under strings, if it is a dictionary (of a subclass, or with other keys). -/
  entries : Nat → Except ToolException (List (String × Value))
  /-- `value["warnings"] = ...`. -/
  setItem : Nat → Except ToolException Unit
  /-- `value.setdefault("diagnostics", {})["warnings"] = ...`. -/
  setWarnings : Nat → Except ToolException Unit
  /-- `bool(func)`. -/
  isTrue : Func → Bool
  /-- There is room for a string of so many blanks. -/
  hasRoom : Int → Bool
  /-- The directory of the repository. -/
  root : List String
  /-- `candidate.resolve()`, or the candidate if that raises. -/
  resolve : PyPath → Location
  /-- `candidate.exists() and candidate.is_file()`. -/
  isFile : Location → Except ToolException Bool
  /-- Reads the source and compiles it. -/
  compile : Location → Ran Unit
  /-- Runs the source; the function that it has registered, if that can be called. -/
  exec : Location → Ran (Option Func)
  call : Func → Value → Ran Value

/-! ### Strings -/

/-- What `str.split()` and `str.strip()` take for white space. -/
def isSpace (letter : Char) : Bool :=
  let code := letter.toNat
  (9 ≤ code && code ≤ 13) || (28 ≤ code && code ≤ 32) || code == 0x85 || code == 0xA0 ||
    code == 0x1680 || (0x2000 ≤ code && code ≤ 0x200A) || code == 0x2028 || code == 0x2029 ||
    code == 0x202F || code == 0x205F || code == 0x3000

/-- `text.split()`. -/
def words (text : String) : List String :=
  ((text.toList.splitOnP isSpace).filter fun word => !word.isEmpty).map String.ofList

/-- `text.split("'")`. -/
def splitQuotes (text : String) : List String :=
  (text.toList.splitOn '\'').map String.ofList

/-- `text.replace("\\", "/")`. -/
def slashes (text : String) : String :=
  text.map fun letter => if letter = '\\' then '/' else letter

/-- `Path(text).name`. -/
def baseName (text : String) : String :=
  (components text).getLast?.getD ""

section Execution

variable (host : Host)

/-! ### Editable code -/

def typeError (message : String) : ToolException :=
  { name := "TypeError", str := some message, traceback := some message }

def valueError (message : String) : ToolException :=
  { name := "ValueError", str := some message, traceback := some message }

/-- `Path(raw_path.replace("\\", "/"))`, below the repository if it is one of `data/`. -/
def editablePath (raw : String) : PyPath :=
  let text := slashes raw
  let parts := components text
  if isAbsolute text then ⟨true, parts⟩
  else if parts.head? = some "data" ∧ 2 ≤ parts.length then ⟨true, host.root ++ parts⟩
  else ⟨false, parts⟩

/-- `arguments.get("code")`, if the arguments are a dictionary. -/
def codeArgument : Value → Option String
  | .dict items =>
      match items.lookup "code" with
      | some (.str raw) => if raw.toList.all isSpace then none else some raw
      | _ => none
  | _ => none

def resolveEditablePath (arguments : Value) : Ran (Option Location) :=
  match codeArgument arguments with
  | none => return none
  | some raw =>
      let file := host.resolve (editablePath host raw)
      match host.isFile file with
      | .error exc => .ofExcept (.error exc)
      | .ok isFile => return if isFile then some file else none

def notMcpFormat : ToolException :=
  valueError ("Tool code is not in the required MCP format: it must define a function " ++
    "decorated with @register_tool(name=..., description=..., input_schema=...). " ++
    "Regenerate the tool to produce a correctly-formatted file.")

def execSource (file : Location) : Ran (Option Func) :=
  let ran := host.exec file
  { ran with executed := [.source file] }

def loadSource (file : Location) : Ran Func := do
  host.compile file
  match ← execSource host file with
  | some func => return func
  | none => .ofExcept (.error notMcpFormat)

def loadEditableFunc (arguments : Value) : Ran (Option Func) := do
  match ← resolveEditablePath host arguments with
  | none => return none
  | some file => some <$> loadSource host file

/-! ### What comes out -/

/-- The entries of a dictionary, none for anything else. -/
def entries : Value → Except ToolException (List (String × Value))
  | .dict items => .ok items
  | .object identity => host.entries identity
  | _ => .ok []

def hasContent (value : Value) : Except ToolException Bool := do
  let items ← entries host value
  return (items.lookup "content").isSome

/-- Anything but a dictionary with `content` becomes its text. -/
def wrap (result : Value) : Except ToolException Value := do
  if ← hasContent host result then return result
  else return toolText (← host.str result)

def Value.isTruthy : Value → Except ToolException Bool
  | .none => .ok false
  | .bool value => .ok value
  | .int value => .ok (value != 0)
  | .str value => .ok (!value.isEmpty)
  | .list items => .ok (!items.isEmpty)
  | .dict items => .ok (!items.isEmpty)
  | .object identity => host.isTruthy identity

/-- `Path(value)`. -/
def pathText : Value → Except ToolException String
  | .str text => .ok text
  | .object identity =>
      match host.fspath identity with
      | some text => .ok text
      | none => .error (typeError "expected str, bytes or os.PathLike object")
  | _ => .error (typeError "expected str, bytes or os.PathLike object")

/-- `Path(value).name if value else "code"`. -/
def fileLabel (value : Value) : Except ToolException String := do
  if ← Value.isTruthy host value then return baseName (← pathText host value)
  else return "code"

def describe (warning : PyWarning) : Except ToolException String := do
  let file ← fileLabel host warning.filename
  let line ← host.str warning.lineno
  let message ← host.str warning.message
  return file ++ ":" ++ line ++ ": " ++ warning.category ++ ": " ++ message

/-- `items[key] = value`. -/
def setKey (items : List (String × Value)) (key : String) (value : Value) :
    List (String × Value) :=
  if (items.lookup key).isSome then
    items.map fun item => if item.1 = key then (key, value) else item
  else items ++ [(key, value)]

/-- `result.setdefault("diagnostics", {})["warnings"] = text`. -/
def addWarnings (text : String) : Value → Except ToolException Value
  | .dict items =>
      match items.lookup "diagnostics" with
      | none => .ok (.dict (setKey items "diagnostics" (.dict [("warnings", .str text)])))
      | some (.dict diagnostics) =>
          .ok (.dict (setKey items "diagnostics"
            (.dict (setKey diagnostics "warnings" (.str text)))))
      | some (.object identity) => do
          host.setItem identity
          return .dict items
      | some _ => .error (typeError "object does not support item assignment")
  | .object identity => do
      host.setWarnings identity
      return .object identity
  | _ => .error (typeError "object has no attribute 'setdefault'")

/-- The rest of the `try` block. -/
def shape (result : Value) (warnings : List PyWarning) : Except ToolException Value := do
  let wrapped ← wrap host result
  let caught ← (warnings.filter fun warning => !warning.isDeprecation).mapM (describe host)
  if caught.isEmpty then return wrapped
  else addWarnings host ("\n".intercalate caught) wrapped

/-! ### What goes wrong -/

/-- `suggest_fix` of `app/core/runtime/diagnostics.py`. -/
def suggestFix (exc : ToolException) : Option String := do
  let text ← exc.str
  let msg := host.lower text
  if exc.name ∈ ["ImportError", "ModuleNotFoundError"] then
    let missing ←
      if contains text "'" then (splitQuotes text)[1]? else (words text).getLast?
    return "Missing module — run: pip install " ++ missing
  else if exc.name = "NameError" then
    return "Name used before definition. Check for typos."
  else if exc.name = "AttributeError" then
    return "Attribute/method not found. Check the object type and attribute name."
  else if exc.name = "TypeError" then
    return "Wrong argument type or count. Check function signatures."
  else if exc.name = "KeyError" then
    return "Key " ++ text ++ " missing. Use .get() or verify the key exists."
  else if exc.name = "ValueError" then
    return "Invalid value. Check input data and expected ranges."
  else if exc.name ∈ ["FileNotFoundError", "IsADirectoryError"] then
    return "File not found. Check paths and working directory."
  else if contains msg "timeout" || exc.name ∈ ["TimeoutError", "asyncio.TimeoutError"] then
    return "Operation timed out. Check API calls and long-running operations."
  else if ["connection", "refused", "unreachable", "network"].any (contains msg) then
    return "Network error. Check connectivity and remote service availability."
  else return exc.name ++ ": review the traceback for the failing line."

/-- The handler of an `Exception`. -/
def onException (exc : ToolException) : Option Value := do
  let text ← exc.traceback
  let improvements ← suggestFix host exc
  return toolError text [("improvements", .str improvements)]

/-- `se.offset or 1`, if it is a number. -/
def column (offset : Value) : Option Int := do
  if ← (Value.isTruthy host offset).toOption then
    match offset with
    | .bool _ => some 1
    | .int value => some value
    | .object identity => host.number identity
    | _ => none
  else some 1

/-- `" " * max((se.offset or 1) - 1, 0) + "^"`. -/
def pointer (offset : Value) : Option String := do
  let blanks := (← column host offset) - 1
  if host.hasRoom blanks then
    return String.ofList (List.replicate blanks.toNat ' ') ++ "^"
  else none

/-- `text.rstrip()`. -/
def stripped : Value → Option Value
  | .str text => some (.str (String.ofList (text.toList.reverse.dropWhile isSpace).reverse))
  | .object identity => host.rstrip identity
  | _ => none

/-- The lines on the text of the error, if it has one. -/
def textLines (details : SyntaxDetails) (pointed : String) : Option (List String) := do
  if ← (Value.isTruthy host details.text).toOption then
    let text ← (host.str (← stripped host details.text)).toOption
    return ["    " ++ text, "    " ++ pointed]
  else return []

/-- The handler of a `SyntaxError`. -/
def onSyntaxError (exc : ToolException) (details : SyntaxDetails) : Option Value := do
  let trace ← exc.traceback
  let pointed ← pointer host details.offset
  let file ← (fileLabel host details.filename).toOption
  let line ← (host.str details.lineno).toOption
  let message ← (host.str details.msg).toOption
  let quoted ← textLines host details pointed
  let head := file ++ ":" ++ line ++ ": SyntaxError: " ++ message
  return toolError ("\n".intercalate (head :: quoted ++ [trace]))
    [("improvements", .str "Fix syntax error at indicated line.")]

/-- The answer to an exception, unless answering raises another one. -/
def answer (exc : ToolException) : Option Value :=
  match exc.details with
  | some details => onSyntaxError host exc details
  | none => onException host exc

/-! ### The call -/

/-- An exception that leaves the call. -/
inductive Escape
  | valueError (message : String)
  /-- Raised while another exception was answered. -/
  | answering
  | other (exc : ToolException)

structure Called where
  result : Except Escape Value
  executed : List Code := []

/-- `if func`. -/
def whenTrue (func : Option Func) : Option Func :=
  func.filter host.isTrue

def callTool (tool : Tool) (arguments : Value) : Ran Value :=
  let ran := host.call tool.func arguments
  { ran with executed := [.function tool] }

/-- The editable function, or that of the tool. -/
def runTool (tool : Tool) (arguments : Value) : Ran Value := do
  match whenTrue host (← loadEditableFunc host arguments) with
  | some func => host.call func arguments
  | none => callTool host tool arguments

def answered (exc : ToolException) : Except Escape Value :=
  match answer host exc with
  | some value => .ok value
  | none => .error .answering

/-- What a part of a `try` block has come to. -/
def settle : Except ToolException Value → Except Escape Value
  | .ok value => .ok value
  | .error exc => answered host exc

/-- The execution of a tool that was found and may be called. -/
def execute (tool : Tool) (arguments : Value) : Called :=
  let ran := runTool host tool arguments
  { result :=
      match ran.result with
      | .ok value => settle host (shape host value ran.warnings)
      | .error exc => answered host exc
    executed := ran.executed }

def refusal (tool : Tool) (toolName : String) (caller : Caller) : Option String :=
  match tenant tool.toOwner with
  | none => none
  | some (username, project) =>
      match tenant caller with
      | none => some "Missing username/project for namespaced tool"
      | some callers =>
          if callers = (username, project) then none
          else some ("Unauthorized: tool '" ++ toolName ++ "' belongs to " ++ username ++ "/" ++
            project)

/-- The function of an editable source, for a name that no tool has. -/
def callEditable (func : Func) (arguments : Value) : Ran Value := do
  let result ← host.call func arguments
  .ofExcept (wrap host result)

/-- No tool was found. -/
def callUnknown (toolName : String) (arguments : Value) : Called :=
  let unknown : Except Escape Value := .error (.valueError ("Unknown tool: " ++ toolName))
  let looked := resolveEditablePath host arguments
  match looked.result with
  | .error exc => { result := .error (.other exc) }
  | .ok none => { result := unknown }
  | .ok (some _) =>
      let loaded := loadEditableFunc host arguments
      match loaded.result with
      | .ok func =>
          match whenTrue host func with
          | none => { result := unknown, executed := loaded.executed }
          | some func =>
              let ran := callEditable host func arguments
              { result :=
                  match ran.result with
                  | .ok value => .ok value
                  | .error exc =>
                      match onException host exc with
                      | some value => .ok value
                      | none => .error .answering
                executed := loaded.executed ++ ran.executed }
      | .error exc =>
          { result :=
              match exc.str with
              | none => .error .answering
              | some "" => unknown
              | some message => .ok (toolError message [("improvements", .str
                  "Regenerate the tool so its code includes the @register_tool decorator.")])
            executed := loaded.executed }

def callToolDirect (registries : Registries) (toolName : String) (arguments : Value)
    (caller : Caller) : Called :=
  match found registries toolName caller with
  | none => callUnknown host toolName arguments
  | some tool =>
      match refusal tool toolName caller with
      | some message => { result := .error (.valueError message) }
      | none => execute host tool arguments

end Execution

end GrafuxMcp.ToolExecutor
