import GrafuxMcp.Runtime.OutputFiles
import GrafuxMcp.Runtime.ToolPaths
import Mathlib.Data.List.Infix

/-! # The fallback endpoint

`legacy_call_tool` of `app/api/legacy.py`. A tool that is unknown is synced and called
again inside the handler of the first call's `ValueError`, where the handlers beside it
do not apply. -/

namespace GrafuxMcp.Legacy

open GrafuxMcp OutputFiles ToolExecutor

/-! ### Model -/

/-- An exception of class `Exception`. Its text consists of code points; to ask for it may
raise, too. -/
structure Failure where
  cls : ExcClass
  text : Option (List Nat)
  isException : cls.mro.contains .Exception = true

def Failure.isinstance (exc : Failure) (cls : ExcClass) : Bool :=
  exc.cls.mro.contains cls

def codePoints (text : String) : List Nat := text.toList.map Char.toNat

/-- Text that can be encoded: no code point is a lone surrogate. -/
def encoded (text : List Nat) : Option String :=
  if ∀ point ∈ text, point.isValidChar then some (String.ofList (text.map Char.ofNat)) else none

structure Request where
  toolName : String
  /-- The query parameters. -/
  username : Value := .none
  project : Value := .none
  /-- What `request.json()` gives, unless it raises. -/
  body : Option Value
  /-- The truth of a value that is of no other class here: a fraction. -/
  objectIsTrue : Nat → Bool := fun _ => true

def isTrue (objectIsTrue : Nat → Bool) : Value → Bool
  | .none => false
  | .bool value => value
  | .int value => value != 0
  | .str value => !value.isEmpty
  | .list items => !items.isEmpty
  | .dict items => !items.isEmpty
  | .object identity => objectIsTrue identity

/-- What `call_tool_direct` is called with. -/
structure Call where
  toolName : String
  arguments : Value
  username : Value
  project : Value
  category : Value

structure Prepared where
  call : Call
  outputPortPaths : List String

/-- `items.pop(key, None)` -/
def popValue (items : List (String × Value)) (key : String) : Value :=
  (items.lookup key).getD .none

def without (items : List (String × Value)) (key : String) : List (String × Value) :=
  items.filter fun item => item.1 != key

namespace Request

variable (request : Request)

/-- `_normalize_body` -/
def items : List (String × Value) :=
  match request.body with
  | some (.dict items) => items
  | _ => []

/-- The value of the output paths, and what is left of the body. The second key is only
removed if the first gives nothing. -/
def outputPaths : Value × List (String × Value) :=
  let first := popValue request.items "__output_port_paths__"
  let items := without request.items "__output_port_paths__"
  if isTrue request.objectIsTrue first then (first, items)
  else (popValue items "output_port_paths", without items "output_port_paths")

def stringsOf : Value → List String
  | .list values => values.filterMap fun value =>
      match value with
      | .str text => some text
      | _ => none
  | _ => []

/-- A query parameter, or else what the body has. -/
def parameter (given : Value) (items : List (String × Value)) (key : String) : Value :=
  if isTrue request.objectIsTrue given then given else popValue items key

def prepare : Prepared :=
  let args := request.outputPaths.2
  let username := request.parameter request.username args "username"
  let project := request.parameter request.project args "project"
  let category := popValue args "category"
  let args := without (without (without args "username") "project") "category"
  let arguments := (args.lookup "arguments").getD (.dict args)
  let category :=
    match isTrue request.objectIsTrue category, arguments with
    | false, .dict arguments =>
        match inferCategoryFromArguments arguments with
        | some category => .str category
        | none => .none
    | _, _ => category
  { call := ⟨request.toolName, arguments, username, project, category⟩
    outputPortPaths := stringsOf request.outputPaths.1 }

end Request

/-- The result of a tool, with what is set in it under `output_files`. -/
structure ToolResult where
  value : Value
  outputFiles : List OutputFile := []

/-- One call of the tool under the time limit, with the files as each look-up finds
them and the exception of one that raises. -/
structure Round where
  callToolDirect : Call → Except Failure Value
  files : Nat → FileSystem
  lookUpError : Failure

namespace Round

variable (round : Round)

/-- `infer_output_port_paths(arguments)`, if they are a dictionary. -/
def infer (lookUp : Nat) : Value → Option (List String)
  | .dict arguments => inferOutputPortPaths (round.files lookUp) arguments
  | _ => some []

def read (lookUp : Nat) (paths : List String) : Option (List OutputFile) :=
  readOutputFiles (round.files lookUp) (paths.map .str)

/-- The files that are attached, unless a look-up raises. -/
def outputFiles (prepared : Prepared) : Option (List OutputFile) := do
  let pathsToRead ←
    if prepared.outputPortPaths = [] then round.infer 0 prepared.call.arguments
    else some prepared.outputPortPaths
  if pathsToRead = [] then return []
  let outputFiles ← round.read 1 pathsToRead
  if outputFiles ≠ [] then return outputFiles
  let inferred ← round.infer 2 prepared.call.arguments
  if inferred ≠ [] ∧ inferred ≠ pathsToRead then round.read 3 inferred
  else return outputFiles

def attachOutputFiles (prepared : Prepared) : Value → Except Failure ToolResult
  | .dict items =>
      match round.outputFiles prepared with
      | some outputFiles => .ok ⟨.dict items, outputFiles⟩
      | none => .error round.lookUpError
  | result => .ok ⟨result, []⟩

def run (prepared : Prepared) : Except Failure ToolResult := do
  let result ← round.callToolDirect prepared.call
  round.attachOutputFiles prepared result

end Round

/-- `sb_result`, with the keys that are asked for. -/
structure SyncResult where
  filesSynced : Option Nat := none
  toolsLoaded : Option Nat := none

def SyncResult.isIdle (result : SyncResult) : Bool :=
  result.filesSynced.getD 0 == 0 && result.toolsLoaded.getD 0 == 0

/-- The outcomes of the stages. -/
structure Stages where
  first : Round
  syncToolFromSupabase : Call → Except Failure SyncResult
  reloadPlugins : Except Failure Unit
  second : Round

inductive Response
  | result (result : ToolResult)
  /-- A `JSONResponse` whose content is `tool_error(message)`. -/
  | error (statusCode : Nat) (message : String)

/-- The response quotes the exception, and encodes the quotation. -/
def toolErrorResponse (exc : Failure) : Option Response := do
  let text ← exc.text
  let message ← encoded text
  return .error 200 ("Tool error: " ++ message)

section Model

variable (request : Request) (stages : Stages)

/-- The sync, the reload and the second call for an unknown tool. -/
def syncAndRetry (exc : Failure) : Option Response := do
  let synced ← (stages.syncToolFromSupabase request.prepare.call).toOption
  let _ ← if synced.isIdle then stages.reloadPlugins.toOption else some ()
  match stages.second.run request.prepare with
  | .ok result => some (.result result)
  | .error later => if later.isinstance .ValueError then toolErrorResponse exc else none

def isUnknownTool (text : List Nat) : Bool :=
  decide (codePoints "Unknown tool" <:+: text) &&
    isTrue request.objectIsTrue request.prepare.call.username &&
    isTrue request.objectIsTrue request.prepare.call.project

/-- The response, unless an `Exception` escapes. -/
def legacyCallTool : Option Response :=
  match stages.first.run request.prepare with
  | .ok result => some (.result result)
  | .error exc =>
      if exc.isinstance .ValueError then do
        let text ← exc.text
        if isUnknownTool request text then syncAndRetry request stages exc
        else toolErrorResponse exc
      else if exc.isinstance .TimeoutError then
        some (.error 504 ("Tool '" ++ request.toolName ++ "' timed out after 120 s"))
      else toolErrorResponse exc

end Model

/-! ### The condition -/

/-- The text can be asked for and encoded. -/
def Failure.Printable (exc : Failure) : Prop :=
  ∃ text, exc.text = some text ∧ ∀ point ∈ text, point.isValidChar

section Condition

variable (request : Request) (stages : Stages)

/-- The failure of the first call is taken for that of an unknown tool. -/
def IsMiss (exc : Failure) : Prop :=
  exc.isinstance .ValueError = true ∧ ∃ text ∈ exc.text, isUnknownTool request text = true

/-- The sync returns, and so does the reload, if the sync has done nothing. -/
def Refreshes : Prop :=
  ∃ synced, stages.syncToolFromSupabase request.prepare.call = .ok synced ∧
    (synced.isIdle = true → stages.reloadPlugins = .ok ())

/-- Nothing raises in the handler that recovers from a miss, but for a `ValueError` of the
second call, and an exception that the response quotes has a text. -/
structure Recovers : Prop where
  refreshes : ∀ exc, stages.first.run request.prepare = .error exc → IsMiss request exc →
    Refreshes request stages
  retried : ∀ exc, stages.first.run request.prepare = .error exc → IsMiss request exc →
    ∀ later, stages.second.run request.prepare = .error later →
      later.isinstance .ValueError = true ∧ exc.Printable
  quoted : ∀ exc, stages.first.run request.prepare = .error exc → ¬ IsMiss request exc →
    exc.isinstance .ValueError = true ∨ exc.isinstance .TimeoutError = false → exc.Printable

end Condition

/-! ### The responses -/

section Responses

variable {request : Request} {stages : Stages} {exc : Failure}

theorem encoded_isSome_iff {text : List Nat} :
    (encoded text).isSome = true ↔ ∀ point ∈ text, point.isValidChar := by
  rw [encoded]
  split
  case isTrue valid => exact iff_of_true rfl valid
  case isFalse invalid => exact iff_of_false Bool.false_ne_true invalid

theorem toolErrorResponse_isSome_iff :
    (toolErrorResponse exc).isSome = true ↔ exc.Printable := by
  rw [toolErrorResponse, Failure.Printable]
  cases exc.text with
  | none => simp
  | some text => cases message : encoded text <;> simp [← encoded_isSome_iff, message]

/-- What is left to do when the tools are fresh. -/
theorem retry_isSome_iff :
    (match stages.second.run request.prepare with
      | .ok result => some (Response.result result)
      | .error later =>
          if later.isinstance .ValueError then toolErrorResponse exc else none).isSome = true ↔
      ∀ later, stages.second.run request.prepare = .error later →
        later.isinstance .ValueError = true ∧ exc.Printable := by
  cases stages.second.run request.prepare with
  | ok result => simp
  | error later =>
      cases isValueError : later.isinstance .ValueError with
      | true => simp [isValueError, toolErrorResponse_isSome_iff]
      | false => simp [isValueError]

theorem syncAndRetry_isSome_iff :
    (syncAndRetry request stages exc).isSome = true ↔
      Refreshes request stages ∧ ∀ later, stages.second.run request.prepare = .error later →
        later.isinstance .ValueError = true ∧ exc.Printable := by
  rw [syncAndRetry, Refreshes, ← retry_isSome_iff]
  cases stages.syncToolFromSupabase request.prepare.call with
  | error failed => simp [Except.toOption]
  | ok synced =>
      cases idle : synced.isIdle with
      | false => simp [Except.toOption, idle]
      | true =>
          cases stages.reloadPlugins with
          | error failed => simp [Except.toOption, idle]
          | ok _ => simp [Except.toOption]

theorem isMiss_iff {text : List Nat} (isValueError : exc.isinstance .ValueError = true)
    (described : exc.text = some text) :
    IsMiss request exc ↔ isUnknownTool request text = true := by
  simp [IsMiss, isValueError, described]

theorem recovers_of_first {result : ToolResult}
    (first : stages.first.run request.prepare = .ok result) : Recovers request stages := by
  constructor
  · intro exc failed
    rw [first] at failed
    cases failed
  · intro exc failed
    rw [first] at failed
    cases failed
  · intro exc failed
    rw [first] at failed
    cases failed

theorem recovers_iff_of_miss (first : stages.first.run request.prepare = .error exc)
    (miss : IsMiss request exc) :
    Recovers request stages ↔
      Refreshes request stages ∧ ∀ later, stages.second.run request.prepare = .error later →
        later.isinstance .ValueError = true ∧ exc.Printable := by
  constructor
  · intro recovers
    exact ⟨recovers.refreshes exc first miss, recovers.retried exc first miss⟩
  · intro succeeds
    constructor
    · intro _ _ _
      exact succeeds.1
    · intro exc' failed _
      rw [first] at failed
      cases failed
      exact succeeds.2
    · intro exc' failed other
      rw [first] at failed
      cases failed
      exact absurd miss other

theorem recovers_iff_of_not_miss (first : stages.first.run request.prepare = .error exc)
    (other : ¬ IsMiss request exc) :
    Recovers request stages ↔
      (exc.isinstance .ValueError = true ∨ exc.isinstance .TimeoutError = false →
        exc.Printable) := by
  constructor
  · intro recovers
    exact recovers.quoted exc first other
  · intro printable
    constructor
    · intro exc' failed miss
      rw [first] at failed
      cases failed
      exact absurd miss other
    · intro exc' failed miss
      rw [first] at failed
      cases failed
      exact absurd miss other
    · intro exc' failed _
      rw [first] at failed
      cases failed
      exact printable

end Responses

/-- The endpoint answers if and only if its recovery does. -/
theorem legacy_call_tool_answers_iff (request : Request) (stages : Stages) :
    (legacyCallTool request stages).isSome = true ↔ Recovers request stages := by
  rw [legacyCallTool]
  cases first : stages.first.run request.prepare with
  | ok result => exact iff_of_true rfl (recovers_of_first first)
  | error exc =>
      cases isValueError : exc.isinstance .ValueError with
      | false =>
          have other : ¬ IsMiss request exc := by simp [IsMiss, isValueError]
          rw [recovers_iff_of_not_miss first other]
          cases isTimeout : exc.isinstance .TimeoutError with
          | false => simp [isValueError, isTimeout, toolErrorResponse_isSome_iff]
          | true => simp [isValueError, isTimeout]
      | true =>
          cases described : exc.text with
          | none =>
              have other : ¬ IsMiss request exc := by simp [IsMiss, described]
              rw [recovers_iff_of_not_miss first other]
              simp [isValueError, described, Failure.Printable]
          | some text =>
              have miss : IsMiss request exc ↔ isUnknownTool request text = true :=
                isMiss_iff isValueError described
              cases unknown : isUnknownTool request text with
              | true =>
                  rw [recovers_iff_of_miss first (miss.mpr unknown)]
                  simp [isValueError, described, unknown, syncAndRetry_isSome_iff]
              | false =>
                  rw [recovers_iff_of_not_miss first (by simp [miss, unknown])]
                  simp [isValueError, described, unknown, toolErrorResponse_isSome_iff]

/-- The tool is unknown, the sync finds nothing, and the second call takes too long. -/
def exampleRequest : Request where
  toolName := "calc"
  username := .str "ann"
  project := .str "demo"
  body := some (.dict [])

def unknownTool : Failure where
  cls := .ValueError
  text := some (codePoints "Unknown tool: calc")
  isException := rfl

def timedOut : Failure where
  cls := .TimeoutError
  text := some []
  isException := rfl

def roundFailing (exc : Failure) : Round where
  callToolDirect _ := .error exc
  files _ := exampleFiles
  lookUpError := exc

def slowAfterReload : Stages where
  first := roundFailing unknownTool
  syncToolFromSupabase _ := .ok {}
  reloadPlugins := .ok ()
  second := roundFailing timedOut

theorem second_timeout_escapes :
    ¬ ∀ request stages, (legacyCallTool request stages).isSome = true := by
  intro claimed
  have answered := claimed exampleRequest slowAfterReload
  revert answered
  decide +kernel

end GrafuxMcp.Legacy
