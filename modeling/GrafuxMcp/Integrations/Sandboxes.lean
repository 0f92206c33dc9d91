import GrafuxMcp.Foundation.Handlers
import GrafuxMcp.Integrations.E2bExecutor
import GrafuxMcp.Models.Database

/-! # Sandboxes of executions

`E2BExecutor.execute` of `app/integrations/e2b/executor.py` with the `SandboxManager` of
`app/integrations/e2b/sandbox.py`: a sandbox is created, or that of the org is found again, code
runs in it, and one that is not kept is closed. -/

namespace GrafuxMcp.Sandboxes

open GrafuxMcp

/-! ### Operations -/

/-- The handle of a sandbox. -/
structure Sandbox where
  id : String
deriving DecidableEq

/-- A row of `sandbox_sessions`. -/
structure SandboxSession where
  id : Uuid
  orgId : Uuid
  sandboxId : String
  status : String
  createdAt : Nat
  expiresAt : Nat

/-- What `exec_cell` wrote, and its execution; `none` when an `AttributeError` was raised. -/
structure Cell where
  stdout : List String
  stderr : List String
  execution : Option (List (Option String) × Option String)

/-- What a process wrote, and its exit code. -/
structure Process where
  stdout : List String
  stderr : List String
  exitCode : Option Int

inductive Op
  /-- `bool(settings.e2b_api_key)` -/
  | hasApiKey
  /-- `_create_ephemeral_sandbox` -/
  | createEphemeral
  /-- `create` of `e2b_code_interpreter`, with the template -/
  | create (template : String) (timeout : Nat)
  /-- `create` of `e2b` -/
  | createBasic (timeout : Nat)
  /-- `_get_active_session` -/
  | activeSession (orgId : Uuid)
  | reconnect (sandboxId : String)
  | expireSession (session : SandboxSession)
  /-- `add` and `commit`. -/
  | addSession (orgId : Uuid) (sandboxId : String) (lifetime : Nat)
  | execCell (sandbox : Sandbox) (code : String)
  /-- `process.start` and `wait`. -/
  | runProcess (sandbox : Sandbox) (cmd : String)
  /-- `sandbox.close` in the executor of the loop, under `asyncio.wait_for`. -/
  | close (sandbox : Sandbox)
  | publishLog (invocationId level message : String)
  /-- `repr(value)` -/
  | repr (value : Value)

@[reducible] def Op.Answer : Op → Type
  | .hasApiKey => Bool
  | .createEphemeral | .create _ _ | .createBasic _ | .reconnect _ => Sandbox
  | .activeSession _ => Option SandboxSession
  | .execCell _ _ => Cell
  | .runProcess _ _ => Process
  | .repr _ => String
  | _ => Unit

def Op.mayRaise : Op → Exc → Bool
  | .hasApiKey, _ | .repr _, _ => false
  | _, exc => exc.isException || exc.isCancelled

@[reducible] def effects : Interface where
  Op := Op
  Answer := Op.Answer
  Exc := Exc
  mayRaise := Op.mayRaise

abbrev Api (α : Type) := Program effects α

@[reducible] def perform (op : Op) : Api op.Answer :=
  Program.call (I := effects) op

/-! ### The manager -/

def defaultSandboxTimeout : Nat := 300

def uuidOf (text : Text) : Api Uuid :=
  match Uuid.parse text with
  | some uuid => return uuid
  | none => throw ⟨.ValueError, "badly formed hexadecimal UUID string"⟩

/-- `_create` -/
def create : Api Sandbox :=
  tryCatch (perform (.create "base" defaultSandboxTimeout)) fun exc =>
    if exc.isinstance .ImportError then perform (.createBasic defaultSandboxTimeout)
    else throw exc

/-- The sandbox of an active session, if it can be connected to. -/
def reuse (orgId : Text) : Api (Option Sandbox) := do
  let orgId ← uuidOf orgId
  match ← perform (.activeSession orgId) with
  | none => return none
  | some session =>
      tryCatch (do
        let sandbox ← perform (.reconnect session.sandboxId)
        return some sandbox) fun exc =>
          if exc.isException then do
            perform (.expireSession session)
            return none
          else throw exc

/-- A new sandbox, which a persistent execution keeps for the org. -/
def createNew (orgId : Text) (persistent : Bool) : Api Sandbox := do
  let sandbox ← create
  if persistent then do
    let orgId ← uuidOf orgId
    perform (.addSession orgId sandbox.id defaultSandboxTimeout)
    return sandbox
  else return sandbox

/-- `get_or_create_sandbox` -/
def getOrCreateSandbox (orgId : Text) (persistent : Bool) : Api (Sandbox × Bool) := do
  if ← perform .hasApiKey then
    match ← if persistent then reuse orgId else pure none with
    | some sandbox => return (sandbox, false)
    | none =>
        let sandbox ← createNew orgId persistent
        return (sandbox, true)
  else throw ⟨.RuntimeError, "E2B_API_KEY not configured"⟩

/-- `destroy_sandbox`, and what is left of its failure. -/
def destroySandbox (sandbox : Sandbox) : Api Unit :=
  tryCatch (perform (.close sandbox)) fun exc =>
    if exc.isException then return () else throw exc

/-! ### The executor -/

structure Execution where
  code : String
  arguments : List (String × Value)
  orgId : Text
  invocationId : String
  persistentSandbox : Bool := false
  /-- `db is not None` -/
  hasDb : Bool := false

/-- `f"{key} = {repr(value)}"` -/
def assignment (key : String) (value : Value) : Api (List String) := do
  let shown ← perform (.repr value)
  return [s!"{key} = {shown}"]

/-- The lines of one argument. -/
def argumentLine (key : String) : Value → Api (List String)
  | .str text =>
      if text.toList.contains '\n' then return [s!"# {key}:", text]
      else assignment key (.str text)
  | value => assignment key value

def argumentLines : List (String × Value) → Api (List String)
  | [] => return []
  | (key, value) :: arguments => do
      let lines ← argumentLine key value
      let rest ← argumentLines arguments
      return lines ++ rest

/-- `_build_code_from_arguments` -/
def buildCode (arguments : List (String × Value)) : Api String := do
  let lines ← argumentLines arguments
  return "\n".intercalate
    ("# Auto-generated execution from tool arguments" :: lines ++ ["print('Done')"])

def codeOf (request : Execution) : Api String :=
  if request.code.isEmpty then buildCode request.arguments else pure request.code

/-- The envelope of a result. -/
def answer (output : String) (isError : Bool) (stdout stderr : String) (exitCode : Int) : Value :=
  .dict [("content", .list [.dict [("type", .str "text"), ("text", .str output)]]),
    ("isError", .bool isError),
    ("diagnostics", .dict [("stdout", .str stdout), ("stderr", .str stderr),
      ("exit_code", .int exitCode)])]

/-- `_run_in_sandbox`, and the answer to its result. -/
def runInSandbox (sandbox : Sandbox) (code : String) : Api Value := do
  let cell ← perform (.execCell sandbox code)
  match cell.execution with
  | some (results, error) =>
      let stdout := String.join cell.stdout
      let output := results.foldl (fun output text => output ++ text.getD "") stdout
      return answer output (error.any (!·.isEmpty)) stdout (String.join cell.stderr) 0
  | none =>
      let process ← perform (.runProcess sandbox
        (String.ofList (E2BExecutor.fallbackCmd code.toList)))
      let stdout := String.join (cell.stdout ++ process.stdout)
      let stderr := String.join (cell.stderr ++ process.stderr)
      let exitCode := process.exitCode.getD 0
      return answer (if stdout.isEmpty then stderr else stdout) (exitCode ≠ 0) stdout stderr
        exitCode

def sandboxFor (request : Execution) : Api (Sandbox × Bool) :=
  if request.hasDb then getOrCreateSandbox request.orgId request.persistentSandbox
  else do
    let sandbox ← perform .createEphemeral
    return (sandbox, true)

/-- `except Exception` of `execute` -/
def failed (request : Execution) (exc : Exc) : Api Value :=
  if exc.isException then do
    perform (.publishLog request.invocationId "error" s!"Sandbox error: {exc.message}")
    return toolError exc.message
  else throw exc

/-- `finally` of `execute` -/
def teardown (request : Execution) (sandbox : Sandbox) (isNew : Bool) : Api Unit :=
  if isNew && !request.persistentSandbox then
    tryCatch (destroySandbox sandbox) fun exc =>
      if exc.isException then return () else throw exc
  else return ()

/-- `E2BExecutor.execute` -/
def execute (request : Execution) : Api Value := do
  let code ← codeOf request
  match ← (sandboxFor request).reflect with
  | .error exc => failed request exc
  | .ok (sandbox, isNew) =>
      (tryCatch (runInSandbox sandbox code) (failed request)).tryFinally
        (teardown request sandbox isNew)

/-! ### Teardown -/

/-- The sandbox of an execution. -/
inductive Life
  | absent
  | opened (sandbox : Sandbox)
  | closed
deriving DecidableEq

/-- The sandbox that an operation has given. -/
def given (event : Event effects) : Option Sandbox :=
  match event with
  | ⟨.createEphemeral, .returned sandbox⟩ | ⟨.create _ _, .returned sandbox⟩
  | ⟨.createBasic _, .returned sandbox⟩ | ⟨.reconnect _, .returned sandbox⟩ => some sandbox
  | _ => .none

/-- The sandbox that an operation uses. -/
def Op.used : Op → Option Sandbox
  | .execCell sandbox _ | .runProcess sandbox _ | .close sandbox => some sandbox
  | _ => .none

def Op.gives : Op → Bool
  | .createEphemeral | .create _ _ | .createBasic _ | .reconnect _ => true
  | _ => false

def Op.isClose : Op → Bool
  | .close _ => true
  | _ => false

namespace Life

def observe (life : Life) (event : Event effects) : Life :=
  match given event with
  | some sandbox => .opened sandbox
  | .none => if event.op.isClose then .closed else life

/-- A sandbox is used while it is open, one at a time, and one that is kept is not closed. -/
structure Allowed (persistent : Bool) (life : Life) (event : Event effects) : Prop where
  used : ∀ sandbox ∈ event.op.used, life = .opened sandbox
  single : event.op.gives = true → life = .absent
  closes : event.op.isClose = true → persistent = false

def contract (persistent : Bool) : Contract effects Life where
  observe := observe
  assume _ _ := True
  guarantee := Allowed persistent

section Rules

variable {persistent : Bool} {life : Life} {op : Op} {sandbox : Sandbox}

theorem observe_of_other {outcome : Outcome effects op} (notGives : op.gives = false)
    (notClose : op.isClose = false) : observe life ⟨op, outcome⟩ = life := by
  have nothing : given ⟨op, outcome⟩ = .none := by
    cases op with
    | createEphemeral | create _ _ | createBasic _ | reconnect _ => cases notGives
    | _ => rfl
  rw [observe, nothing]
  exact if_neg (by simp [notClose])

/-- An operation that has nothing to do with a sandbox. -/
theorem keeps_perform (unused : op.used = .none) (notGives : op.gives = false) :
    Program.Keeps (contract persistent) (· = life) (perform op) := by
  have notClose : op.isClose = false := by
    cases op with
    | close sandbox => cases unused
    | _ => rfl
  refine Program.keeps_call fun life' outcome same _ => ⟨⟨?_, ?_, ?_⟩, ?_⟩
  · intro sandbox used
    rw [unused] at used
    cases used
  · intro gives
    rw [notGives] at gives
    cases gives
  · intro closes
    rw [notClose] at closes
    cases closes
  · exact (observe_of_other notGives notClose).trans same

/-- Code runs in the open sandbox. -/
theorem keeps_run (used : op.used = some sandbox) (notGives : op.gives = false)
    (notClose : op.isClose = false) :
    Program.Keeps (contract persistent) (· = .opened sandbox) (perform op) := by
  refine Program.keeps_call fun life' outcome same _ => ⟨⟨?_, ?_, ?_⟩, ?_⟩
  · intro sandbox' also
    rw [used] at also
    cases also
    exact same
  · intro gives
    rw [notGives] at gives
    cases gives
  · intro closes
    rw [notClose] at closes
    cases closes
  · exact (observe_of_other notGives notClose).trans same

/-- The program gives a sandbox that is open, or raises and there is none. -/
def Gives (persistent : Bool) (program : Api Sandbox) : Prop :=
  program.Meets (contract persistent) .absent fun result life =>
    match result with
    | .ok sandbox => life = .opened sandbox
    | .error _ => life = .absent

/-- Another sandbox may only be asked for when there is none. -/
theorem allowed_give {outcome : Outcome effects op} (unused : op.used = .none)
    (notClose : op.isClose = false) : Allowed persistent .absent ⟨op, outcome⟩ := by
  refine ⟨?_, fun _ => rfl, ?_⟩
  · intro sandbox used
    rw [unused] at used
    cases used
  · intro closes
    rw [notClose] at closes
    cases closes

theorem gives_createEphemeral : Gives persistent (perform .createEphemeral) := by
  apply Program.meets_call
  intro outcome _
  refine ⟨allowed_give rfl rfl, ?_⟩
  cases outcome with
  | returned sandbox => rfl
  | raised exc applied possible => rfl

theorem gives_reconnect (sandboxId : String) :
    Gives persistent (perform (.reconnect sandboxId)) := by
  apply Program.meets_call
  intro outcome _
  refine ⟨allowed_give rfl rfl, ?_⟩
  cases outcome with
  | returned sandbox => rfl
  | raised exc applied possible => rfl

theorem gives_create : Gives persistent create := by
  apply Program.meets_tryCatch.mpr
  apply Program.meets_call
  intro outcome _
  refine ⟨allowed_give rfl rfl, ?_⟩
  cases outcome with
  | returned sandbox => rfl
  | raised exc applied possible =>
      change Program.Meets (contract persistent)
        (if exc.isinstance .ImportError = true then _ else throw exc) .absent _
      split
      · apply Program.meets_call
        intro outcome _
        refine ⟨allowed_give rfl rfl, ?_⟩
        cases outcome with
        | returned sandbox => rfl
        | raised exc applied possible => rfl
      · rfl

theorem keeps_uuidOf (text : Text) :
    Program.Keeps (contract persistent) (· = life) (uuidOf text) := by
  unfold uuidOf
  split
  · exact Program.keeps_pure _
  · exact Program.keeps_throw _

/-- What `execute` knows of the sandbox it has got. -/
def Obtained (persistent : Bool) : Except Exc (Sandbox × Bool) → Life → Prop
  | .ok (sandbox, isNew), life => life = .opened sandbox ∧ (isNew = false → persistent = true)
  | .error _, life => ∀ sandbox, life = .opened sandbox → persistent = true

theorem obtained_of_absent {exc : Exc} (absent : life = .absent) :
    Obtained persistent (.error exc) life := by
  intro sandbox opened
  rw [absent] at opened
  cases opened

theorem meets_createNew (orgId : Text) :
    (createNew orgId persistent).Meets (contract persistent) .absent fun result life =>
      match result with
      | .ok sandbox => life = .opened sandbox
      | .error _ => ∀ sandbox, life = .opened sandbox → persistent = true := by
  refine Program.meets_bind.mpr (gives_create.mono ?_)
  intro result life
  cases result with
  | error exc =>
      intro absent sandbox opened
      rw [absent] at opened
      cases opened
  | ok sandbox =>
      rintro rfl
      change Program.Meets _ (if persistent = true then _ else pure sandbox) _ _
      split
      case isTrue kept =>
        refine Program.meets_bind.mpr ((keeps_uuidOf orgId _ rfl).mono ?_)
        rintro result _ rfl
        cases result with
        | error exc => exact fun _ _ => kept
        | ok orgId =>
            refine Program.meets_bind.mpr ((keeps_perform rfl rfl _ rfl).mono ?_)
            rintro result _ rfl
            cases result with
            | error exc => exact fun _ _ => kept
            | ok _ => rfl
      case isFalse => rfl

theorem meets_reuse (orgId : Text) :
    (reuse orgId).Meets (contract persistent) .absent fun result life =>
      match result with
      | .ok (some sandbox) => life = .opened sandbox
      | .ok .none | .error _ => life = .absent := by
  refine Program.meets_bind.mpr ((keeps_uuidOf orgId _ rfl).mono ?_)
  rintro result _ rfl
  cases result with
  | error exc => rfl
  | ok orgId =>
      refine Program.meets_bind.mpr ((keeps_perform rfl rfl _ rfl).mono ?_)
      rintro result _ rfl
      cases result with
      | error exc => rfl
      | ok found =>
          cases found with
          | none => rfl
          | some session =>
              refine Program.meets_tryCatch.mpr (Program.meets_bind.mpr
                ((gives_reconnect session.sandboxId).mono ?_))
              intro result life
              cases result with
              | ok sandbox => exact id
              | error exc =>
                  rintro rfl
                  change Program.Meets _ (if exc.isException = true then _ else throw exc) _ _
                  split
                  · refine Program.meets_bind.mpr ((keeps_perform rfl rfl _ rfl).mono ?_)
                    rintro result _ rfl
                    cases result with
                    | ok _ => rfl
                    | error exc => rfl
                  · rfl

theorem meets_getOrCreateSandbox (orgId : Text) :
    (getOrCreateSandbox orgId persistent).Meets (contract persistent) .absent
      (Obtained persistent) := by
  refine Program.meets_bind.mpr ((keeps_perform rfl rfl _ rfl).mono ?_)
  rintro result _ rfl
  cases result with
  | error exc => exact obtained_of_absent rfl
  | ok hasApiKey =>
      change Program.Meets _ (if hasApiKey = true then _ else _) _ _
      split
      case isFalse => exact obtained_of_absent rfl
      case isTrue =>
        have fresh : (do
            let sandbox ← createNew orgId persistent
            return (sandbox, true) : Api (Sandbox × Bool)).Meets (contract persistent) .absent
            (Obtained persistent) := by
          refine Program.meets_bind.mpr ((meets_createNew orgId).mono ?_)
          intro result life
          cases result with
          | ok sandbox => exact fun opened => ⟨opened, fun impossible => (nomatch impossible)⟩
          | error exc => exact id
        cases persistent with
        | false => exact fresh
        | true =>
            refine Program.meets_bind.mpr ((meets_reuse orgId).mono ?_)
            intro result life
            cases result with
            | error exc => exact obtained_of_absent
            | ok found =>
                cases found with
                | some sandbox => exact fun opened => ⟨opened, fun _ => rfl⟩
                | none =>
                    rintro rfl
                    exact fresh

theorem meets_sandboxFor (request : Execution) :
    (sandboxFor request).Meets (contract request.persistentSandbox) .absent
      (Obtained request.persistentSandbox) := by
  unfold sandboxFor
  split
  case isTrue => exact meets_getOrCreateSandbox request.orgId
  case isFalse =>
    refine Program.meets_bind.mpr (gives_createEphemeral.mono ?_)
    intro result life
    cases result with
    | ok sandbox => exact fun opened => ⟨opened, fun impossible => (nomatch impossible)⟩
    | error exc => exact obtained_of_absent

theorem keeps_runInSandbox (code : String) :
    Program.Keeps (contract persistent) (· = .opened sandbox) (runInSandbox sandbox code) := by
  refine Program.keeps_bind (keeps_run rfl rfl rfl) fun cell => ?_
  split
  · exact Program.keeps_pure _
  · exact Program.keeps_bind (keeps_run rfl rfl rfl) fun process => Program.keeps_pure _

theorem keeps_failed (request : Execution) (exc : Exc) :
    Program.Keeps (contract persistent) (· = life) (failed request exc) := by
  unfold failed
  split
  · exact Program.keeps_bind (keeps_perform rfl rfl) fun _ => Program.keeps_pure _
  · exact Program.keeps_throw _

theorem keeps_codeOf (request : Execution) :
    Program.Keeps (contract persistent) (· = life) (codeOf request) := by
  have assigns : ∀ key value, Program.Keeps (contract persistent) (· = life)
      (assignment key value) :=
    fun key value => Program.keeps_bind (keeps_perform rfl rfl) fun _ => Program.keeps_pure _
  have line : ∀ key value, Program.Keeps (contract persistent) (· = life)
      (argumentLine key value) := by
    intro key value
    unfold argumentLine
    split
    · split
      · exact Program.keeps_pure _
      · exact assigns key _
    · exact assigns key value
  have lines : ∀ arguments, Program.Keeps (contract persistent) (· = life)
      (argumentLines arguments) := by
    intro arguments
    induction arguments with
    | nil => exact Program.keeps_pure _
    | cons argument arguments induction =>
        exact Program.keeps_bind (line argument.1 argument.2) fun lines =>
          Program.keeps_bind induction fun rest => Program.keeps_pure _
  unfold codeOf
  split
  · exact Program.keeps_bind (lines _) fun _ => Program.keeps_pure _
  · exact Program.keeps_pure _

/-- What is left open at the end is the sandbox of a persistent execution. -/
def Left (persistent : Bool) (life : Life) : Prop :=
  ∀ sandbox, life = .opened sandbox → persistent = true

theorem meets_close (temporary : persistent = false) :
    (destroySandbox sandbox).Meets (contract persistent) (.opened sandbox)
      fun _ life => life = .closed := by
  apply Program.meets_tryCatch.mpr
  apply Program.meets_call
  intro outcome _
  refine ⟨⟨?_, fun impossible => (nomatch impossible), fun _ => temporary⟩, ?_⟩
  · intro other used
    cases used
    rfl
  · cases outcome with
    | returned _ => rfl
    | raised exc applied possible =>
        change Program.Meets (contract persistent)
          (if exc.isException = true then pure () else throw exc) .closed _
        split
        · rfl
        · rfl

theorem meets_teardown (request : Execution) {isNew : Bool}
    (isKept : isNew = false → request.persistentSandbox = true) :
    (teardown request sandbox isNew).Meets (contract request.persistentSandbox)
      (.opened sandbox) fun _ life => Left request.persistentSandbox life := by
  unfold teardown
  cases persistent : request.persistentSandbox with
  | true =>
      rw [Bool.not_true, Bool.and_false, if_neg Bool.false_ne_true]
      exact fun _ _ => rfl
  | false =>
      cases isNew with
      | false => exact absurd (isKept rfl) (by simp [persistent])
      | true =>
          refine Program.meets_tryCatch.mpr ((meets_close rfl).mono ?_)
          rintro result _ rfl
          have closed : Left false .closed := fun _ impossible => (nomatch impossible)
          cases result with
          | ok _ => exact closed
          | error exc =>
              change Program.Meets (contract false)
                (if exc.isException = true then pure () else throw exc) .closed _
              split
              · exact closed
              · exact closed

theorem meets_execute (request : Execution) :
    (execute request).Meets (contract request.persistentSandbox) .absent
      fun _ life => Left request.persistentSandbox life := by
  have nothing : Left request.persistentSandbox .absent := fun _ impossible => (nomatch impossible)
  refine Program.meets_bind.mpr ((keeps_codeOf request _ rfl).mono ?_)
  rintro result _ rfl
  cases result with
  | error exc => exact nothing
  | ok code =>
      refine Program.meets_bind.mpr (Program.meets_reflect.mpr ((meets_sandboxFor request).mono ?_))
      intro result life obtained
      cases result with
      | error exc =>
          refine (keeps_failed request exc life rfl).mono ?_
          rintro _ _ rfl
          exact obtained
      | ok found =>
          rcases found with ⟨sandbox, isNew⟩
          rcases obtained with ⟨rfl, isKept⟩
          apply Program.meets_tryFinally
          refine (Program.keeps_tryCatch (keeps_runInSandbox code)
            (keeps_failed request) _ rfl).mono ?_
          rintro result _ rfl
          refine (meets_teardown request isKept).mono ?_
          intro ended life left
          cases ended with
          | error exc => exact left
          | ok _ =>
              cases result with
              | ok value => exact left
              | error exc => exact left

end Rules

end Life

end GrafuxMcp.Sandboxes
