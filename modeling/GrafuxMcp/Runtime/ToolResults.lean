import GrafuxMcp.Runtime.ToolExecutor

/-! # Tool results

A run should end with a result envelope, whatever the tool returns, warns of or raises.
What can go wrong is the shaping of the result and the answer to an exception. -/

namespace GrafuxMcp.ToolExecutor

open GrafuxMcp PosixPath PluginLoader

section Results

variable (host : Host)

/-! ### The property -/

/-- A dictionary with `content` and a true `isError`. -/
def isErrorEnvelope (value : Value) : Bool :=
  match entries host value with
  | .error _ => false
  | .ok items =>
      (items.lookup "content").isSome &&
        match items.lookup "isError" with
        | some (.bool isError) => isError
        | _ => false

/-- Loading the editable code or the function has raised, or the function has returned an
error envelope. -/
def HasFailed (ran : Ran Value) : Prop :=
  match ran.result with
  | .error _ => True
  | .ok value => isErrorEnvelope host value = true

/-- The call returns a dictionary with `content`, an error envelope exactly if the run has
failed. -/
def Returns (ran : Ran Value) (called : Called) : Prop :=
  ∃ value, called.result = .ok value ∧ hasContent host value = .ok true ∧
    (isErrorEnvelope host value = true ↔ HasFailed host ran)

/-! ### The condition -/

/-- The attributes of a `SyntaxError` have types that the answer can do with: the offset
is false or a number for which there is room, the filename is false or a path, the line
number and the message have a text, and so has the text, if it is true, without the white
space at its end. -/
structure Quotable (details : SyntaxDetails) : Prop where
  offset : ∃ column, ToolExecutor.column host details.offset = some column ∧
    host.hasRoom (column - 1) = true
  filename : ∃ label, fileLabel host details.filename = .ok label
  lineno : ∃ text, host.str details.lineno = .ok text
  msg : ∃ text, host.str details.msg = .ok text
  text : Value.isTruthy host details.text = .ok false ∨
    Value.isTruthy host details.text = .ok true ∧
      ∃ stripped, ToolExecutor.stripped host details.text = some stripped ∧
        ∃ text, host.str stripped = .ok text

/-- An exception with a traceback and a text; that of an import error has a quote or a word. -/
structure Answerable (exc : ToolException) : Prop where
  traceback : ∃ text, exc.traceback = some text
  details : ∀ details ∈ exc.details, Quotable host details
  text : exc.details = none → ∃ text, exc.str = some text ∧
    (exc.name ∈ ["ImportError", "ModuleNotFoundError"] →
      contains text "'" = true ∨ words text ≠ [])

/-- The exception, if there is one. -/
def failure {α : Type} : Except ToolException α → Option ToolException
  | .error exc => some exc
  | .ok _ => none

/-- What keeps a warning from being described. -/
def unprintable (warning : PyWarning) : Option ToolException :=
  (failure (fileLabel host warning.filename)).or
    ((failure (host.str warning.lineno)).or (failure (host.str warning.message)))

/-- What keeps a result with `content` from taking warnings. -/
def refusesWarnings : Value → Option ToolException
  | .dict items =>
      match items.lookup "diagnostics" with
      | none => none
      | some (.dict _) => none
      | some (.object identity) => failure (host.setItem identity)
      | some _ => some (typeError "object does not support item assignment")
  | .object identity => failure (host.setWarnings identity)
  | _ => none

/-- The warnings that count. -/
def relevant (warnings : List PyWarning) : List PyWarning :=
  warnings.filter fun warning => !warning.isDeprecation

/-- The first exception that the result and the warnings lead to. -/
def obstacle (result : Value) (warnings : List PyWarning) : Option ToolException :=
  match hasContent host result with
  | .error exc => some exc
  | .ok content =>
      (if content then none else failure (host.str result)).or
        (((relevant warnings).findSome? (unprintable host)).or
          (if content && !(relevant warnings).isEmpty then refusesWarnings host result else none))

/-- A raised exception can be answered. A result and its warnings meet no obstacle, or the
result is an error envelope already, and the exception that the obstacle raises can be
answered. -/
def Unhindered (ran : Ran Value) : Prop :=
  match ran.result with
  | .error exc => Answerable host exc
  | .ok value =>
      ∀ exc ∈ obstacle host value ran.warnings,
        isErrorEnvelope host value = true ∧ Answerable host exc

variable {host}

/-! ### Answers to exceptions -/

theorem isErrorEnvelope_toolError (message : String) (diagnostics : List (String × Value)) :
    hasContent host (toolError message diagnostics) = .ok true ∧
      isErrorEnvelope host (toolError message diagnostics) = true := by
  cases diagnostics <;> exact ⟨rfl, rfl⟩

theorem isErrorEnvelope_of_answer {exc : ToolException} {value : Value}
    (answered : answer host exc = some value) :
    hasContent host value = .ok true ∧ isErrorEnvelope host value = true := by
  rw [answer] at answered
  cases details : exc.details with
  | none =>
      rw [details] at answered
      simp only [onException, Option.bind_eq_bind, Option.bind_eq_some_iff, pure,
        Option.some.injEq] at answered
      rcases answered with ⟨_, _, _, _, rfl⟩
      exact isErrorEnvelope_toolError _ _
  | some details =>
      rw [details] at answered
      simp only [onSyntaxError, Option.bind_eq_bind, Option.bind_eq_some_iff, pure,
        Option.some.injEq] at answered
      rcases answered with ⟨_, _, _, _, _, _, _, _, _, _, _, _, rfl⟩
      exact isErrorEnvelope_toolError _ _

theorem toOption_eq_some {α : Type} {outcome : Except ToolException α} {value : α} :
    outcome.toOption = some value ↔ outcome = .ok value := by
  cases outcome <;> simp [Except.toOption]

theorem pointer_isSome (offset : Value) :
    (∃ pointed, pointer host offset = some pointed) ↔
      ∃ number, column host offset = some number ∧ host.hasRoom (number - 1) = true := by
  cases numbered : column host offset with
  | none => simp [pointer, numbered]
  | some number =>
      cases room : host.hasRoom (number - 1) <;> simp [pointer, numbered, room]

theorem textLines_isSome (details : SyntaxDetails) (pointed : String) :
    (∃ lines, textLines host details pointed = some lines) ↔
      (Value.isTruthy host details.text = .ok false ∨
        Value.isTruthy host details.text = .ok true ∧
          ∃ stripped, ToolExecutor.stripped host details.text = some stripped ∧
            ∃ text, host.str stripped = .ok text) := by
  rw [textLines]
  cases Value.isTruthy host details.text with
  | error exc => simp [Except.toOption]
  | ok truth =>
      cases truth with
      | false => simp [Except.toOption]
      | true =>
          cases ToolExecutor.stripped host details.text with
          | none => simp [Except.toOption]
          | some stripped => cases text : host.str stripped <;> simp [Except.toOption, text]

theorem onSyntaxError_isSome (exc : ToolException) (details : SyntaxDetails) :
    (∃ value, onSyntaxError host exc details = some value) ↔
      (∃ text, exc.traceback = some text) ∧ Quotable host details := by
  simp only [onSyntaxError, Option.bind_eq_bind, Option.bind_eq_some_iff, pure,
    Option.some.injEq, toOption_eq_some]
  constructor
  · rintro ⟨_, trace, traced, pointed, points, file, labelled, line, numbered, message, told,
      quoted, quotes, _⟩
    refine ⟨⟨trace, traced⟩, ?_⟩
    exact
      { offset := (pointer_isSome _).mp ⟨pointed, points⟩
        filename := ⟨file, labelled⟩
        lineno := ⟨line, numbered⟩
        msg := ⟨message, told⟩
        text := (textLines_isSome details pointed).mp ⟨quoted, quotes⟩ }
  · rintro ⟨⟨trace, traced⟩, quotable⟩
    rcases (pointer_isSome _).mpr quotable.offset with ⟨pointed, points⟩
    rcases quotable.filename with ⟨file, labelled⟩
    rcases quotable.lineno with ⟨line, numbered⟩
    rcases quotable.msg with ⟨message, told⟩
    rcases (textLines_isSome details pointed).mpr quotable.text with ⟨quoted, quotes⟩
    exact ⟨_, trace, traced, pointed, points, file, labelled, line, numbered, message, told,
      quoted, quotes, rfl⟩

theorem two_le_length_splitOn {letter : Char} {text : List Char} (member : letter ∈ text) :
    2 ≤ (text.splitOn letter).length := by
  induction text with
  | nil => cases member
  | cons first text induction =>
      rw [List.splitOn_cons_eq_if_modifyHead]
      split
      case isTrue =>
        have pieces := List.length_pos_iff.mpr (List.splitOn_ne_nil letter text)
        rw [List.length_cons]
        omega
      case isFalse other =>
        rw [List.length_modifyHead]
        rcases List.mem_cons.mp member with same | later
        · exact absurd (beq_iff_eq.mpr same.symm) other
        · exact induction later

theorem splitQuotes_second {text : String} (quoted : contains text "'" = true) :
    ∃ part, (splitQuotes text)[1]? = some part := by
  have part : ['\''] <:+: text.toList := by simpa [contains] using quoted
  have member : '\'' ∈ text.toList := part.subset List.mem_cons_self
  have pieces := two_le_length_splitOn member
  have inside : 1 < (splitQuotes text).length := by
    rw [splitQuotes, List.length_map]
    omega
  exact ⟨_, List.getElem?_eq_getElem inside⟩

theorem suggestFix_isSome (exc : ToolException) :
    (∃ hint, suggestFix host exc = some hint) ↔
      ∃ text, exc.str = some text ∧ (exc.name ∈ ["ImportError", "ModuleNotFoundError"] →
        contains text "'" = true ∨ words text ≠ []) := by
  rw [suggestFix]
  cases exc.str with
  | none => simp
  | some text =>
      simp only [Option.bind_eq_bind, Option.bind_some, Option.some.injEq, exists_eq_left']
      split
      case isFalse other =>
        simp only [other, false_imp_iff, iff_true]
        repeat' split
        all_goals exact ⟨_, rfl⟩
      case isTrue isImport =>
        simp only [isImport, true_imp_iff]
        cases quoted : contains text "'" with
        | true =>
            rcases splitQuotes_second quoted with ⟨part, second⟩
            simp [second]
        | false =>
            rcases List.eq_nil_or_concat (words text) with none_ | ⟨front, last, all⟩
            · simp [none_]
            · simp [all]

theorem answer_isSome (exc : ToolException) :
    (∃ value, answer host exc = some value) ↔ Answerable host exc := by
  rw [answer]
  cases details : exc.details with
  | some details =>
      rw [onSyntaxError_isSome]
      constructor
      · rintro ⟨traced, quotable⟩
        exact ⟨traced, by simpa [details] using quotable, by simp [details]⟩
      · intro answerable
        exact ⟨answerable.traceback, answerable.details _ details⟩
  | none =>
      simp only [onException, Option.bind_eq_bind, Option.bind_eq_some_iff, pure,
        Option.some.injEq]
      constructor
      · rintro ⟨_, trace, traced, hint, hinted, _⟩
        exact ⟨⟨trace, traced⟩, by simp [details],
          fun _ => (suggestFix_isSome exc).mp ⟨hint, hinted⟩⟩
      · intro answerable
        rcases answerable.traceback with ⟨trace, traced⟩
        rcases (suggestFix_isSome exc).mpr (answerable.text details) with ⟨hint, hinted⟩
        exact ⟨_, trace, traced, hint, hinted, rfl⟩

/-! ### Shaping -/

theorem failure_describe (warning : PyWarning) :
    failure (describe host warning) = unprintable host warning := by
  rw [describe, unprintable]
  cases fileLabel host warning.filename <;> cases host.str warning.lineno <;>
    cases host.str warning.message <;> rfl

theorem failure_mapM_describe (warnings : List PyWarning) :
    failure (warnings.mapM (describe host)) = warnings.findSome? (unprintable host) := by
  induction warnings with
  | nil => rfl
  | cons warning warnings induction =>
      rw [List.mapM_cons, List.findSome?_cons, ← failure_describe, ← induction]
      cases describe host warning <;> cases warnings.mapM (describe host) <;> rfl

theorem length_of_mapM {warnings : List PyWarning} {texts : List String}
    (described : warnings.mapM (describe host) = .ok texts) : texts.length = warnings.length := by
  induction warnings generalizing texts with
  | nil =>
      cases described
      rfl
  | cons warning warnings induction =>
      rw [List.mapM_cons] at described
      cases first : describe host warning with
      | error exc =>
          rw [first] at described
          cases described
      | ok text =>
          cases rest : warnings.mapM (describe host) with
          | error exc =>
              rw [first, rest] at described
              cases described
          | ok others =>
              rw [first, rest] at described
              cases described
              rw [List.length_cons, List.length_cons, induction rest]

theorem isErrorEnvelope_of_hasContent {value : Value}
    (content : hasContent host value = .ok false) : isErrorEnvelope host value = false := by
  rw [isErrorEnvelope]
  rw [hasContent] at content
  cases listed : entries host value with
  | error exc => rfl
  | ok items =>
      rw [listed] at content
      have missing : (items.lookup "content").isSome = false := Except.ok.inj content
      simp only [missing, Bool.false_and]

theorem lookup_replace {items : List (String × Value)} {key other : String} {value : Value}
    (different : other ≠ key) :
    (items.map fun item => if item.1 = key then (key, value) else item).lookup other =
      items.lookup other := by
  have missed : (other == key) = false := beq_eq_false_iff_ne.mpr different
  induction items with
  | nil => rfl
  | cons item items induction =>
      rw [List.map_cons]
      split
      case isTrue same =>
        rw [List.lookup_cons, List.lookup_cons, same, missed]
        exact induction
      case isFalse =>
        rw [List.lookup_cons, List.lookup_cons, induction]

theorem lookup_setKey {items : List (String × Value)} {key other : String} {value : Value}
    (different : other ≠ key) : (setKey items key value).lookup other = items.lookup other := by
  have missed : (other == key) = false := beq_eq_false_iff_ne.mpr different
  rw [setKey]
  split
  case isTrue => exact lookup_replace different
  case isFalse =>
    rw [List.lookup_append, List.lookup_cons, missed, List.lookup_nil, Option.or_none]

/-- New diagnostics leave the rest of a dictionary as it is. -/
theorem setKey_diagnostics (items : List (String × Value)) (diagnostics : Value) :
    hasContent host (.dict (setKey items "diagnostics" diagnostics)) =
        hasContent host (.dict items) ∧
      isErrorEnvelope host (.dict (setKey items "diagnostics" diagnostics)) =
        isErrorEnvelope host (.dict items) := by
  have content : (setKey items "diagnostics" diagnostics).lookup "content" =
      items.lookup "content" := lookup_setKey (by decide)
  have isError : (setKey items "diagnostics" diagnostics).lookup "isError" =
      items.lookup "isError" := lookup_setKey (by decide)
  constructor
  · simp only [hasContent, entries, bind, Except.bind, content]
  · simp only [isErrorEnvelope, entries, content, isError]

/-- A result that takes the warnings keeps its other entries. -/
theorem addWarnings_spec {text : String} {value : Value}
    (present : hasContent host value = .ok true) :
    failure (addWarnings host text value) = refusesWarnings host value ∧
      ∀ result, addWarnings host text value = .ok result → hasContent host result = .ok true ∧
        isErrorEnvelope host result = isErrorEnvelope host value := by
  cases value with
  | dict items =>
      rw [addWarnings, refusesWarnings]
      cases items.lookup "diagnostics" with
      | none =>
          refine ⟨rfl, ?_⟩
          rintro result ⟨⟩
          rw [(setKey_diagnostics items _).1, (setKey_diagnostics items _).2]
          exact ⟨present, rfl⟩
      | some diagnostics =>
          cases diagnostics with
          | dict entries =>
              refine ⟨rfl, ?_⟩
              rintro result ⟨⟩
              rw [(setKey_diagnostics items _).1, (setKey_diagnostics items _).2]
              exact ⟨present, rfl⟩
          | object identity =>
              cases changed : host.setItem identity with
              | error exc =>
                  simp only [changed]
                  exact ⟨rfl, by rintro result ⟨⟩⟩
              | ok done =>
                  simp only [changed]
                  refine ⟨rfl, ?_⟩
                  rintro result ⟨⟩
                  exact ⟨present, rfl⟩
          | none | bool | int | str | list => exact ⟨rfl, by rintro result ⟨⟩⟩
  | object identity =>
      rw [addWarnings, refusesWarnings]
      cases host.setWarnings identity with
      | error exc => exact ⟨rfl, by rintro result ⟨⟩⟩
      | ok done =>
          refine ⟨rfl, ?_⟩
          rintro result ⟨⟩
          exact ⟨present, rfl⟩
  | none | bool | int | str | list => cases present

/-- What comes after the wrapping. -/
theorem shape_wrapped {wrapped : Value} (warnings : List PyWarning)
    (present : hasContent host wrapped = .ok true) :
    let rest : Except ToolException Value := do
      let caught ← (relevant warnings).mapM (describe host)
      if caught.isEmpty then return wrapped else addWarnings host ("\n".intercalate caught) wrapped
    failure rest = ((relevant warnings).findSome? (unprintable host)).or
        (if (relevant warnings).isEmpty then none else refusesWarnings host wrapped) ∧
      ∀ result, rest = .ok result → hasContent host result = .ok true ∧
        isErrorEnvelope host result = isErrorEnvelope host wrapped := by
  intro rest
  have printed := @failure_mapM_describe host (relevant warnings)
  cases described : (relevant warnings).mapM (describe host) with
  | error exc =>
      have stops : rest = .error exc := by
        simp only [rest, described]
        rfl
      rw [described] at printed
      rw [← printed, stops]
      exact ⟨rfl, by rintro result ⟨⟩⟩
  | ok caught =>
      have length := length_of_mapM described
      have goesOn : rest = if (relevant warnings).isEmpty then .ok wrapped
          else addWarnings host ("\n".intercalate caught) wrapped := by
        have same : caught.isEmpty = (relevant warnings).isEmpty := by
          rw [Bool.eq_iff_iff, List.isEmpty_iff_length_eq_zero, List.isEmpty_iff_length_eq_zero,
            length]
        simp only [rest, described, ← same]
        rfl
      rw [described] at printed
      rw [← printed, goesOn]
      cases (relevant warnings).isEmpty with
      | true =>
          refine ⟨rfl, ?_⟩
          rintro result ⟨⟩
          exact ⟨present, rfl⟩
      | false => exact addWarnings_spec present

theorem shape_spec (value : Value) (warnings : List PyWarning) :
    failure (shape host value warnings) = obstacle host value warnings ∧
      ∀ result, shape host value warnings = .ok result → hasContent host result = .ok true ∧
        isErrorEnvelope host result = isErrorEnvelope host value := by
  cases content : hasContent host value with
  | error exc =>
      have stops : shape host value warnings = .error exc := by
        rw [shape, wrap, content]
        rfl
      rw [stops, obstacle, content]
      exact ⟨rfl, by rintro result ⟨⟩⟩
  | ok present =>
      cases present with
      | true =>
          have goesOn : shape host value warnings = (do
              let caught ← (relevant warnings).mapM (describe host)
              if caught.isEmpty then return value
              else addWarnings host ("\n".intercalate caught) value) := by
            rw [shape, wrap, content]
            rfl
          have rest := shape_wrapped warnings content
          rw [goesOn, obstacle, content]
          refine ⟨rest.1.trans ?_, rest.2⟩
          cases (relevant warnings).isEmpty <;> rfl
      | false =>
          cases printed : host.str value with
          | error exc =>
              have stops : shape host value warnings = .error exc := by
                rw [shape, wrap, content, printed]
                rfl
              rw [stops, obstacle, content, printed]
              exact ⟨rfl, by rintro result ⟨⟩⟩
          | ok text =>
              have goesOn : shape host value warnings = (do
                  let caught ← (relevant warnings).mapM (describe host)
                  if caught.isEmpty then return toolText text
                  else addWarnings host ("\n".intercalate caught) (toolText text)) := by
                rw [shape, wrap, content, printed]
                rfl
              have rest := @shape_wrapped host (toolText text) warnings rfl
              have same : isErrorEnvelope host value = isErrorEnvelope host (toolText text) := by
                rw [isErrorEnvelope_of_hasContent content]
                rfl
              rw [goesOn, obstacle, content, printed, same]
              refine ⟨rest.1.trans ?_, rest.2⟩
              cases (relevant warnings).isEmpty <;> rfl

theorem returns_answered {exc : ToolException} {failed : Prop} (isFailed : failed) :
    (∃ value, answered host exc = .ok value ∧ hasContent host value = .ok true ∧
      (isErrorEnvelope host value = true ↔ failed)) ↔ Answerable host exc := by
  rw [← answer_isSome]
  constructor
  · rintro ⟨value, returned, _⟩
    rw [answered] at returned
    cases given : answer host exc with
    | none =>
        rw [given] at returned
        cases returned
    | some value => exact ⟨value, rfl⟩
  · rintro ⟨value, given⟩
    rcases isErrorEnvelope_of_answer given with ⟨content, envelope⟩
    exact ⟨value, by rw [answered, given], content, iff_of_true envelope isFailed⟩

theorem returns_execute_iff (tool : Tool) (arguments : Value) :
    Returns host (runTool host tool arguments) (execute host tool arguments) ↔
      Unhindered host (runTool host tool arguments) := by
  rw [Returns, Unhindered, HasFailed, execute]
  cases (runTool host tool arguments).result with
  | error exc => exact returns_answered trivial
  | ok value =>
      simp only
      have shaped := @shape_spec host value (runTool host tool arguments).warnings
      cases outcome : shape host value (runTool host tool arguments).warnings with
      | ok result =>
          rw [outcome] at shaped
          have kept := shaped.2 result rfl
          have free : obstacle host value (runTool host tool arguments).warnings = none :=
            shaped.1.symm
          simp only [settle, free, Option.mem_def, reduceCtorEq, false_imp_iff, implies_true,
            iff_true]
          exact ⟨result, rfl, kept.1, by rw [kept.2]⟩
      | error exc =>
          rw [outcome] at shaped
          have met : obstacle host value (runTool host tool arguments).warnings = some exc :=
            shaped.1.symm
          simp only [settle, met, Option.mem_def, Option.some.injEq, forall_eq']
          constructor
          · rintro ⟨result, returned, content, same⟩
            have envelope : isErrorEnvelope host result = true := by
              rw [answered] at returned
              cases given : answer host exc with
              | none =>
                  rw [given] at returned
                  cases returned
              | some answer =>
                  rw [given] at returned
                  cases returned
                  exact (isErrorEnvelope_of_answer given).2
            have failed := same.mp envelope
            exact ⟨failed, (returns_answered failed).mp ⟨result, returned, content, same⟩⟩
          · rintro ⟨failed, answerable⟩
            exact (returns_answered failed).mpr answerable

/-- For a tool that was found and that the caller may run. -/
theorem run_returns_iff (host : Host) (registries : Registries) (toolName : String)
    (arguments : Value) (caller : Caller) (tool : Tool)
    (resolved : found registries toolName caller = some tool)
    (authorised : refusal tool toolName caller = none) :
    Returns host (runTool host tool arguments)
        (callToolDirect host registries toolName arguments caller) ↔
      Unhindered host (runTool host tool arguments) := by
  rw [callToolDirect, resolved]
  simp only [authorised]
  exact returns_execute_iff tool arguments

end Results

/-! ### Two runs -/

def printed : Value → String
  | .str text => text
  | _ => "1"

/-- No editable code, and objects that can do nothing. -/
def exampleHost (call : Func → Value → Ran Value) : Host where
  str value := .ok (printed value)
  lower text := text
  isTruthy _ := .ok true
  number _ := none
  fspath _ := none
  rstrip _ := none
  entries _ := .ok []
  setItem _ := .error (typeError "object does not support item assignment")
  setWarnings _ := .error (typeError "object has no attribute 'setdefault'")
  isTrue _ := true
  hasRoom _ := true
  root := ["srv"]
  resolve path := path.components
  isFile _ := .ok false
  compile _ := .ofExcept (.ok ())
  exec _ := .ofExcept (.ok none)
  call := call

def bareTool : Tool :=
  { func := 0, name := "add", description := "", inputSchema := .none }

/-- The sum, with a note in the diagnostics and a warning. -/
def warnedRun : Ran Value where
  result := .ok (.dict [("content", .list []), ("diagnostics", .dict [("note", .str "carry")])])
  warnings :=
    [{ filename := .str "/srv/tools/add.py", lineno := .int 1, category := "UserWarning"
       isDeprecation := false, message := .str "large" }]

theorem run_returns_warned :
    Returns (exampleHost fun _ _ => warnedRun)
      (runTool (exampleHost fun _ _ => warnedRun) bareTool (.dict []))
      (callToolDirect (exampleHost fun _ _ => warnedRun) (({} : Registries).registerTool bareTool)
        "add" (.dict []) {}) := by
  apply (run_returns_iff _ (({} : Registries).registerTool bareTool) "add" (.dict []) {} bareTool
    rfl rfl).mpr
  intro exc met
  cases met

/-- An import error without a message. -/
def blankImportError : ToolException where
  name := "ImportError"
  str := some ""
  traceback := some "ImportError"

theorem blank_import_error_escapes :
    ¬ ∀ host registries toolName arguments caller tool,
      found registries toolName caller = some tool → refusal tool toolName caller = none →
        Returns host (runTool host tool arguments)
          (callToolDirect host registries toolName arguments caller) := by
  intro claimed
  rcases claimed (exampleHost fun _ _ => .ofExcept (.error blankImportError))
    (({} : Registries).registerTool bareTool) "add" (.dict []) {} bareTool rfl rfl with
    ⟨value, returned, _⟩
  cases returned

end GrafuxMcp.ToolExecutor
