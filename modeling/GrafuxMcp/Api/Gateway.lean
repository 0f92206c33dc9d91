import GrafuxMcp.Api.Legacy
import GrafuxMcp.Foundation.StatefulPrograms
import Mathlib.Data.List.Forall2

/-! # The WebSocket gateway

`app/api/ws/gateway.py`: the loop over the frames of an accepted client. The state of the
programs is what has been sent; every send succeeds. -/

namespace GrafuxMcp.Gateway

open GrafuxMcp Stateful

/-! ### Messages and exceptions -/

/-- An exception, and its text unless `str(exc)` raises. -/
structure Raised where
  cls : ExcClass
  text : Option String

/-- `except Exception` catches the exception and can quote it. -/
structure Raised.Quotable (exc : Raised) : Prop where
  isException : exc.cls.mro.contains .Exception = true
  printable : exc.text.isSome = true

/-- An exception of Python's own operations on JSON data. -/
structure Fault where
  raised : Raised
  quotable : raised.Quotable

inductive Error
  /-- `_JsonRpcError`. -/
  | jsonRpc (code : Int) (message : String) (data : Option Value)
  | raised (exc : Raised)

/-- One of the two except clauses catches it and can answer. -/
def Error.Caught : Error → Prop
  | .jsonRpc _ _ _ => True
  | .raised exc => exc.Quotable

def typeError (text : String) : Error := .raised ⟨.TypeError, some text⟩

inductive Message
  | ok (requestId result : Value)
  | err (requestId : Value) (code : Int) (message : String) (data : Option Value)
  | notification (method : String) (params : Option Value)

namespace Message

/-- The id of a message that has a result or an error. -/
def answers : Message → Option Value
  | .ok requestId _ => some requestId
  | .err requestId _ _ _ => some requestId
  | .notification _ _ => none

end Message

abbrev Program := ExceptT Error (StateM (List Message))

/-- `websocket.send_text` -/
def send (message : Message) : Program PUnit :=
  modify fun sent => sent ++ [message]

def lift {α : Type} : Except Error α → Program α
  | .ok value => pure value
  | .error error => throw error

/-! ### What a frame meets -/

/-- `json.loads(raw)`. -/
inductive Loaded
  | value (value : Value)
  | decodeError (text : String)
  | raised (exc : Raised)

abbrev Dict := List (String × Value)

structure Resource where
  name : String
  description : Option String := none
  mimeType : Option String := none
  content : Option String := none

/-- A frame and the outcomes of what its handling calls. -/
structure TextFrame where
  loads : Loaded
  /-- The truth of a fraction. -/
  objectIsTrue : Nat → Bool
  str : Value → Except Fault String
  /-- What `json.dumps` raises on a response with this result. -/
  unencodable : Value → Option Fault
  pluginsLoaded : Bool
  toolsCount : Nat
  listLocalTools : Except Raised Value
  resources : List (String × Resource)
  /-- The call on a thread, under its time limit. -/
  callToolDirect : Value → Dict → Except Raised Dict
  /-- The result with its output files. -/
  withOutputFiles : Dict → Except Raised Dict
  reloadPlugins : Except Raised (Dict)
  serverStatuses : Except Raised (List Value)
  syncAll : Dict → Except Raised Dict
  syncTool : Dict → Except Raised Dict
  /-- What `event_bus.subscribe` yields, and the exception that ends it, if there is one. -/
  events : List Value
  busError : Option Raised

namespace TextFrame

variable (frame : TextFrame)

def isTrue (value : Value) : Bool := Legacy.isTrue frame.objectIsTrue value

/-- `items.get(key)` -/
def item (items : Dict) (key : String) : Value :=
  (items.lookup key).getD .none

def raising {α : Type} : Except Raised α → Except Error α
  | .ok value => .ok value
  | .error exc => .error (.raised exc)

/-- The value in an f-string. -/
def format (value : Value) : Except Error String :=
  match frame.str value with
  | .ok text => .ok text
  | .error fault => .error (.raised fault.raised)

/-- `_ok` -/
def ok (requestId result : Value) : Except Error Message :=
  match frame.unencodable result with
  | none => .ok (.ok requestId (if frame.isTrue result then result else .dict []))
  | some fault => .error (.raised fault.raised)

/-! #### Handlers -/

def timedOut (toolName : Value) : Except Error Dict := do
  let name ← frame.format toolName
  return [
    ("content", .list [.dict [("type", .str "text"),
      ("text", .str ("Tool '" ++ name ++ "' timed out after 120s"))]]),
    ("isError", .bool true), ("error", .str "tool_timeout")]

def handleToolsCall (params : Dict) : Except Error Dict :=
  let toolName := item params "name"
  let arguments := item params "arguments"
  if frame.isTrue toolName then
    match if frame.isTrue arguments then arguments else .dict [] with
    | .dict arguments =>
        match frame.callToolDirect toolName arguments with
        | .error exc =>
            if exc.cls.mro.contains .TimeoutError then frame.timedOut toolName
            else .error (.raised exc)
        | .ok result => raising (frame.withOutputFiles result)
    | _ => .error (.jsonRpc (-32602) "arguments must be an object" none)
  else .error (.jsonRpc (-32602) "Missing required param: name" none)

def handleReload : Except Error Dict := do
  let counts ← raising frame.reloadPlugins
  let count := fun key => (counts.lookup key).getD (.int 0)
  return [("success", .bool true), ("tools", count "tools"),
    ("resources", count "resources"), ("prompts", count "prompts"), ("counts", .dict counts)]

def listed (uri : String) (info : Resource) : Value :=
  .dict [("uri", .str uri), ("name", .str info.name),
    ("description", .str (info.description.getD "")),
    ("mimeType", .str (info.mimeType.getD "text/plain"))]

/-- `uri in RESOURCES`, and what is there. -/
def resource : Value → Except Error (Option Resource)
  | .str uri => .ok (frame.resources.lookup uri)
  | .list _ => .error (typeError "unhashable type: 'list'")
  | .dict _ => .error (typeError "unhashable type: 'dict'")
  | _ => .ok none

def readResource (params : Dict) : Except Error Dict := do
  let uri := item params "uri"
  let found ← if frame.isTrue uri then frame.resource uri else .ok none
  match found with
  | some info =>
      return [("contents", .list [.dict [("uri", uri),
        ("mimeType", .str (info.mimeType.getD "text/plain")),
        ("text", .str (info.content.getD ""))]])]
  | none =>
      let text ← frame.format uri
      throw (.jsonRpc (-32602) ("Unknown resource: " ++ text) none)

def handleSyncTool (params : Dict) : Except Error Dict :=
  if frame.isTrue (item params "username") && frame.isTrue (item params "project") &&
      frame.isTrue (item params "tool_name") then raising (frame.syncTool params)
  else .error (.jsonRpc (-32602) "Missing username, project, or tool_name" none)

/-- `_dispatch`, apart from `invocation/stream`. -/
def handle (method : Value) (params : Dict) : Except Error Dict :=
  match method with
  | .str "ping" => .ok []
  | .str "initialize" =>
      .ok [("status", .str "healthy"), ("initialized", .bool frame.pluginsLoaded),
        ("tools_count", .int frame.toolsCount),
        ("serverInfo", .dict [("name", .str "Grafux-mcp"), ("version", .str "2.0.0")])]
  | .str "tools/list" => do
      let tools ← raising frame.listLocalTools
      return [("tools", tools)]
  | .str "tools/call" => frame.handleToolsCall params
  | .str "server/reload" => frame.handleReload
  | .str "resources/list" =>
      .ok [("resources", .list (frame.resources.map fun entry => listed entry.1 entry.2))]
  | .str "resources/read" => frame.readResource params
  | .str "server/status" => do
      let statuses ← raising frame.serverStatuses
      return [("servers", .list statuses)]
  | .str "sync/all" => raising (frame.syncAll params)
  | .str "sync/tool" => frame.handleSyncTool params
  | method => do
      let text ← frame.format method
      throw (.jsonRpc (-32601) ("Unknown method: " ++ text) none)

/-- `stream_manager.subscribe_invocation`, which looks the id up. -/
def subscribeInvocation : Value → Except Error Unit
  | .list _ => .error (typeError "unhashable type: 'list'")
  | .dict _ => .error (typeError "unhashable type: 'dict'")
  | _ => .ok ()

/-- `{"invocation_id": invocation_id, **event}`. -/
def eventParams (invocationId : Value) (event : Dict) : Value :=
  .dict (("invocation_id", (event.lookup "invocation_id").getD invocationId) ::
    event.filter fun item => item.1 != "invocation_id")

/-- The loop over the events. -/
def streamEvents (invocationId : Value) : List Value → Program PUnit
  | [] =>
      match frame.busError with
      | none => pure ⟨⟩
      | some exc => throw (.raised exc)
  | .dict event :: events => do
      send (.notification "invocation/event" (some (eventParams invocationId event)))
      if frame.isTrue (item event "final") then pure ⟨⟩ else streamEvents invocationId events
  | _ :: _ => throw (typeError "object is not a mapping")

def handleInvocationStream (params : Dict) (requestId : Value) :
    Program PUnit :=
  let invocationId := item params "invocation_id"
  if frame.isTrue invocationId then do
    lift (subscribeInvocation invocationId)
    send (.ok requestId (.dict [("subscribed", .bool true), ("invocation_id", invocationId)]))
    frame.streamEvents invocationId frame.events
  else send (.err requestId (-32602) "Missing invocation_id" none)

/-! #### The loop -/

/-- `_dispatch`; the stream has answered by itself. -/
def dispatch (method : Value) (params : Dict) (requestId : Value) : Program (Option Dict) :=
  match method with
  | .str "invocation/stream" => do
      frame.handleInvocationStream params requestId
      return none
  | method => do
      let result ← lift (frame.handle method params)
      return some result

/-- The two except clauses. -/
def onError (requestId : Value) : Error → Program PUnit
  | .jsonRpc code message data => send (.err requestId code message data)
  | .raised exc =>
      if exc.cls.mro.contains .Exception then
        match exc.text with
        | some text => send (.err requestId (-32603) text none)
        | none => throw (.raised exc)
      else throw (.raised exc)

def respond (requestId : Value) : Option Dict → Program PUnit
  | none => pure ⟨⟩
  | some result => do
      let message ← lift (frame.ok requestId (.dict result))
      send message

/-- `params` of a request, if they are an object. -/
def params (items : Dict) : Option Dict :=
  match if frame.isTrue (item items "params") then item items "params" else .dict [] with
  | .dict params => some params
  | _ => none

def onRequest (items : Dict) : Program PUnit :=
  let requestId := item items "id"
  match frame.params items with
  | some params =>
      tryCatch (do
        let result ← frame.dispatch (item items "method") params requestId
        frame.respond requestId result) (onError requestId)
  | none => send (.err requestId (-32602) "params must be an object" none)

def onFrame : Program PUnit :=
  match frame.loads with
  | .decodeError text => send (.err .none (-32700) ("Parse error: " ++ text) none)
  | .raised exc => throw (.raised exc)
  | .value (.dict items) => frame.onRequest items
  | .value _ => send (.err .none (-32600) "Request must be a JSON object" none)

/-- The id of a request, and null for every other frame. -/
def requestId : Value :=
  match frame.loads with
  | .value (.dict items) => item items "id"
  | _ => .none

end TextFrame

/-- A frame, or thirty seconds without one. -/
inductive Received
  | frame (received : TextFrame)
  | timeout

def Received.program : Received → Program PUnit
  | .frame received => received.onFrame
  | .timeout => send (.notification "ping" none)

/-- What is sent in each turn of the loop, and the exception that ends it. -/
def websocketGateway : List Received → List (List Message) × Option Error
  | [] => ([], none)
  | received :: rest =>
      match received.program.run.run [] with
      | (.error error, sent) => ([sent], some error)
      | (.ok _, sent) =>
          let later := websocketGateway rest
          (sent :: later.1, later.2)

/-! ### The property and the condition -/

/-- The ids of the responses among the messages. -/
def answered (messages : List Message) : List Value :=
  messages.filterMap Message.answers

/-- A frame has one response, with the id of the request. -/
def Received.Answered (received : Received) (sent : List Message) : Prop :=
  match received with
  | .frame received => answered sent = [received.requestId]
  | .timeout => answered sent = []

/-- No frame ends the loop, and each is answered. -/
def OneResponseEach (received : List Received) : Prop :=
  (websocketGateway received).2 = none ∧
    List.Forall₂ Received.Answered received (websocketGateway received).1

namespace TextFrame

variable (frame : TextFrame)

/-- The method and the params of a frame that is dispatched. -/
def request : Option (Value × Dict) :=
  match frame.loads with
  | .value (.dict items) => (frame.params items).map fun params => (item items "method", params)
  | _ => none

/-- Up to the first final event all events are objects, and without a final one the
subscription ends by itself. -/
def quiet : List Value → Bool
  | [] => frame.busError.isNone
  | .dict event :: events => frame.isTrue (item event "final") || quiet events
  | _ :: _ => false

/-- The request subscribes to the events of an invocation. -/
def Subscribes (params : Dict) : Prop :=
  frame.isTrue (item params "invocation_id") = true ∧
    subscribeInvocation (item params "invocation_id") = .ok ()

structure Regular : Prop where
  /-- The text can be read, or `json` says that it cannot. -/
  readable : ∀ exc, frame.loads ≠ .raised exc
  /-- What a handler raises can be caught and quoted. -/
  caught : ∀ method params, frame.request = some (method, params) →
    method ≠ .str "invocation/stream" →
    ∀ exc, frame.handle method params = .error (.raised exc) → exc.Quotable
  /-- Nothing fails once a subscription is acknowledged. -/
  undisturbed : ∀ params, frame.request = some (.str "invocation/stream", params) →
    frame.Subscribes params → frame.quiet frame.events = true

end TextFrame

/-! ### What programs send -/

/-- The program ends with this result and sends these messages. -/
def Sends {α : Type} (program : Program α) (result : Except Error α) (messages : List Message) :
    Prop :=
  Ends program result fun sent => sent ++ messages

section Rules

variable {α β : Type} {program : Program α} {next : α → Program β} {value : α} {error : Error}
  {result : Except Error β} {messages more : List Message}

theorem sends_pure (value : α) : Sends (pure value) (.ok value) [] := by
  intro sent
  dsimp only
  rw [List.append_nil]
  rfl

theorem sends_throw (error : Error) : Sends (throw error : Program α) (.error error) [] := by
  intro sent
  dsimp only
  rw [List.append_nil]
  rfl

theorem sends_send (message : Message) : Sends (send message) (.ok ⟨⟩) [message] :=
  ends_modify _

theorem sends_lift (outcome : Except Error α) : Sends (lift outcome) outcome [] := by
  cases outcome with
  | ok value => exact sends_pure value
  | error error => exact sends_throw error

theorem Sends.bind (first : Sends program (.ok value) messages)
    (rest : Sends (next value) result more) :
    Sends (program >>= next) result (messages ++ more) := by
  intro sent
  rw [ends_bind first rest sent, Function.comp_apply, List.append_assoc]

theorem Sends.bind_error (first : Sends program (.error error) messages) :
    Sends (program >>= next) (.error error) messages :=
  ends_bind_error first

theorem Sends.tryCatch {handler : Error → Program α} (body : Sends program (.ok value) messages) :
    Sends (MonadExcept.tryCatch program handler) (.ok value) messages :=
  ends_tryCatch body

theorem Sends.tryCatch_error {handler : Error → Program α} {final : Except Error α}
    (body : Sends program (.error error) messages) (handled : Sends (handler error) final more) :
    Sends (MonadExcept.tryCatch program handler) final (messages ++ more) := by
  intro sent
  have ends : Ends (MonadExcept.tryCatch program handler) final _ :=
    ends_tryCatch_error body handled
  rw [ends sent, Function.comp_apply, List.append_assoc]

end Rules

/-- The program returns, having sent one response, which has this id. -/
def Replies (program : Program PUnit) (requestId : Value) : Prop :=
  ∃ messages, Sends program (.ok ⟨⟩) messages ∧ answered messages = [requestId]

/-- The program raises, or what it sends is not one response with this id. -/
def Fails (program : Program PUnit) (requestId : Value) : Prop :=
  ∃ result messages, Sends program result messages ∧
    ∀ value, result = .ok value → answered messages ≠ [requestId]

section Frames

variable {frame : TextFrame} {requestId : Value}

open TextFrame

theorem replies_err (code : Int) (message : String) (data : Option Value) :
    Replies (send (.err requestId code message data)) requestId :=
  ⟨_, sends_send _, rfl⟩

/-- Events are no responses; the stream returns if it is quiet. -/
theorem sends_streamEvents (frame : TextFrame) (invocationId : Value) (events : List Value) :
    ∃ messages, answered messages = [] ∧
      (frame.quiet events = true →
        Sends (frame.streamEvents invocationId events) (.ok ⟨⟩) messages) ∧
      (frame.quiet events = false →
        ∃ error, Sends (frame.streamEvents invocationId events) (.error error) messages) := by
  induction events with
  | nil =>
      refine ⟨[], rfl, ?_⟩
      rw [streamEvents, quiet]
      cases frame.busError with
      | none => exact ⟨fun _ => sends_pure _, fun loud => absurd loud (by simp)⟩
      | some exc => exact ⟨fun silent => absurd silent (by simp), fun _ => ⟨_, sends_throw _⟩⟩
  | cons event events induction =>
      have other : (∀ items, event ≠ .dict items) → ∃ messages, answered messages = [] ∧
          (frame.quiet (event :: events) = true →
            Sends (frame.streamEvents invocationId (event :: events)) (.ok ⟨⟩) messages) ∧
          (frame.quiet (event :: events) = false →
            ∃ error, Sends (frame.streamEvents invocationId (event :: events)) (.error error)
              messages) := by
        intro noObject
        refine ⟨[], rfl, ?_⟩
        cases event with
        | dict items => exact absurd rfl (noObject items)
        | _ => exact ⟨fun silent => absurd silent (by simp [quiet]), fun _ => ⟨_, sends_throw _⟩⟩
      cases event with
      | dict items =>
          rw [quiet]
          cases final : frame.isTrue (item items "final") with
          | true =>
              refine ⟨[.notification "invocation/event" (some (eventParams invocationId items))],
                rfl, ?_, ?_⟩
              · intro _
                rw [streamEvents]
                apply (sends_send _).bind
                rw [if_pos final]
                exact sends_pure _
              · intro loud
                cases loud
          | false =>
              rcases induction with ⟨messages, silent, returns, raises⟩
              have unfinished : ¬ frame.isTrue (item items "final") = true := by simp [final]
              refine ⟨.notification "invocation/event" (some (eventParams invocationId items)) ::
                messages, silent, ?_, ?_⟩
              · intro isQuiet
                rw [streamEvents]
                apply (sends_send _).bind
                rw [if_neg unfinished]
                exact returns isQuiet
              · intro loud
                rcases raises loud with ⟨error, raised⟩
                refine ⟨error, ?_⟩
                rw [streamEvents]
                apply (sends_send _).bind
                rw [if_neg unfinished]
                exact raised
      | _ => exact other (by simp)

theorem answered_append (messages more : List Message) :
    answered (messages ++ more) = answered messages ++ answered more :=
  List.filterMap_append

theorem replies_onError (requestId : Value) {error : Error} (caught : error.Caught) :
    Replies (onError requestId error) requestId := by
  cases error with
  | jsonRpc code message data => exact replies_err code message data
  | raised exc =>
      rcases Option.isSome_iff_exists.mp caught.printable with ⟨text, printed⟩
      rw [onError, if_pos caught.isException, printed]
      exact replies_err _ _ _

theorem sends_onError_of_uncaught {error : Error} (uncaught : ¬ error.Caught) :
    Sends (onError requestId error) (.error error) [] := by
  cases error with
  | jsonRpc code message data => exact absurd trivial uncaught
  | raised exc =>
      rw [onError]
      split
      case isTrue isException =>
        cases printed : exc.text with
        | none => exact sends_throw _
        | some text =>
            exact absurd ⟨isException, Option.isSome_of_eq_some printed⟩ uncaught
      case isFalse => exact sends_throw _

section Bodies

variable {body : Program PUnit} {messages : List Message} {error : Error}

theorem replies_of_returned (sends : Sends body (.ok ⟨⟩) messages)
    (one : answered messages = [requestId]) :
    Replies (MonadExcept.tryCatch body (onError requestId)) requestId :=
  ⟨messages, sends.tryCatch, one⟩

theorem replies_of_caught (sends : Sends body (.error error) []) (caught : error.Caught) :
    Replies (MonadExcept.tryCatch body (onError requestId)) requestId := by
  rcases replies_onError requestId caught with ⟨messages, handled, one⟩
  exact ⟨[] ++ messages, sends.tryCatch_error handled, one⟩

theorem fails_of_uncaught (sends : Sends body (.error error) messages)
    (uncaught : ¬ error.Caught) :
    Fails (MonadExcept.tryCatch body (onError requestId)) requestId := by
  refine ⟨_, _, sends.tryCatch_error (sends_onError_of_uncaught uncaught), ?_⟩
  intro value returned
  cases returned

/-- An exception behind a response leads to a second response, if to any. -/
theorem fails_of_second (sends : Sends body (.error error) messages)
    (one : answered messages = [requestId]) :
    Fails (MonadExcept.tryCatch body (onError requestId)) requestId := by
  by_cases caught : error.Caught
  · rcases replies_onError requestId caught with ⟨more, handled, second⟩
    refine ⟨_, _, sends.tryCatch_error handled, ?_⟩
    intro value _ same
    rw [answered_append, one, second] at same
    cases same
  · exact fails_of_uncaught sends caught

end Bodies

/-! ### The handling of a frame -/

/-- What a request runs under the two except clauses. -/
def handled (frame : TextFrame) (method : Value) (params : Dict) (requestId : Value) :
    Program PUnit := do
  let result ← frame.dispatch method params requestId
  frame.respond requestId result

section Handled

variable {method : Value} {params : Dict}

theorem sends_dispatch (frame : TextFrame) (params : Dict) (requestId : Value)
    (other : method ≠ .str "invocation/stream") :
    Sends (frame.dispatch method params requestId) ((frame.handle method params).map some) [] := by
  have dispatched : frame.dispatch method params requestId = (do
      let result ← lift (frame.handle method params)
      return some result) := by
    unfold dispatch
    split
    · exact absurd rfl other
    · rfl
  have outcome := sends_lift (frame.handle method params)
  rw [dispatched]
  cases result : frame.handle method params with
  | error error =>
      rw [result] at outcome
      exact outcome.bind_error
  | ok value =>
      rw [result] at outcome
      exact outcome.bind (sends_pure (some value))

theorem sends_handled_error (other : method ≠ .str "invocation/stream") {error : Error}
    (outcome : frame.handle method params = .error error) :
    Sends (handled frame method params requestId) (.error error) [] := by
  have dispatched := sends_dispatch frame params requestId other
  rw [outcome] at dispatched
  exact dispatched.bind_error

/-- A result that cannot be encoded is answered by an error. -/
theorem replies_respond (frame : TextFrame) (result : Dict) (requestId : Value) :
    (∃ message, Sends (frame.respond requestId (some result)) (.ok ⟨⟩) [message] ∧
        message.answers = some requestId) ∨
      ∃ error, Sends (frame.respond requestId (some result)) (.error error) [] ∧
        error.Caught := by
  have encoded := sends_lift (frame.ok requestId (.dict result))
  rw [respond]
  cases fault : frame.unencodable (.dict result) with
  | none =>
      left
      rw [TextFrame.ok, fault] at encoded ⊢
      exact ⟨_, encoded.bind (sends_send _), rfl⟩
  | some fault' =>
      right
      rw [TextFrame.ok, fault] at encoded ⊢
      exact ⟨_, encoded.bind_error, fault'.quotable⟩

theorem replies_handled (other : method ≠ .str "invocation/stream")
    (caught : ∀ exc, frame.handle method params = .error (.raised exc) → exc.Quotable) :
    Replies (MonadExcept.tryCatch (handled frame method params requestId) (onError requestId))
      requestId := by
  cases outcome : frame.handle method params with
  | error error =>
      have isCaught : error.Caught := by
        cases error with
        | jsonRpc code message data => trivial
        | raised exc => exact caught exc outcome
      exact replies_of_caught (sends_handled_error other outcome) isCaught
  | ok result =>
      have dispatched := sends_dispatch frame params requestId other
      rw [outcome] at dispatched
      rcases replies_respond frame result requestId with
        ⟨message, sends, one⟩ | ⟨error, sends, isCaught⟩
      · apply replies_of_returned (dispatched.bind sends)
        simp [answered, one]
      · exact replies_of_caught (dispatched.bind sends) isCaught

theorem fails_handled (other : method ≠ .str "invocation/stream") {exc : Raised}
    (outcome : frame.handle method params = .error (.raised exc)) (uncaught : ¬ exc.Quotable) :
    Fails (MonadExcept.tryCatch (handled frame method params requestId) (onError requestId))
      requestId :=
  fails_of_uncaught (sends_handled_error other outcome) uncaught

theorem sends_stream {messages : List Message}
    (sends : Sends (frame.handleInvocationStream params requestId) (.ok ⟨⟩) messages) :
    Sends (handled frame (.str "invocation/stream") params requestId) (.ok ⟨⟩) messages := by
  have dispatched : Sends (frame.dispatch (.str "invocation/stream") params requestId) (.ok none)
      (messages ++ []) := sends.bind (sends_pure none)
  have both : Sends (handled frame (.str "invocation/stream") params requestId) (.ok ⟨⟩)
      (messages ++ [] ++ []) := dispatched.bind (sends_pure _)
  rw [List.append_nil, List.append_nil] at both
  exact both

theorem sends_stream_error {error : Error} {messages : List Message}
    (sends : Sends (frame.handleInvocationStream params requestId) (.error error) messages) :
    Sends (handled frame (.str "invocation/stream") params requestId) (.error error) messages := by
  have dispatched : Sends (frame.dispatch (.str "invocation/stream") params requestId)
      (.error error) messages := sends.bind_error
  exact dispatched.bind_error

/-- An id that cannot be looked up is refused with a `TypeError`. -/
theorem subscribeInvocation_cases (invocationId : Value) :
    subscribeInvocation invocationId = .ok () ∨
      ∃ error, subscribeInvocation invocationId = .error error ∧ error.Caught := by
  cases invocationId with
  | list items => exact Or.inr ⟨_, rfl, rfl, rfl⟩
  | dict items => exact Or.inr ⟨_, rfl, rfl, rfl⟩
  | _ => exact Or.inl rfl

/-- Behind the acknowledgement only events are sent. -/
theorem sends_acknowledged (requestId : Value) (subscribes : frame.Subscribes params) :
    ∃ messages, answered messages = [requestId] ∧
      (frame.quiet frame.events = true →
        Sends (frame.handleInvocationStream params requestId) (.ok ⟨⟩) messages) ∧
      (frame.quiet frame.events = false →
        ∃ error, Sends (frame.handleInvocationStream params requestId) (.error error)
          messages) := by
  rcases sends_streamEvents frame (item params "invocation_id") frame.events with
    ⟨events, silent, returns, raises⟩
  have subscribed := sends_lift (subscribeInvocation (item params "invocation_id"))
  rw [subscribes.2] at subscribed
  refine ⟨[] ++ ([.ok requestId (.dict [("subscribed", .bool true),
    ("invocation_id", item params "invocation_id")])] ++ events), ?_, ?_, ?_⟩
  · exact congrArg (requestId :: ·) silent
  · intro isQuiet
    rw [handleInvocationStream, if_pos subscribes.1, subscribes.2]
    exact subscribed.bind ((sends_send _).bind (returns isQuiet))
  · intro loud
    rcases raises loud with ⟨error, raised⟩
    rw [handleInvocationStream, if_pos subscribes.1, subscribes.2]
    exact ⟨error, subscribed.bind ((sends_send _).bind raised)⟩

theorem replies_stream (undisturbed : frame.Subscribes params → frame.quiet frame.events = true) :
    Replies (MonadExcept.tryCatch (handled frame (.str "invocation/stream") params requestId)
      (onError requestId)) requestId := by
  cases given : frame.isTrue (item params "invocation_id") with
  | false =>
      have missing : ¬ frame.isTrue (item params "invocation_id") = true := by simp [given]
      have sends : Sends (frame.handleInvocationStream params requestId) (.ok ⟨⟩)
          [.err requestId (-32602) "Missing invocation_id" none] := by
        rw [handleInvocationStream, if_neg missing]
        exact sends_send _
      exact replies_of_returned (sends_stream sends) rfl
  | true =>
      rcases subscribeInvocation_cases (item params "invocation_id") with
        subscribed | ⟨error, refused, caught⟩
      · have subscribes : frame.Subscribes params := ⟨given, subscribed⟩
        rcases sends_acknowledged requestId subscribes with
          ⟨messages, one, returns, -⟩
        exact replies_of_returned (sends_stream (returns (undisturbed subscribes))) one
      · have outcome := sends_lift (subscribeInvocation (item params "invocation_id"))
        have sends : Sends (frame.handleInvocationStream params requestId) (.error error) [] := by
          rw [handleInvocationStream, if_pos given]
          rw [refused] at outcome ⊢
          exact outcome.bind_error
        exact replies_of_caught (sends_stream_error sends) caught

theorem fails_stream (subscribes : frame.Subscribes params)
    (loud : frame.quiet frame.events = false) :
    Fails (MonadExcept.tryCatch (handled frame (.str "invocation/stream") params requestId)
      (onError requestId)) requestId := by
  rcases sends_acknowledged requestId subscribes with ⟨messages, one, -, raises⟩
  rcases raises loud with ⟨error, raised⟩
  exact fails_of_second (sends_stream_error raised) one

end Handled

theorem regular_of_no_request (readable : ∀ exc, frame.loads ≠ .raised exc)
    (noRequest : frame.request = none) : frame.Regular := by
  constructor
  · exact readable
  · intro method params request
    rw [noRequest] at request
    cases request
  · intro params request
    rw [noRequest] at request
    cases request

/-- A request is answered as it should be just where its handling is regular. -/
theorem request_verdict {method : Value} {params : Dict} (requestId : Value)
    (readable : ∀ exc, frame.loads ≠ .raised exc)
    (request : frame.request = some (method, params)) :
    frame.Regular ∧ Replies (MonadExcept.tryCatch (handled frame method params requestId)
        (onError requestId)) requestId ∨
      ¬ frame.Regular ∧ Fails (MonadExcept.tryCatch (handled frame method params requestId)
        (onError requestId)) requestId := by
  by_cases stream : method = .str "invocation/stream"
  · rw [stream] at request ⊢
    by_cases undisturbed : frame.Subscribes params → frame.quiet frame.events = true
    · refine Or.inl ⟨⟨readable, ?_, ?_⟩, replies_stream undisturbed⟩
      · intro method' params' request' other
        rw [request] at request'
        cases request'
        exact absurd rfl other
      · intro params' request'
        rw [request] at request'
        cases request'
        exact undisturbed
    · rcases Classical.not_imp.mp undisturbed with ⟨subscribes, loud⟩
      refine Or.inr ⟨fun regular => loud (regular.undisturbed params request subscribes), ?_⟩
      exact fails_stream subscribes (Bool.eq_false_iff.mpr loud)
  · by_cases caught : ∀ exc, frame.handle method params = .error (.raised exc) → exc.Quotable
    · refine Or.inl ⟨⟨readable, ?_, ?_⟩, replies_handled stream caught⟩
      · intro method' params' request' _
        rw [request] at request'
        cases request'
        exact caught
      · intro params' request'
        rw [request] at request'
        cases request'
        exact absurd rfl stream
    · rcases not_forall.mp caught with ⟨exc, uncaught⟩
      rcases Classical.not_imp.mp uncaught with ⟨outcome, unquotable⟩
      refine Or.inr ⟨fun regular => caught (regular.caught method params request stream), ?_⟩
      exact fails_handled stream outcome unquotable

/-- A frame is answered as it should be just where its handling is regular. -/
theorem onFrame_verdict (frame : TextFrame) :
    frame.Regular ∧ Replies frame.onFrame frame.requestId ∨
      ¬ frame.Regular ∧ Fails frame.onFrame frame.requestId := by
  have noObject : ∀ value, frame.loads = .value value → (∀ items, value ≠ .dict items) →
      frame.Regular ∧ Replies frame.onFrame frame.requestId := by
    intro value loads other
    have readable : ∀ exc, frame.loads ≠ .raised exc := by
      intro exc raised
      rw [loads] at raised
      cases raised
    rw [onFrame, requestId, loads]
    cases value with
    | dict items => exact absurd rfl (other items)
    | _ =>
        refine ⟨regular_of_no_request readable ?_, replies_err _ _ _⟩
        rw [request, loads]
  cases loads : frame.loads with
  | decodeError text =>
      left
      have readable : ∀ exc, frame.loads ≠ .raised exc := by
        intro exc raised
        rw [loads] at raised
        cases raised
      rw [onFrame, requestId, loads]
      refine ⟨regular_of_no_request readable ?_, replies_err _ _ _⟩
      rw [request, loads]
  | raised exc =>
      right
      rw [onFrame, requestId, loads]
      refine ⟨fun regular => regular.readable exc loads, _, _, sends_throw _, ?_⟩
      intro value returned
      cases returned
  | value value =>
      have readable : ∀ exc, frame.loads ≠ .raised exc := by
        intro exc raised
        rw [loads] at raised
        cases raised
      cases value with
      | dict items =>
          cases given : frame.params items with
          | none =>
              left
              rw [onFrame, requestId, loads]
              dsimp only
              rw [onRequest, given]
              refine ⟨regular_of_no_request readable ?_, replies_err _ _ _⟩
              rw [request, loads]
              dsimp only
              rw [given]
              rfl
          | some params =>
              have parsed : frame.request = some (item items "method", params) := by
                rw [request, loads]
                dsimp only
                rw [given]
                rfl
              have verdict := request_verdict (item items "id") readable parsed
              rw [onFrame, requestId, loads]
              dsimp only
              rw [onRequest, given]
              exact verdict
      | _ => exact Or.inl (noObject _ loads (by simp))

end Frames

/-! ### Sequences of frames -/

theorem websocketGateway_cons {received : Received} {rest : List Received}
    {result : Except Error PUnit} {messages : List Message}
    (sends : Sends received.program result messages) :
    websocketGateway (received :: rest) =
      match result with
      | .error error => ([messages], some error)
      | .ok _ => (messages :: (websocketGateway rest).1, (websocketGateway rest).2) := by
  have ran := sends []
  dsimp only at ran
  rw [List.nil_append] at ran
  rw [websocketGateway, ran]
  cases result <;> rfl

theorem oneResponseEach_of_returned {received : Received} {rest : List Received}
    {messages : List Message} (sends : Sends received.program (.ok ⟨⟩) messages) :
    OneResponseEach (received :: rest) ↔ received.Answered messages ∧ OneResponseEach rest := by
  rw [OneResponseEach, websocketGateway_cons sends]
  dsimp only
  rw [List.forall₂_cons, OneResponseEach]
  exact and_left_comm

theorem not_oneResponseEach_of_raised {received : Received} {rest : List Received}
    {error : Error} {messages : List Message}
    (sends : Sends received.program (.error error) messages) :
    ¬ OneResponseEach (received :: rest) := by
  intro each
  have unended := each.1
  rw [websocketGateway_cons sends] at unended
  cases unended

/-- A request to stream an invocation, whose subscription loses its connection. -/
def lostBus : TextFrame where
  loads := .value (.dict [("id", .int 7), ("method", .str "invocation/stream"),
    ("params", .dict [("invocation_id", .str "42")])])
  objectIsTrue := fun _ => true
  str := fun _ => .ok ""
  unencodable := fun _ => none
  pluginsLoaded := true
  toolsCount := 0
  listLocalTools := .ok (.list [])
  resources := []
  callToolDirect := fun _ _ => .ok []
  withOutputFiles := .ok
  reloadPlugins := .ok []
  serverStatuses := .ok []
  syncAll := fun _ => .ok []
  syncTool := fun _ => .ok []
  events := []
  busError := some ⟨.ConnectionError, some "connection closed"⟩

end GrafuxMcp.Gateway
