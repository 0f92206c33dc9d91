import GrafuxMcp.Foundation.Program
import GrafuxMcp.Models.Database

/-! # Operations of the execution service

Everything `app/services/execution_service.py` awaits or calls outside itself:
the database session, the event bus transport, the router, the semaphore, the
cancellation registry and the clock.
-/

namespace GrafuxMcp.Execution

open GrafuxMcp

inductive EventType
  | log
  | result
  | error
deriving DecidableEq, Repr

inductive LogLevel
  | info
  | warn
  | error
deriving DecidableEq, Repr

/-- The `data` of an event. -/
inductive EventData
  | log (level : LogLevel) (message : String)
  | result (value : Value)
  | error (message : String)

/-- The payload `{"type": ..., "data": ..., "final": ...}`. -/
structure BusEvent where
  type : EventType
  data : EventData
  final : Bool

/-- The values of an `update(MCPInvocation).where(id == ref.id)`. -/
structure InvocationUpdate where
  id : Uuid
  status : InvocationStatus
  output : Option Value := none
  errorMessage : Option String := none

/-- A float that is only handed on and printed: the text Python gives it. -/
structure Seconds where
  text : String
deriving DecidableEq, Repr

/-- The arguments of one `execution_router.route(...)`. -/
structure RouteCall where
  serverType : ServerType
  toolName : String
  arguments : List (String × Value)
  invocationId : Text
  orgId : Text
  projectId : Option Text
  username : Option String
  project : Option String
  category : Option String
  serverConfig : Option (List (String × Value))
  endpointUrl : Option String
  timeout : Seconds

inductive Op
  /-- `async with self._get_semaphore()`, entered and left. -/
  | acquire
  | release
  | register (invocationId : Text)
  | unregister (invocationId : Text)
  /-- `cancel_event.is_set()`. -/
  | isSet
  /-- The tool row of an id with its server, by one joined query. -/
  | selectTool (toolId : Uuid)
  | add (invocation : MCPInvocation)
  /-- `db.refresh(invocation)`, which reads the generated id back. -/
  | refresh
  | execute (update : InvocationUpdate)
  | commit
  | closeSession
  /-- `json.dumps` of an event payload. -/
  | dumps (event : BusEvent)
  /-- `redis.publish(channel, payload)`. -/
  | publish (channel : Text) (event : BusEvent)
  | route (call : RouteCall)
  /-- `asyncio.sleep(_backoff_seconds(attempt))`. -/
  | sleep (attempt : Nat)

@[reducible] def Op.Answer : Op → Type
  | .isSet => Bool
  | .selectTool _ => Option (MCPTool × Option MCPServer)
  | .refresh => Uuid
  | .route _ => Value
  | _ => Unit

/-- What an operation may raise. An await may be interrupted by a cancellation;
database and Redis calls may raise any `Exception`; the backend may raise
anything, since a tool of its own may call `sys.exit()`. Only the caller's own
result can fail to serialise. -/
def Op.mayRaise : Op → Exc → Bool
  | .acquire, exc | .sleep _, exc => exc.isCancelled
  | .selectTool _, exc | .refresh, exc | .execute _, exc | .commit, exc
  | .closeSession, exc | .publish _ _, exc => exc.isException || exc.isCancelled
  | .dumps event, exc => decide (event.type = .result) && exc.isException
  | .route _, _ => true
  | .release, _ | .register _, _ | .unregister _, _ | .isSet, _ | .add _, _ =>
      false

namespace Op

def isRoute : Op → Bool
  | .route _ => true
  | _ => false

def isPublish : Op → Bool
  | .publish _ _ => true
  | _ => false

def isSleep : Op → Bool
  | .sleep _ => true
  | _ => false

/-- A status write: the statement or its commit. -/
def writesRow : Op → Bool
  | .execute _ | .commit => true
  | _ => false

/-- The call that sends the result event. -/
def sendsResult : Op → Bool
  | .publish _ event => decide (event.type = .result)
  | _ => false

end Op

/-- The interface of the execution service to its surroundings. -/
@[reducible] def effects : Interface where
  Op := Op
  Answer := Op.Answer
  Exc := Exc
  mayRaise := Op.mayRaise

abbrev Run (α : Type) := Program effects α

abbrev RunEvent := Event effects

@[reducible] def perform (op : Op) : Run op.Answer :=
  Program.call (I := effects) op

/-- `cancel_event.is_set()`. -/
def isSet : Run Bool := perform .isSet

/-- `execution_router.route(...)`. -/
def route (call : RouteCall) : Run Value := perform (.route call)

end GrafuxMcp.Execution
