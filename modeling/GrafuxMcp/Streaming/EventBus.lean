import GrafuxMcp.Execution.Effects

/-! # Event bus, publishing side

`EventBus.publish` of `app/core/streaming/event_bus.py` and the audit log on
top of it.
-/

namespace GrafuxMcp.Execution

open GrafuxMcp

/-- `MCPKeys.invocation_events`. -/
def invocationEvents (invocationId : Text) : Text :=
  "mcp:invocation:".toList ++ invocationId ++ ":events".toList

/-- Serialising the payload happens outside the `try`, so its failure escapes;
an `Exception` of the transport is only logged. -/
def publish (invocationId : Text) (type : EventType) (data : EventData)
    (isFinal : Bool := false) : Run Unit := do
  let payload : BusEvent := ⟨type, data, isFinal⟩
  perform (.dumps payload)
  try
    perform (.publish (invocationEvents invocationId) payload)
  catch exc =>
    if exc.isException then pure () else throw exc

def publishLog (invocationId : Text) (level : LogLevel) (message : String) :
    Run Unit :=
  publish invocationId .log (.log level message)

def publishResult (invocationId : Text) (result : Value) : Run Unit :=
  publish invocationId .result (.result result) true

def publishError (invocationId : Text) (error : String) : Run Unit :=
  publish invocationId .error (.error error) true

/-- `AuditService.log`. -/
def auditLog (invocationId : Text) (level : LogLevel) (message : String) :
    Run Unit :=
  publishLog invocationId level message

end GrafuxMcp.Execution
