/-! # Exceptions and tool results

Python's exception classes as far as the runtime tells them apart, and the
result envelope of `app/core/errors.py`.
-/

namespace GrafuxMcp

/-- Text whose characters the code looks at: keys, paths, identifiers. -/
abbrev Text := List Char

inductive ExcClass
  | BaseException
  | CancelledError
  | SystemExit
  | Exception
  | OSError
  | ConnectionError
  | BrokenPipeError
  | TimeoutError
  | RuntimeError
  | RecursionError
  | ValueError
  | UnicodeDecodeError
  | TypeError
  | ImportError
  | SyntaxError
  | HTTPException
  | MCPError
  | RoutingError
  | ExecutionError
  | RemoteCallError
  | PluginLoadError
deriving DecidableEq, Repr

namespace ExcClass

/-- The classes a class derives from, itself first. -/
def mro : ExcClass → List ExcClass
  | .BaseException => [.BaseException]
  | .CancelledError => [.CancelledError, .BaseException]
  | .SystemExit => [.SystemExit, .BaseException]
  | .Exception => [.Exception, .BaseException]
  | .OSError => [.OSError, .Exception, .BaseException]
  | .ConnectionError => [.ConnectionError, .OSError, .Exception, .BaseException]
  | .BrokenPipeError =>
      [.BrokenPipeError, .ConnectionError, .OSError, .Exception, .BaseException]
  | .TimeoutError => [.TimeoutError, .OSError, .Exception, .BaseException]
  | .RuntimeError => [.RuntimeError, .Exception, .BaseException]
  | .RecursionError =>
      [.RecursionError, .RuntimeError, .Exception, .BaseException]
  | .ValueError => [.ValueError, .Exception, .BaseException]
  | .UnicodeDecodeError =>
      [.UnicodeDecodeError, .ValueError, .Exception, .BaseException]
  | .TypeError => [.TypeError, .Exception, .BaseException]
  | .ImportError => [.ImportError, .Exception, .BaseException]
  | .SyntaxError => [.SyntaxError, .Exception, .BaseException]
  | .HTTPException => [.HTTPException, .Exception, .BaseException]
  | .MCPError => [.MCPError, .Exception, .BaseException]
  | .RoutingError => [.RoutingError, .MCPError, .Exception, .BaseException]
  | .ExecutionError => [.ExecutionError, .MCPError, .Exception, .BaseException]
  | .RemoteCallError =>
      [.RemoteCallError, .ExecutionError, .MCPError, .Exception, .BaseException]
  | .PluginLoadError =>
      [.PluginLoadError, .MCPError, .Exception, .BaseException]

theorem not_exception_of_cancelled (cls : ExcClass) :
    cls.mro.contains .CancelledError = true →
      cls.mro.contains .Exception = false := by
  cases cls <;> decide

theorem exception_of_timeout (cls : ExcClass) :
    cls.mro.contains .TimeoutError = true →
      cls.mro.contains .Exception = true := by
  cases cls <;> decide

end ExcClass

/-- An exception: its class and what `str(exc)` gives. -/
structure Exc where
  cls : ExcClass
  message : String
deriving DecidableEq, Repr

namespace Exc

def isinstance (exc : Exc) (cls : ExcClass) : Bool := exc.cls.mro.contains cls

/-- Caught by `except Exception`. -/
def isException (exc : Exc) : Bool := exc.isinstance .Exception

/-- Caught by `except asyncio.CancelledError`. -/
def isCancelled (exc : Exc) : Bool := exc.isinstance .CancelledError

theorem not_isException_of_isCancelled {exc : Exc}
    (cancelled : exc.isCancelled = true) : exc.isException = false :=
  ExcClass.not_exception_of_cancelled exc.cls cancelled

theorem isException_of_isinstance_timeout {exc : Exc}
    (timeout : exc.isinstance .TimeoutError = true) :
    exc.isException = true :=
  ExcClass.exception_of_timeout exc.cls timeout

end Exc

/-- Python values: JSON data, or an object of any other class. -/
inductive Value
  | none
  | bool (value : Bool)
  | int (value : Int)
  | str (value : String)
  | list (items : List Value)
  | dict (items : List (String × Value))
  | object (identity : Nat)

/-- A successful MCP text result. -/
def toolText (text : String) : Value :=
  .dict [("content", .list [.dict [("type", .str "text"), ("text", .str text)]])]

/-- An error MCP result, optionally carrying diagnostics. -/
def toolError (message : String)
    (diagnostics : List (String × Value) := []) : Value :=
  let result :=
    [("content", .list [.dict [("type", .str "text"), ("text", .str message)]]),
      ("isError", .bool true)]
  if diagnostics.isEmpty then .dict result
  else .dict (result ++ [("diagnostics", .dict diagnostics)])

end GrafuxMcp
