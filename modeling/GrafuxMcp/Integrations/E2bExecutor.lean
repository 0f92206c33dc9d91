import GrafuxMcp.Foundation.ShellWords
import GrafuxMcp.Runtime.Exceptions

/-! # The sandbox executor

`app/integrations/e2b/executor.py`: code runs in a cell of the sandbox's notebook, or,
where the sandbox has none, in a process that is started from a shell command. -/

namespace GrafuxMcp.E2BExecutor

open GrafuxMcp

inductive Start
  /-- `sandbox.notebook.exec_cell`. -/
  | execCell (code : Text)
  /-- `sandbox.process.start`. -/
  | process (cmd : Text)
deriving DecidableEq, Repr

/-- What becomes of the cell. Sandboxes of the plain package have no `notebook`. -/
inductive Notebook
  | missing
  | finishes
  | raisesAttributeError
  | raises
deriving DecidableEq, Repr

def fallbackCmd (code : Text) : Text :=
  "python3 -c \"".toList ++ code ++ "\"".toList

/-- The programs that `_run_in_sandbox` starts; it catches an `AttributeError` only. -/
def runInSandbox (code : Text) : Notebook → List Start
  | .missing => [.process (fallbackCmd code)]
  | .raisesAttributeError => [.execCell code, .process (fallbackCmd code)]
  | .finishes | .raises => [.execCell code]

/-- The program that is run is the code and nothing else. -/
def Start.Runs (code : Text) : Start → Prop
  | .execCell given => given = code
  | .process cmd => Shell.parse cmd = .ok ["python3".toList, "-c".toList, code]

/-- The shell takes the command up to the code apart. -/
theorem parse_fallbackCmd (code : Text) :
    Shell.parse (fallbackCmd code) =
      (Shell.Scan.quoted ["python3".toList, "-c".toList] []).read (code ++ ['"']) :=
  rfl

/-- A call with a string. -/
def printHi : Text := "print(\"hi\")".toList

end GrafuxMcp.E2BExecutor
