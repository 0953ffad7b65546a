import EmmcVault.BackendError

/-!
# Failures of the system

Why a tool or a system call did not do its work, before the backend call it
served is named.
-/

namespace EmmcVault.Linux

inductive SystemError where
  | io (cause : IoError)
  | deviceNotFound (detail : String)
  | toolNotFound (tool : String)
  /-- A tool ended with an exit code other than success, or with none. -/
  | commandFailed (program : String) (code : Option Int) (message : String)
  | unexpectedOutput (program message : String)
  | operationFailed (message : String)
deriving DecidableEq, Repr

namespace SystemError

/-- An exit code as messages show it. -/
def showCode : Option Int → String
  | some code => s!"Some({code})"
  | none => "None"

def message : SystemError → String
  | io cause => s!"I/O error: {cause.message}"
  | deviceNotFound detail => s!"Device not found: {detail}"
  | toolNotFound tool => s!"{tool} is not installed"
  | commandFailed program code message => s!"{program} exited with {showCode code}: {message}"
  | unexpectedOutput program message => s!"Unexpected output from {program}: {message}"
  | operationFailed message => s!"Operation failed: {message}"

/-- The failure of the backend call `call`. A missing device is a missing
thing, not a message. -/
def ofCall (call : String) : SystemError → BackendError
  | io cause => .io call cause
  | deviceNotFound detail => .io call (.missing detail)
  | e => .failed call e.message

end SystemError

end EmmcVault.Linux
