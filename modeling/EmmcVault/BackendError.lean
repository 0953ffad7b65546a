import EmmcVault.Errno

/-!
# Failures of backend calls

A failure names the call and says why it failed: a negative status, an input or
output error, or a message.
-/

namespace EmmcVault

inductive BackendError where
  | status (call : String) (code : Int)
  | io (call : String) (cause : IoError)
  | failed (call : String) (detail : String)
deriving DecidableEq, Repr

namespace BackendError

def call : BackendError → String
  | status call _ => call
  | io call _ => call
  | failed call _ => call

def message : BackendError → String
  | status call code => s!"{call} returned {code}"
  | io call cause => s!"{call}: {cause.message}"
  | failed call detail => s!"{call}: {detail}"

/-- Whether the failure means that the target does not exist. -/
def isNotFound : BackendError → Bool
  | status _ code => code == -2
  | io _ cause => cause.isNotFound
  | failed .. => false

end BackendError

instance : ToString BackendError := ⟨BackendError.message⟩

end EmmcVault
