import EmmcVault.Linux.SystemError
import EmmcVault.Service.Config

/-!
# Failures of the service

Why a run of the service ended before its request was carried out.
-/

namespace EmmcVault.Service

inductive ServiceError where
  | configRead (path : Path) (cause : IoError)
  | configInvalid (fault : ConfigFault)
  | emptyPassphrase
  /-- The volume cannot be had. -/
  | refused (fault : Fault)
  | backend (cause : Linux.SystemError)
  | io (cause : IoError)
deriving DecidableEq, Repr

namespace ServiceError

def name : ServiceError → String
  | configRead .. => "config_read"
  | configInvalid _ => "config_invalid"
  | emptyPassphrase => "empty_passphrase"
  | refused fault => fault.kind.name
  | backend _ => "backend"
  | io _ => "io"

def message : ServiceError → String
  | configRead path cause => s!"Failed to read {path}: {cause.message}"
  | configInvalid fault => s!"Invalid configuration: {fault.message}"
  | emptyPassphrase => "Empty passphrase on stdin"
  | refused fault => (StorageError.ofFault fault).display
  | backend cause => s!"System backend unavailable: {cause.message}"
  | io cause => s!"IO error: {cause.message}"

/-- What lies under the failure, where that is a failure of its own. -/
def cause? : ServiceError → Option String
  | configRead _ cause => some cause.message
  | backend cause => some cause.message
  | io cause => some cause.message
  | configInvalid _ | emptyPassphrase | refused _ => none

end ServiceError

end EmmcVault.Service
