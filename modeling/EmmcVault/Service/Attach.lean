import EmmcVault.Linux.Backends
import EmmcVault.Service.Error
import EmmcVault.Volume

/-!
# Attaching the configured volume

The lock state is told by the mapping: where it is present, an earlier run left
the volume open.
-/

namespace EmmcVault.Service

open Linux Text

variable {σ η : Type} (h : Host σ η)

def Config.load (path : Path) : EStateM ServiceError σ Config := do
  let bytes ← (h.readFile path).adaptExcept (.configRead path)
  match Utf8.decode? bytes with
  | none => throw (.configRead path (.other "stream did not contain valid UTF-8"))
  | some text =>
    match Config.parse text with
    | .ok config => pure config
    | .error fault => throw (.configInvalid fault)

/-- The configured volume as an earlier run left it. -/
def Config.volumeOn (c : Config) (s : σ) : Volume :=
  let open? := h.pathExists s c.identity.mappedDevice
  { Volume.attach c.identity c.bounds c.settings with
    metadata := c.metadata
    state := if open? then .unlocked else .locked }

/-- The configured volume and the backends to work on it. -/
def Config.attach (c : Config) :
    EStateM ServiceError σ (Backends (Session σ) (DeviceHandle η) × Volume) := do
  let backends ← h.backends.adaptExcept .backend
  return (backends, c.volumeOn h (← get))

end EmmcVault.Service
