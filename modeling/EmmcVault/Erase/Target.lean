import EmmcVault.Backend
import EmmcVault.Buffer
import EmmcVault.Fault

/-!
# Erase targets

What an erase method is applied to: one device with its geometry bounds and
settings, reached through the backends.
-/

namespace EmmcVault

structure EraseTarget (σ η : Type) where
  crypto : CryptoBackend σ
  devices : BlockDevices σ η
  device : Path
  bounds : GeometryBounds
  settings : EraseSettings

/-- A backend call as part of an operation that fails with `fault`. -/
def Call.orFault {σ α : Type} (call : Call σ α) (fault : BackendError → Fault) :
    EStateM Fault σ α :=
  call.adaptExcept fault

namespace EraseTarget

variable {σ η : Type}

def withDevice {α : Type} (t : EraseTarget σ η) (mode : OpenMode)
    (body : EStateM Fault (σ × η) α) : EStateM Fault σ α :=
  t.devices.withHandle t.device mode Fault.opening body

/-- The number of bytes to treat: the requested count or the whole device. -/
def length (t : EraseTarget σ η) : Option UInt64 → EStateM Fault (σ × η) UInt64
  | some bytes => pure bytes
  | none => t.devices.size.orFault (.internal .querySize)

/-- Octets of the largest block that memory can hold. -/
def maxBlock : Nat := (1 <<< 63) - 1

/-- Makes room for a block. -/
def requireBlock {τ : Type} (size : Nat) : EStateM Fault τ Unit :=
  if size ≤ maxBlock then pure () else throw (.blockTooLarge size)

/-- The mode in which an overwrite method opens the device. -/
def passMode : ErasePass → OpenMode
  | .overwrite => .write
  | .verify => .read

end EraseTarget

end EmmcVault
