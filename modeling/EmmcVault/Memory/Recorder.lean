import EmmcVault.Backend
import EmmcVault.Buffer

/-!
# Recording device calls

Any block devices can be watched: the same devices over a world that also
keeps what was called, in order. A call is recorded whether it succeeds or
fails; a device is closed only if it was opened.
-/

namespace EmmcVault.Memory

inductive DeviceCall where
  | opened (path : Path) (mode : OpenMode)
  | read (length : Nat)
  /-- The bytes offered and, if the call succeeded, the count it returned. -/
  | write (bytes : ByteArray) (moved : Option Nat)
  | sync
  | size
  | command (c : Mmc.Command) (dataLength : Nat)
  | closed
deriving DecidableEq

/-- A world with the device calls made on it. -/
structure Recorded (σ : Type) where
  world : σ
  calls : List DeviceCall := []

namespace Recorded

variable {σ η : Type}

def note (r : Recorded σ) (call : DeviceCall) : Recorded σ :=
  { r with calls := r.calls ++ [call] }

/-- Runs a call on an open device and notes it. -/
def watch {α : Type} (entry : Option α → DeviceCall) (call : Call (σ × η) α) :
    Call (Recorded σ × η) α := fun (r, h) =>
  match call (r.world, h) with
  | .ok a (world, h) => .ok a ({ r with world }.note (entry (some a)), h)
  | .error e (world, h) => .error e ({ r with world }.note (entry none), h)

/-- The bytes that reached the device, as far as the returned counts say. -/
def written (r : Recorded σ) : List UInt8 :=
  r.calls.flatMap fun
    | .write bytes (some moved) => (bytes.extract 0 moved).toList
    | _ => []

/-- The same devices, watched. -/
def devices (d : BlockDevices σ η) : BlockDevices (Recorded σ) η where
  openHandle path mode := fun r =>
    match d.openHandle path mode r.world with
    | .ok h world => .ok h ({ r with world }.note (.opened path mode))
    | .error e world => .error e ({ r with world }.note (.opened path mode))
  read length := watch (fun _ => .read length) (d.read length)
  write bytes := watch (fun moved => .write bytes moved) (d.write bytes)
  sync := watch (fun _ => .sync) d.sync
  size := watch (fun _ => .size) d.size
  command c data := watch (fun _ => .command c data.size) (d.command c data)
  close := fun (r, h) => { r with world := d.close (r.world, h) }.note .closed

end Recorded

end EmmcVault.Memory
