import EmmcVault.Datum.Settings
import EmmcVault.Datum.Volume
import EmmcVault.Volume.Operation

/-!
# Outcomes of the service

The service carries out one operation a run and prints its outcome. Asking for
the status refreshes what is known about the device, and never fails: where the
device cannot be measured, the metadata stays as it was.
-/

namespace EmmcVault

open Codec

/-- The word by which an operation is asked for. -/
def Operation.command : Operation → String
  | format .. => "format"
  | unlock _ => "unlock"
  | lock => "lock"
  | changePassword .. => "change-password"
  | erase _ => "erase"
  | enableBkops => "bkops"
  | refresh => "status"

namespace Service

structure VolumeStatus where
  identity : VolumeIdentity
  state : LockState
  bounds : GeometryBounds
  fsType : FilesystemType
  metadata : VolumeMetadata
deriving DecidableEq, Repr

def VolumeStatus.ofVolume (v : Volume) : VolumeStatus where
  identity := v.identity
  state := v.state
  bounds := v.bounds
  fsType := v.fsType
  metadata := v.metadata

inductive Outcome where
  | status (s : VolumeStatus)
  | state (s : LockState)
  | passwordChanged
  | erased (report : EraseReport)
  | bkops (alreadyEnabled : Bool)
deriving DecidableEq, Repr

namespace Outcome

/-- The outcome of an operation that succeeded and left the volume at `v`. -/
def ofAnswer (operation : Operation) (v : Volume) : Operation.Answer → Outcome
  | .done =>
    match operation with
    | .changePassword .. => passwordChanged
    | _ => state v.state
  | .erased report => erased report
  | .bkops outcome => bkops (outcome == .alreadyEnabled)
  | .measured _ => status (.ofVolume v)

/-- The printed form, tagged with the kind of outcome. -/
def datum : Outcome → Datum
  | status s => .table [("result", .text "status"), ("identity", encode s.identity),
      ("state", encode s.state), ("bounds", encode s.bounds), ("fs_type", encode s.fsType),
      ("metadata", encode s.metadata)]
  | state s => .table [("result", .text "state"), ("state", encode s)]
  | passwordChanged => .table [("result", .text "password_changed")]
  | erased r => .table [("result", .text "erased"), ("method", encode r.method),
      ("amount", encode r.amount)]
  | bkops already => .table [("result", .text "bkops"), ("already_enabled", .bool already)]

end Outcome

/-- Runs an operation on a managed volume for the service. -/
def execute {σ η : Type} (b : Backends σ η) (m : Managed σ) (operation : Operation) :
    Except Failure Outcome × Managed σ :=
  let (answer, m) := m.perform b operation
  match operation, answer with
  | .refresh, _ => (.ok (.status (.ofVolume m.volume)), m)
  | _, .ok answer => (.ok (.ofAnswer operation m.volume answer), m)
  | _, .error failure => (.error failure, m)

end Service

end EmmcVault
