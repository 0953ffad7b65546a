import EmmcVault.Erase.Engine

/-!
# Encrypted volumes

A volume and what is done for it by calls that read it and change only the
world. Steps taken before one that failed are undone, the newest first, and a
failing undo neither hides the failure nor stops the undo steps after it.
-/

namespace EmmcVault

open Text

structure Volume where
  identity : VolumeIdentity
  bounds : GeometryBounds
  settings : VolumeSettings
  /-- The filesystem that unlocking mounts. -/
  fsType : FilesystemType
  state : LockState := .locked
  metadata : VolumeMetadata := {}
deriving DecidableEq, Repr

namespace Volume

/-- A locked volume on which nothing has been measured. -/
def attach (identity : VolumeIdentity) (bounds : GeometryBounds) (settings : VolumeSettings) :
    Volume where
  identity
  bounds
  settings
  fsType := settings.filesystem.fsType

variable {σ η : Type}

def step {α : Type} (call : Call σ α) (fault : BackendError → Fault) : EStateM Failure σ α :=
  call.adaptExcept fun cause => ⟨fault cause, []⟩

/-- Runs `body`; if it fails, runs `undo` and notes its failure. -/
def undoing {α : Type} (undo : Call σ Unit) (body : EStateM Failure σ α) :
    EStateM Failure σ α := fun s =>
  match body s with
  | .ok a s => .ok a s
  | .error failure s =>
    match undo s with
    | .ok _ s => .error failure s
    | .error cause s => .error { failure with rollback := failure.rollback ++ [cause] } s

/-- Refuses a change of state from another state than `expected`. -/
def require (v : Volume) (expected : LockState) (change : StateChange) :
    EStateM Failure σ Unit :=
  if v.state = expected then pure ()
  else throw ⟨.wrongState change v.identity.container v.state, []⟩

variable (b : Backends σ η) (v : Volume)

def makeFilesystem (t : FilesystemType) : EStateM Failure σ Unit := do
  let mapped := v.identity.mappedDevice
  let options := v.settings.filesystem
  step (b.filesystem.makeFilesystem mapped t (options.mkfsOptionsFor t)) (.internal .makeFilesystem)
  step (b.filesystem.checkFilesystem mapped t options.fsckOptions) (.internal .checkFilesystem)

/-- Mounts the mapped device. A mount point that is missing is created, and
removed again if the mount fails. -/
def mountFilesystem (t : FilesystemType) : EStateM Failure σ Unit := do
  let target := v.identity.mountPoint
  let mounting := step
    (b.filesystem.mount v.identity.mappedDevice target t v.settings.filesystem.mount)
    (.internal .mount)
  let present ← fun s => let (present, s) := b.filesystem.directoryExists target s; .ok present s
  if present then mounting
  else
    step (b.filesystem.createDirectory target) (.internal .createMountPoint)
    undoing (b.filesystem.removeDirectory target) mounting

/-- Replaces the passphrase of the keyslot that `old` opens. -/
def changePassword (old new : Bytes) : EStateM Failure σ Unit := do
  let device := v.identity.device
  let _ ← step (b.crypto.load device) (.internal .loadHeader)
  let _ ← step (b.crypto.changePassphrase device old new) (.internal .changePassphrase)
  pure ()

/-- The volume's device as an erase target. -/
def eraseTarget : EraseTarget σ η where
  crypto := b.crypto
  devices := b.devices
  device := v.identity.device
  bounds := v.bounds
  settings := v.settings.erase

/-- Runs an erase request. Methods that write the raw device are refused while
the volume is open, unless the settings allow it. -/
def erase (request : EraseRequest) : EStateM Failure σ EraseReport :=
  if request.method.writesRawDevice && v.settings.erase.requireLockedForRawErase &&
      !v.state.isLocked then
    throw ⟨.unlockedForErase request.method, []⟩
  else ((v.eraseTarget b).run request).adaptExcept (⟨·, []⟩)

/-- Whether background operations were enabled by a call or before it. -/
inductive BkopsOutcome where
  | enabled
  | alreadyEnabled
deriving DecidableEq, Repr

def BkopsOutcome.name : BkopsOutcome → String
  | enabled => "enabled"
  | alreadyEnabled => "already_enabled"

/-- Enables manual background operations. The register octet can be written
once and never cleared, so it is left alone where it is set. -/
def enableBkops : EStateM Failure σ BkopsOutcome :=
  b.devices.withHandle v.identity.device .readWrite
    (fun cause => ⟨.call .bkopsIoctlFailure .openDevice cause, []⟩) do
    let register ← step b.devices.readExtCsd (.call .bkopsIoctlFailure .readRegister)
    if !register.bkopsSupported then throw ⟨.bkopsUnsupported v.identity.device, []⟩
    else if register.manualBkopsEnabled then pure .alreadyEnabled
    else
      let _ ← step (b.devices.command .enableBkops .empty)
        (.call .bkopsEnableFailure .enableBkops)
      pure .enabled

end Volume

end EmmcVault
