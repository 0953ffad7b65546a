import EmmcVault.Volume

/-!
# The life of an encrypted volume

A volume starts locked. Formatting or unlocking it activates the mapping and
mounts the cleartext filesystem; locking reverses both. Each step works on the
volume together with the world: a call of a backend changes the world, an
assignment the volume. A step that fails ends the operation, and the volume is
left as the steps before it made it.
-/

namespace EmmcVault

open Text

/-- A volume together with the world its backends act on. -/
structure Managed (σ : Type) where
  volume : Volume
  world : σ

namespace Managed

variable {σ η α : Type}

abbrev Task (σ α : Type) := EStateM Failure (Managed σ) α

/-- Runs what reads the volume and acts on the world. -/
def reading (body : Volume → EStateM Failure σ α) : Task σ α := fun m =>
  match body m.volume m.world with
  | .ok a world => .ok a { m with world }
  | .error failure world => .error failure { m with world }

/-- Makes a call of a backend for the volume. -/
def call (call : Volume → Call σ α) (fault : BackendError → Fault) : Task σ α :=
  reading fun v => Volume.step (call v) fault

/-- Changes the volume. -/
def assign (change : Volume → Volume) : Task σ Unit :=
  modify fun m => { m with volume := change m.volume }

/-- Opens the volume's device, runs `body` on the handle and closes it, whatever
the outcome of `body`. -/
def withDevice (d : BlockDevices σ η) (mode : OpenMode) (refused : BackendError → Fault)
    (body : Task (σ × η) α) : Task σ α := fun m =>
  match d.openHandle m.volume.identity.device mode m.world with
  | .error cause world => .error ⟨refused cause, []⟩ { m with world }
  | .ok handle world =>
    match body ⟨m.volume, (world, handle)⟩ with
    | .ok a m => .ok a ⟨m.volume, d.close m.world⟩
    | .error failure m => .error failure ⟨m.volume, d.close m.world⟩

variable (b : Backends σ η)

/-- Writes a new header, creates a filesystem on the volume and mounts it. -/
def format (password : Bytes) (t : FilesystemType) : Task σ Unit := do
  reading (·.require .locked .format)
  call (fun v => b.crypto.format v.identity.device v.settings.encryption) (.internal .formatHeader)
  let _ ← call (fun v => b.crypto.addKeyslot v.identity.device password) (.internal .addKeyslot)
  let _ ← call (fun v => b.crypto.load v.identity.device) (.internal .loadHeader)
  let _ ← call (fun v => b.crypto.activate v.identity.device v.identity.container password)
    (.internal .activate)
  reading fun v => Volume.undoing (b.crypto.deactivate v.identity.container) do
    v.makeFilesystem b t
    v.mountFilesystem b t
  assign fun v => { v with fsType := t }
  assign fun v => { v with state := .unlocked }

/-- Opens the mapping and mounts the filesystem that is there. -/
def unlock (password : Bytes) : Task σ Unit := do
  reading (·.require .locked .unlock)
  let _ ← call (fun v => b.crypto.load v.identity.device) (.notFound .loadHeader)
  let _ ← call (fun v => b.crypto.activate v.identity.device v.identity.container password)
    (.internal .activate)
  reading fun v =>
    Volume.undoing (b.crypto.deactivate v.identity.container) (v.mountFilesystem b v.fsType)
  assign fun v => { v with state := .unlocked }

/-- Unmounts the filesystem, removes the mount point and closes the mapping. -/
def lock : Task σ Unit := do
  reading (·.require .unlocked .lock)
  call (fun v => b.filesystem.unmount v.identity.mountPoint) (.internal .unmount)
  call (fun v => b.filesystem.removeDirectory v.identity.mountPoint) (.internal .removeMountPoint)
  call (fun v => b.crypto.deactivate v.identity.container) (.internal .deactivate)
  assign fun v => { v with state := .locked }

/-- Measures the device and reads its wear estimate. -/
def refresh : Task σ VolumeMetadata :=
  withDevice b.devices .read (.internal .openDevice) do
    let capacityBytes ← call (fun _ => b.devices.size) (.internal .querySize)
    let register ← call (fun _ => b.devices.readExtCsd) (.internal .readRegister)
    assign fun v => { v with metadata.capacityBytes := capacityBytes }
    assign fun v => { v with metadata.lifeRemainingPercent := register.lifeRemainingPercent }
    return (← get).volume.metadata

end Managed

end EmmcVault
