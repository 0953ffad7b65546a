import EmmcVault.Linux.BlockDevice
import EmmcVault.Linux.Cryptsetup
import EmmcVault.Linux.Mounting

/-!
# The backends of the system

All backends of a volume over one host. Filesystems and block devices act on
its world alone; the staged headers stay beside it.
-/

namespace EmmcVault.Linux

namespace Session

variable {σ η : Type}

def onDevice {ε α : Type} (call : EStateM ε (σ × η) α) : EStateM ε (Session σ × η) α :=
  fun (s, d) =>
    match call (s.world, d) with
    | .ok a (world, d) => .ok a ({ s with world }, d)
    | .error e (world, d) => .error e ({ s with world }, d)

def filesystem (f : FilesystemBackend σ) : FilesystemBackend (Session σ) where
  makeFilesystem device t options := onWorld (f.makeFilesystem device t options)
  checkFilesystem device t options := onWorld (f.checkFilesystem device t options)
  mount source target t options := onWorld (f.mount source target t options)
  unmount target := onWorld (f.unmount target)
  createDirectory p := onWorld (f.createDirectory p)
  removeDirectory p := onWorld (f.removeDirectory p)
  directoryExists p := fun s =>
    let (present, world) := f.directoryExists p s.world
    (present, { s with world })

def devices (d : BlockDevices σ η) : BlockDevices (Session σ) η where
  openHandle path mode := onWorld (d.openHandle path mode)
  read length := onDevice (d.read length)
  write bytes := onDevice (d.write bytes)
  sync := onDevice d.sync
  size := onDevice d.size
  command c data := onDevice (d.command c data)
  close := fun (s, handle) => { s with world := d.close (s.world, handle) }

end Session

namespace Host

variable {σ η : Type} (h : Host σ η)

/-- The backends with headers and mappings driven by the named tool. -/
def backendsUsing (program : String) : Backends (Session σ) (DeviceHandle η) where
  crypto := Cryptsetup.backend h program
  filesystem := Session.filesystem h.filesystem
  devices := Session.devices h.blockDevices

/-- The backends of a system on which cryptsetup is installed. -/
def backends : SystemTask σ (Backends (Session σ) (DeviceHandle η)) := do
  h.requireTool Cryptsetup.tool (.toolNotFound Cryptsetup.tool)
  pure (h.backendsUsing Cryptsetup.tool)

end Host

end EmmcVault.Linux
