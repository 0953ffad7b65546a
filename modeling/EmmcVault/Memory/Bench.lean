import EmmcVault.Memory.Disk
import EmmcVault.Memory.Header
import EmmcVault.Memory.Recorder
import EmmcVault.Memory.Script
import EmmcVault.Memory.Tree

/-!
# A volume in memory

All that one volume's backends act on, in memory: the journal of calls, the
header, the directory tree and a block device of type `δ`.
-/

namespace EmmcVault.Memory

structure Bench (δ : Type) where
  journal : Journal := {}
  header : Header := {}
  tree : Tree := {}
  device : δ

namespace Bench

variable {δ η : Type}

/-- Notes a call, which fails if a failure of its kind is armed. -/
def record (kind : CallKind) : Call (Bench δ) Unit := fun w =>
  let noted := { w with journal := w.journal.note kind }
  match w.journal.armed kind with
  | some code => .error (.status kind.name code) noted
  | none => .ok () noted

def modifyHeader (f : Header → Header) : Call (Bench δ) Unit :=
  modify fun w => { w with header := f w.header }

def modifyTree (f : Tree → Tree) : Call (Bench δ) Unit :=
  modify fun w => { w with tree := f w.tree }

/-- The status of a passphrase that opens no keyslot. -/
def wrongPassphrase : Int := -1

def crypto : CryptoBackend (Bench δ) where
  format _ params := do
    record .format
    modifyHeader (·.formatted params)
  addKeyslot _ passphrase := do
    record .addKeyslot
    modifyHeader (·.keyslotAdded passphrase)
    pure 0
  load _ := do
    record .load
    pure (← get).header.version
  activate _ name passphrase := do
    record .activate
    if (← get).header.accepts passphrase then
      modifyHeader (·.setActive name true)
      pure 0
    else throw (.status CallKind.activate.name wrongPassphrase)
  deactivate name := do
    record .deactivate
    modifyHeader (·.setActive name false)
  destroyKeyslot _ slot := do
    record .destroyKeyslot
    modifyHeader (·.keyslotDestroyed slot)
  maxKeyslots version := do
    record .maxKeyslots
    pure ((← get).header.limit version)
  keyslotStatus _ slot := do
    record .keyslotStatus
    pure ((← get).header.status slot)
  changePassphrase _ old new := do
    record .changePassphrase
    modifyHeader (·.passphraseChanged old new)
    pure 0

def filesystem : FilesystemBackend (Bench δ) where
  makeFilesystem device fsType options := do
    record .makeFilesystem
    modifyTree fun t => { t with mkfsRuns := t.mkfsRuns ++ [⟨device, fsType, options⟩] }
  checkFilesystem device fsType options := do
    record .checkFilesystem
    modifyTree fun t => { t with fsckRuns := t.fsckRuns ++ [⟨device, fsType, options⟩] }
  mount source target fsType options := do
    record .mount
    modifyTree (·.setMount target (some ⟨source, fsType, options⟩))
  unmount target := do
    record .unmount
    modifyTree (·.setMount target none)
  createDirectory path := do
    record .createDirectory
    modifyTree (·.setDirectory path true)
  removeDirectory path := do
    record .removeDirectory
    modifyTree (·.setDirectory path false)
  directoryExists path := fun w =>
    (w.tree.isDirectory path, { w with journal := w.journal.note .directoryExists })

def onDevice {α : Type} (call : Call (δ × η) α) : Call (Bench δ × η) α := fun (w, h) =>
  match call (w.device, h) with
  | .ok a (device, h) => .ok a ({ w with device }, h)
  | .error e (device, h) => .error e ({ w with device }, h)

def devices (d : BlockDevices δ η) : BlockDevices (Bench δ) η where
  openHandle path mode := fun w =>
    match d.openHandle path mode w.device with
    | .ok h device => .ok h { w with device }
    | .error e device => .error e { w with device }
  read length := onDevice (d.read length)
  write bytes := onDevice (d.write bytes)
  sync := onDevice d.sync
  size := onDevice d.size
  command c data := onDevice (d.command c data)
  close := fun (w, h) => { w with device := d.close (w.device, h) }

/-- The backends of a volume whose device is reached through `d`. -/
def backends (d : BlockDevices δ η) : Backends (Bench δ) η where
  crypto
  filesystem
  devices := devices d

/-- The backends of a volume on an in-memory disk. -/
def onDisk : Backends (Bench Disk) DiskHandle :=
  backends Disk.devices

/-- The backends of a volume on a scripted device whose calls are recorded. -/
def onScript : Backends (Bench (Recorded Script)) Unit :=
  backends (Recorded.devices Script.devices)

end Bench

end EmmcVault.Memory
