import EmmcVault.BackendError
import EmmcVault.Identity
import EmmcVault.Mmc.Command
import EmmcVault.Settings

/-!
# Backend capabilities

What a volume is driven through: LUKS headers and mappings, filesystem tools
and mounts, and raw block devices. Each capability is a record of calls on a
world `σ`; a call may change the world whether it succeeds or fails. Nothing
is assumed about how a backend answers.
-/

namespace EmmcVault

open Text

abbrev Call (σ : Type) := EStateM BackendError σ

/-- LUKS headers and device mappings. Passphrases pass through unchanged. -/
structure CryptoBackend (σ : Type) where
  format : Path → EncryptionParams → Call σ Unit
  /-- Add a keyslot for a passphrase, giving its index. -/
  addKeyslot : Path → Bytes → Call σ UInt32
  /-- Read and validate the header. -/
  load : Path → Call σ LuksVersion
  /-- Open the mapping, giving the keyslot that matched. -/
  activate : Path → String → Bytes → Call σ UInt32
  deactivate : String → Call σ Unit
  destroyKeyslot : Path → UInt32 → Call σ Unit
  maxKeyslots : LuksVersion → Call σ UInt32
  keyslotStatus : Path → UInt32 → Call σ KeySlotStatus
  /-- Replace the first passphrase by the second, giving the slot. -/
  changePassphrase : Path → Bytes → Bytes → Call σ UInt32

structure FilesystemBackend (σ : Type) where
  makeFilesystem : Path → FilesystemType → List String → Call σ Unit
  checkFilesystem : Path → FilesystemType → List String → Call σ Unit
  mount : Path → Path → FilesystemType → MountOptions → Call σ Unit
  unmount : Path → Call σ Unit
  createDirectory : Path → Call σ Unit
  removeDirectory : Path → Call σ Unit
  /-- A query that cannot fail. -/
  directoryExists : Path → StateM σ Bool

inductive OpenMode where
  | read
  | write
  | readWrite
deriving DecidableEq, Repr

namespace OpenMode

def readable : OpenMode → Bool
  | read | readWrite => true
  | write => false

def writable : OpenMode → Bool
  | write | readWrite => true
  | read => false

end OpenMode

/-- What a read gave: the count it returned and the bytes it delivered. -/
structure Transfer where
  count : Nat
  bytes : ByteArray

/-- Raw block devices. An open device is a world with a handle of type `η`.
Reads and writes advance a cursor that starts at zero, and may move less than
was asked for. -/
structure BlockDevices (σ η : Type) where
  openHandle : Path → OpenMode → Call σ η
  /-- Read up to so many bytes. -/
  read : Nat → Call (σ × η) Transfer
  /-- Write the bytes, giving the returned count. -/
  write : ByteArray → Call (σ × η) Nat
  sync : Call (σ × η) Unit
  size : Call (σ × η) UInt64
  /-- Submit a command with its data buffer, giving the buffer afterwards. -/
  command : Mmc.Command → ByteArray → Call (σ × η) ByteArray
  close : σ × η → σ

structure Backends (σ η : Type) where
  crypto : CryptoBackend σ
  filesystem : FilesystemBackend σ
  devices : BlockDevices σ η

def BlockDevices.readExtCsd {σ η : Type} (d : BlockDevices σ η) : Call (σ × η) Mmc.ExtCsd := do
  let zeros : ByteArray := ⟨Array.replicate Mmc.Command.sendExtCsd.dataLength 0⟩
  let data ← d.command .sendExtCsd zeros
  match Mmc.ExtCsd.ofBytes? data with
  | some register => pure register
  | none =>
    throw (.failed "mmc_send_ext_csd" s!"expected a 512-byte register, got {data.size} bytes")

/-- Opens a device, runs `body` on the handle and closes it, whatever the
outcome of `body`. -/
def BlockDevices.withHandle {σ η ε α : Type} (d : BlockDevices σ η) (path : Path)
    (mode : OpenMode) (refused : BackendError → ε) (body : EStateM ε (σ × η) α) :
    EStateM ε σ α := fun s =>
  match d.openHandle path mode s with
  | .error e s => .error (refused e) s
  | .ok handle s =>
    match body (s, handle) with
    | .ok a t => .ok a (d.close t)
    | .error e t => .error e (d.close t)

end EmmcVault
