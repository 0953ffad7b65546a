import EmmcVault.Datum.Codec
import EmmcVault.Settings

/-!
# Written forms of settings

Every field of the settings may be left out and then has its default. A given
map of filesystem creation options replaces the default map whole; its later
entries override earlier ones of the same type.
-/

namespace EmmcVault

open Codec

instance : Codec LuksVersion :=
  ofCases [.luks1, .luks2] LuksVersion.name

instance : Codec KeySlotStatus :=
  ofCases [.invalid, .inactive, .active, .activeLast] KeySlotStatus.name

instance : Codec KeySlot where
  encode k := .table [("index", encode k.index), ("status", encode k.status)]
  decode? dialect d := do
    let get ← d.record? dialect ["index", "status"]
    return ⟨← required dialect get "index", ← required dialect get "status"⟩

instance : Codec EncryptionParams where
  encode p := .table [("cipher", encode p.cipher), ("cipher_mode", encode p.cipherMode),
    ("key_size_bits", encode p.keySizeBits), ("version", encode p.version)]
  decode? dialect d := do
    let get ← d.record? dialect ["cipher", "cipher_mode", "key_size_bits", "version"]
    let missing : EncryptionParams := {}
    return {
      cipher := ← defaulted dialect get "cipher" missing.cipher
      cipherMode := ← defaulted dialect get "cipher_mode" missing.cipherMode
      keySizeBits := ← defaulted dialect get "key_size_bits" missing.keySizeBits
      version := ← defaulted dialect get "version" missing.version }

instance : Codec FilesystemType :=
  ofCases FilesystemType.all FilesystemType.name

instance : Codec MountOptions where
  encode o := .table [("read_only", encode o.readOnly), ("no_dev", encode o.noDev),
    ("no_suid", encode o.noSuid), ("no_exec", encode o.noExec), ("data", encode o.data)]
  decode? dialect d := do
    let get ← d.record? dialect ["read_only", "no_dev", "no_suid", "no_exec", "data"]
    let missing : MountOptions := {}
    return {
      readOnly := ← defaulted dialect get "read_only" missing.readOnly
      noDev := ← defaulted dialect get "no_dev" missing.noDev
      noSuid := ← defaulted dialect get "no_suid" missing.noSuid
      noExec := ← defaulted dialect get "no_exec" missing.noExec
      data := ← defaulted dialect get "data" missing.data }

/-- The entries of a map of creation options, added to `o` in order. -/
def MkfsOptions.insertAll? (dialect : Datum.Dialect) (o : MkfsOptions) :
    List (String × Datum) → Option MkfsOptions
  | [] => some o
  | (name, d) :: rest => do
    let t ← FilesystemType.all.find? fun t => t.name == name
    let options ← decode? dialect d
    insertAll? dialect (o.insert t options) rest

/-- A map from type names; types without options are left out. -/
instance : Codec MkfsOptions where
  encode o := .table <| FilesystemType.all.filterMap fun t =>
    (o.get? t).map fun options => (t.name, encode options)
  decode? dialect
    | .table fields => MkfsOptions.insertAll? dialect {} fields
    | _ => none

instance : Codec FilesystemSettings where
  encode s := .table [("fs_type", encode s.fsType), ("mkfs_options", encode s.mkfsOptions),
    ("fsck_options", encode s.fsckOptions), ("mount", encode s.mount)]
  decode? dialect d := do
    let get ← d.record? dialect ["fs_type", "mkfs_options", "fsck_options", "mount"]
    let missing : FilesystemSettings := {}
    return {
      fsType := ← defaulted dialect get "fs_type" missing.fsType
      mkfsOptions := ← defaulted dialect get "mkfs_options" missing.mkfsOptions
      fsckOptions := ← defaulted dialect get "fsck_options" missing.fsckOptions
      mount := ← defaulted dialect get "mount" missing.mount }

instance : Codec EraseSettings where
  encode s := .table [("block_size", encode s.blockSize),
    ("transfer_attempts", encode s.transferAttempts),
    ("retry_delay_ms", encode s.retryDelayMs), ("pattern_seed", encode s.patternSeed),
    ("require_locked_for_raw_erase", encode s.requireLockedForRawErase)]
  decode? dialect d := do
    let get ← d.record? dialect ["block_size", "transfer_attempts", "retry_delay_ms",
      "pattern_seed", "require_locked_for_raw_erase"]
    let missing : EraseSettings := {}
    return {
      blockSize := ← defaulted dialect get "block_size" missing.blockSize
      transferAttempts := ← defaulted dialect get "transfer_attempts" missing.transferAttempts
      retryDelayMs := ← defaulted dialect get "retry_delay_ms" missing.retryDelayMs
      patternSeed := ← defaulted dialect get "pattern_seed" missing.patternSeed
      requireLockedForRawErase := ← defaulted dialect get "require_locked_for_raw_erase"
        missing.requireLockedForRawErase }

instance : Codec VolumeSettings where
  encode s := .table [("encryption", encode s.encryption), ("filesystem", encode s.filesystem),
    ("erase", encode s.erase)]
  decode? dialect d := do
    let get ← d.record? dialect ["encryption", "filesystem", "erase"]
    let missing : VolumeSettings := {}
    return {
      encryption := ← defaulted dialect get "encryption" missing.encryption
      filesystem := ← defaulted dialect get "filesystem" missing.filesystem
      erase := ← defaulted dialect get "erase" missing.erase }

end EmmcVault
