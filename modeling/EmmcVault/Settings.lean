import EmmcVault.Filesystem
import EmmcVault.Luks

/-!
# Settings of a managed volume

Cipher, filesystem and erase tunables, with the values that hold where nothing
is configured.
-/

namespace EmmcVault

/-- Extra arguments of the filesystem creation tools, for the types that have
any configured. -/
structure MkfsOptions where
  ext4 : Option (List String) := none
  ext3 : Option (List String) := none
  ext2 : Option (List String) := none
  xfs : Option (List String) := none
  vfat : Option (List String) := none
deriving DecidableEq, Repr

namespace MkfsOptions

def get? (o : MkfsOptions) : FilesystemType → Option (List String)
  | .ext4 => o.ext4
  | .ext3 => o.ext3
  | .ext2 => o.ext2
  | .xfs => o.xfs
  | .vfat => o.vfat

def insert (o : MkfsOptions) (t : FilesystemType) (options : List String) : MkfsOptions :=
  match t with
  | .ext4 => { o with ext4 := some options }
  | .ext3 => { o with ext3 := some options }
  | .ext2 => { o with ext2 := some options }
  | .xfs => { o with xfs := some options }
  | .vfat => { o with vfat := some options }

theorem get?_insert (o : MkfsOptions) (t u : FilesystemType) (options : List String) :
    (o.insert t options).get? u = if u = t then some options else o.get? u := by
  cases t <;> cases u <;> rfl

/-- Inode tables and journal are initialised at once, so that the first mount
starts no background writes. -/
def eager : List String := ["-E", "lazy_itable_init=0,lazy_journal_init=0"]

def standard : MkfsOptions where
  ext4 := some eager
  ext3 := some eager
  ext2 := some eager

end MkfsOptions

structure FilesystemSettings where
  /-- Filesystem mounted on unlock until a format picks another. -/
  fsType : FilesystemType := .ext4
  mkfsOptions : MkfsOptions := .standard
  fsckOptions : List String := ["-p"]
  mount : MountOptions := {}
deriving DecidableEq, Repr

/-- Extra arguments for creating a filesystem of type `t`. -/
def FilesystemSettings.mkfsOptionsFor (s : FilesystemSettings) (t : FilesystemType) :
    List String :=
  (s.mkfsOptions.get? t).getD []

structure EraseSettings where
  /-- Bytes moved at a time by the overwrite methods. -/
  blockSize : UInt64 := 4096
  /-- Transfers allowed for each block of a zero overwrite. -/
  transferAttempts : UInt32 := 32
  /-- Pause after a short transfer. -/
  retryDelayMs : UInt64 := 1
  /-- Seed of the reproducible overwrite pattern. -/
  patternSeed : UInt32 := 0x6A656272
  /-- Refuse the methods that write the raw device while the volume is open. -/
  requireLockedForRawErase : Bool := true
deriving DecidableEq, Repr

structure VolumeSettings where
  encryption : EncryptionParams := {}
  filesystem : FilesystemSettings := {}
  erase : EraseSettings := {}
deriving DecidableEq, Repr

end EmmcVault
