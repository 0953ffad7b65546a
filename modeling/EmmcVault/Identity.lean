import EmmcVault.Path

/-!
# Volumes

Where an encrypted volume lives, whether it is open, and what is known about
the part it lies on.
-/

namespace EmmcVault

/-- Unlocked means that the mapping is active and the filesystem mounted,
locked that neither is. -/
inductive LockState where
  | locked
  | unlocked
deriving DecidableEq, Repr

namespace LockState

def isLocked : LockState → Bool
  | locked => true
  | unlocked => false

def name : LockState → String
  | locked => "locked"
  | unlocked => "unlocked"

end LockState

/-- The raw device, the name of its mapping and the mount point. -/
structure VolumeIdentity where
  /-- Block device that holds the header. -/
  device : Path
  container : String
  mountPoint : Path
deriving DecidableEq, Repr

/-- Directory that shows active mappings. -/
def mapperDirectory : Path := Path.ofString "/dev/mapper"

/-- The cleartext device once the mapping is active. -/
def VolumeIdentity.mappedDevice (v : VolumeIdentity) : Path :=
  mapperDirectory.join (Path.ofString v.container)

/-- What is known about the physical part. -/
structure VolumeMetadata where
  /-- Raw capacity, zero until it is measured. -/
  capacityBytes : UInt64 := 0
  /-- Estimated remaining life from 0 to 100, if the device reports it. -/
  lifeRemainingPercent : Option UInt8 := none
  partNumber : Option String := none
  serialNumber : Option String := none
deriving DecidableEq, Repr

end EmmcVault
