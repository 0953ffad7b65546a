import EmmcVault.Datum.Settings
import EmmcVault.Datum.Volume
import EmmcVault.Settings.Validation
import EmmcVault.Toml.Parser

/-!
# Configuration

The volume a service manages, its settings and where its lock files lie, as
read from TOML. A configuration is used only if its bounds are ordered, its
container name can be the name of a file and its settings are usable.
-/

namespace EmmcVault.Service

open Codec

structure VolumeConfig where
  device : Path
  container : String := "emmc_luks"
  mountPoint : Path := Path.ofString "/mnt/emmc_fs"
  minBytes : UInt64
  maxBytes : UInt64
  partNumber : Option String := none
  serialNumber : Option String := none
deriving DecidableEq, Repr

structure Config where
  volume : VolumeConfig
  settings : VolumeSettings := {}
  /-- Directory of the lock files. -/
  lockDirectory : Path := Path.ofString "/run/emmc-storage"
deriving DecidableEq, Repr

instance : Codec VolumeConfig where
  encode v := .table [("device_path", encode v.device), ("container_name", encode v.container),
    ("mount_point", encode v.mountPoint), ("min_bytes", encode v.minBytes),
    ("max_bytes", encode v.maxBytes), ("part_number", encode v.partNumber),
    ("serial_number", encode v.serialNumber)]
  decode? dialect d := do
    let get ← d.record? dialect ["device_path", "container_name", "mount_point", "min_bytes",
      "max_bytes", "part_number", "serial_number"]
    let missing : VolumeConfig := { device := ⟨[]⟩, minBytes := 0, maxBytes := 0 }
    return {
      device := ← required dialect get "device_path"
      container := ← defaulted dialect get "container_name" missing.container
      mountPoint := ← defaulted dialect get "mount_point" missing.mountPoint
      minBytes := ← required dialect get "min_bytes"
      maxBytes := ← required dialect get "max_bytes"
      partNumber := ← defaulted dialect get "part_number" missing.partNumber
      serialNumber := ← defaulted dialect get "serial_number" missing.serialNumber }

instance : Codec Config where
  encode c := .table [("volume", encode c.volume), ("settings", encode c.settings),
    ("lock_dir", encode c.lockDirectory)]
  decode? dialect d := do
    let get ← d.record? dialect ["volume", "settings", "lock_dir"]
    let volume ← required dialect get "volume"
    let missing : Config := { volume }
    return { missing with
      settings := ← defaulted dialect get "settings" missing.settings
      lockDirectory := ← defaulted dialect get "lock_dir" missing.lockDirectory }

inductive ConfigFault where
  | malformed
  | longKey
  | bounds (minBytes maxBytes : UInt64)
  | containerName (name : String)
  | settings (fault : Fault)
deriving DecidableEq, Repr

def ConfigFault.message : ConfigFault → String
  | malformed => "TOML parse error"
  | longKey => "recursion limit\n"
  | bounds minBytes maxBytes => s!"min_bytes ({minBytes}) exceeds max_bytes ({maxBytes})"
  | containerName name => s!"invalid container name '{name}'"
  | settings fault => fault.message

def ConfigFault.ofFlaw : Toml.Flaw → ConfigFault
  | .malformed => malformed
  | .longKey => longKey

namespace Config

def bounds (c : Config) : GeometryBounds :=
  ⟨c.volume.minBytes, c.volume.maxBytes⟩

def identity (c : Config) : VolumeIdentity where
  device := c.volume.device
  container := c.volume.container
  mountPoint := c.volume.mountPoint

/-- What the configuration knows about the part; the rest is not measured yet. -/
def metadata (c : Config) : VolumeMetadata where
  partNumber := c.volume.partNumber
  serialNumber := c.volume.serialNumber

/-- The first rule that is broken, in the order bounds, container name,
settings. -/
def validate (c : Config) : Except ConfigFault Unit :=
  let name := c.volume.container
  if !c.bounds.isValid then .error (.bounds c.volume.minBytes c.volume.maxBytes)
  else if name.isEmpty || name.toList.contains '/' then .error (.containerName name)
  else c.settings.validate.mapError .settings

/-- Reads a configuration that can be used. -/
def parse (text : String) : Except ConfigFault Config := do
  let d ← (Toml.parse text).mapError ConfigFault.ofFlaw
  match (decode? Toml.dialect d : Option Config) with
  | none => throw .malformed
  | some c =>
    c.validate
    return c

end Config

end EmmcVault.Service
