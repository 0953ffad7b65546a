import EmmcVault.Datum.Codec
import EmmcVault.Fault

/-!
# Written forms of volumes, requests and errors

A field in a reader's list of names is required unless it is given a value for
the case that it is missing.
-/

namespace EmmcVault

open Codec

instance : Codec GeometryBounds where
  encode b := .table [("min_bytes", encode b.minBytes), ("max_bytes", encode b.maxBytes)]
  decode? dialect d := do
    let get ← d.record? dialect ["min_bytes", "max_bytes"]
    return ⟨← required dialect get "min_bytes", ← required dialect get "max_bytes"⟩

instance : Codec LockState :=
  ofCases [.locked, .unlocked] LockState.name

instance : Codec VolumeIdentity where
  encode v := .table [("device_path", encode v.device), ("container_name", encode v.container),
    ("mount_point", encode v.mountPoint)]
  decode? dialect d := do
    let get ← d.record? dialect ["device_path", "container_name", "mount_point"]
    return {
      device := ← required dialect get "device_path"
      container := ← required dialect get "container_name"
      mountPoint := ← required dialect get "mount_point" }

instance : Codec VolumeMetadata where
  encode m := .table [("capacity_bytes", encode m.capacityBytes),
    ("life_remaining_percent", encode m.lifeRemainingPercent),
    ("part_number", encode m.partNumber), ("serial_number", encode m.serialNumber)]
  decode? dialect d := do
    let get ← d.record? dialect
      ["capacity_bytes", "life_remaining_percent", "part_number", "serial_number"]
    let missing : VolumeMetadata := {}
    return {
      capacityBytes := ← defaulted dialect get "capacity_bytes" missing.capacityBytes
      lifeRemainingPercent :=
        ← defaulted dialect get "life_remaining_percent" missing.lifeRemainingPercent
      partNumber := ← defaulted dialect get "part_number" missing.partNumber
      serialNumber := ← defaulted dialect get "serial_number" missing.serialNumber }

instance : Codec EraseMethod :=
  ofCases [.verifyGeometry, .pattern, .zero, .sanitize, .cryptoErase] EraseMethod.name

instance : Codec ErasePass :=
  ofCases [.overwrite, .verify] ErasePass.name

instance : Codec EraseReport where
  encode r := .table [("method", encode r.method), ("amount", encode r.amount)]
  decode? dialect d := do
    let get ← d.record? dialect ["method", "amount"]
    return ⟨← required dialect get "method", ← required dialect get "amount"⟩

instance : Codec ErrorKind :=
  ofCases ErrorKind.all ErrorKind.name

/-- The failed cleanup is left out when there is none. -/
instance : Codec StorageError where
  encode e := .table ([("kind", encode e.kind), ("message", encode e.message)] ++
    if e.rollback.isEmpty then [] else [("rollback", encode e.rollback)])
  decode? dialect d := do
    let get ← d.record? dialect ["kind", "message", "rollback"]
    return {
      kind := ← required dialect get "kind"
      message := ← required dialect get "message"
      rollback := ← defaulted dialect get "rollback" [] }

end EmmcVault
