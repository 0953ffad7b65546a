import EmmcVault.Backend
import EmmcVault.Buffer
import EmmcVault.Memory.Journal

/-!
# An in-memory block device

A device of fixed size under one path, with faults that can be switched on: a
cap on transfers, transfers that move nothing, and failing calls. With a
register it is an eMMC card, on which a sanitize zeroes the data and any other
switch writes one octet of the register.
-/

namespace EmmcVault.Memory

structure Disk where
  path : Path
  data : ByteArray
  register : Option Mmc.ExtCsd := none
  /-- Most bytes one transfer moves. -/
  maxTransfer : Option Nat := none
  /-- Coming transfers that move nothing. -/
  stalls : Nat := 0
  failCommands : Bool := false
  /-- Fail the writing of the register while reading works. -/
  failSwitch : Bool := false
  failSize : Bool := false
  failSync : Bool := false
  syncs : Nat := 0
  commands : List Mmc.Command := []
  openHandles : Nat := 0
  opens : Nat := 0

structure DiskHandle where
  mode : OpenMode
  position : Nat := 0
deriving DecidableEq, Repr

namespace Disk

/-- A disk of `size` bytes of the value 0xAA. -/
def blank (path : Path) (size : Nat) (register : Option Mmc.ExtCsd) : Disk where
  path
  data := Buffer.constant size 0xAA
  register

def fill (d : Disk) (value : UInt8) : Disk :=
  { d with data := Buffer.constant d.data.size value }

/-- Bytes that the next transfer of `requested` bytes at `position` moves. -/
def transferLength (d : Disk) (requested position : Nat) : Nat :=
  if 0 < d.stalls then 0
  else
    let length := min requested (d.data.size - position)
    match d.maxTransfer with
    | none => length
    | some cap => min length cap

/-- A transfer uses up one stall. -/
def afterTransfer (d : Disk) : Disk :=
  { d with stalls := d.stalls - 1 }

/-- A call that the handle was not opened for. -/
def wrongMode (call : String) : BackendError :=
  .io call (.kernel .badHandle)

def openHandle (path : Path) (mode : OpenMode) : Call Disk DiskHandle := fun d =>
  if path.key = d.path.key then
    .ok { mode } { d with openHandles := d.openHandles + 1, opens := d.opens + 1 }
  else .error (.io "open" (.missing "entity not found")) d

def read (requested : Nat) : Call (Disk × DiskHandle) Transfer := fun (d, h) =>
  if h.mode.readable then
    let length := d.transferLength requested h.position
    let bytes := d.data.extract h.position (h.position + length)
    .ok ⟨length, bytes⟩ (d.afterTransfer, { h with position := h.position + length })
  else .error (wrongMode "read") (d, h)

def write (bytes : ByteArray) : Call (Disk × DiskHandle) Nat := fun (d, h) =>
  if h.mode.writable then
    let length := d.transferLength bytes.size h.position
    let data := Buffer.overlay d.data h.position (bytes.extract 0 length)
    .ok length ({ d.afterTransfer with data }, { h with position := h.position + length })
  else .error (wrongMode "write") (d, h)

def sync : Call (Disk × DiskHandle) Unit := fun (d, h) =>
  if d.failSync then .error (.status "sync" injectedFailure) (d, h)
  else .ok () ({ d with syncs := d.syncs + 1 }, h)

def size : Call (Disk × DiskHandle) UInt64 := fun (d, h) =>
  if d.failSize then .error (.status "size_bytes" injectedFailure) (d, h)
  else .ok d.data.size.toUInt64 (d, h)

/-- A switch: the sanitize octet zeroes the data, another octet is stored. -/
def switched (d : Disk) (register : Mmc.ExtCsd) (index value : UInt8) : Disk :=
  if index.toNat = Mmc.ExtCsd.sanitizeStart.val then d.fill 0
  else { d with register := some (register.set (index.toFin.castLE (by decide)) value) }

/-- A command on the card, noted whether it succeeds or not. -/
def command (c : Mmc.Command) (buffer : ByteArray) : Call (Disk × DiskHandle) ByteArray :=
  fun (d, h) =>
    let d := { d with commands := d.commands ++ [c] }
    if d.failCommands then .error (.status "mmc_command" injectedFailure) (d, h)
    else
      match d.register with
      | none => .error (.failed "mmc_command" "not an MMC device") (d, h)
      | some register =>
        if c.opcode = Mmc.Command.sendExtCsdOpcode then
          .ok (Buffer.fillFront buffer register.toBytes) (d, h)
        else
          match c.switchIndex?, c.switchValue? with
          | some index, some value =>
            if d.failSwitch then .error (.status "mmc_command" injectedFailure) (d, h)
            else .ok buffer (d.switched register index value, h)
          | _, _ => .error (.failed "mmc_command" s!"unsupported opcode {c.opcode}") (d, h)

def close : Disk × DiskHandle → Disk
  | (d, _) => { d with openHandles := d.openHandles - 1 }

def devices : BlockDevices Disk DiskHandle where
  openHandle := openHandle
  read := read
  write := write
  sync := sync
  size := size
  command := command
  close := close

end Disk

end EmmcVault.Memory
