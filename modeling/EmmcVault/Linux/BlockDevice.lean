import EmmcVault.Linux.Host

/-!
# Block devices of the system

Raw reads and writes on an opened device, its size, and card commands through
the MMC block driver. A regular file may stand in for a card: it reports its
length and takes no card commands.
-/

namespace EmmcVault.Linux

structure DeviceHandle (η : Type) where
  path : Path
  regular : Bool
  file : η

/-- The kernel's record of a command: the direction, the command and its
argument, room for the response, the flags, the transfer and the time limits. -/
def commandWords (c : Mmc.Command) : CommandWords :=
  #v[if c.write then 1 else 0, 0, c.opcode, c.arg, 0, 0, 0, 0,
    c.flags, c.blockSize, c.blocks, 0, 0, 0, c.timeoutMs, 0]

namespace Host

variable {σ η : Type} (h : Host σ η)

def onFile {ε α : Type} (call : EStateM ε (σ × η) α) (fault : ε → BackendError) :
    Call (σ × DeviceHandle η) α := fun (s, d) =>
  match call (s, d.file) with
  | .ok a (s, file) => .ok a (s, { d with file })
  | .error e (s, file) => .error (fault e) (s, { d with file })

def openDevice (path : Path) (mode : OpenMode) : Call σ (DeviceHandle η) := fun s =>
  match h.openFile path mode s with
  | .ok file s => .ok { path, regular := h.isRegular (s, file), file } s
  | .error e s => .error (.io "open" e) s

def deviceRead (length : Nat) : Call (σ × DeviceHandle η) Transfer := do
  let bytes ← onFile (h.read length) (.io "read")
  return ⟨bytes.size, bytes⟩

def sizeBytes : Call (σ × DeviceHandle η) UInt64 := do
  if (← get).2.regular then onFile h.length (.io "size_bytes")
  else onFile h.deviceSize (kernelStatus "size_bytes")

/-- Submits a card command; the buffer must hold the whole transfer. -/
def mmcCommand (c : Mmc.Command) (data : ByteArray) : Call (σ × DeviceHandle η) ByteArray := do
  let d := (← get).2
  if d.regular then throw (.failed "mmc_command" s!"{d.path} is not an MMC device")
  else if data.size < c.dataLength then
    throw (.failed "mmc_command"
      s!"data buffer of {data.size} bytes is smaller than the {c.dataLength} byte transfer")
  else onFile (h.cardCommand (commandWords c) data) (kernelStatus "mmc_command")

def blockDevices : BlockDevices σ (DeviceHandle η) where
  openHandle := h.openDevice
  read := h.deviceRead
  write bytes := onFile (h.write bytes) (.io "write")
  sync := onFile h.sync (.io "sync")
  size := h.sizeBytes
  command := h.mmcCommand
  close := fun (s, d) => h.close (s, d.file)

end Host

end EmmcVault.Linux
