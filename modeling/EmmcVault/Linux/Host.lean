import EmmcVault.Backend
import EmmcVault.Linux.SystemError

/-!
# The operating system

What the Linux backends ask of the system they run on: tools, directories,
mounts, small files and open files, as a record of calls on a world `σ` whose
open files are values of `η`. A call that a signal interrupts is resumed, so
no call fails for that reason.
-/

namespace EmmcVault.Linux

open Text

/-- A call of the system, which may change the world whether it succeeds or
not. -/
abbrev SystemCall (σ : Type) := EStateM IoError σ

/-- A call of the kernel that fails with a bare number. -/
abbrev KernelCall (σ : Type) := EStateM Errno σ

/-- What a tool is started with. -/
structure ToolCommand where
  program : String
  args : List Bytes
  /-- Whether its standard input is a pipe; otherwise there is nothing to read. -/
  piped : Bool := false
deriving DecidableEq, Repr

/-- What a tool leaves behind. -/
structure ToolOutput where
  /-- Exit code; a tool that a signal ended has none. -/
  code : Option Int := some 0
  out : Bytes := []
  err : Bytes := []
deriving DecidableEq, Repr

structure MountCall where
  source : Path
  target : Path
  fsType : FilesystemType
  flags : Nat
  data : Option String
deriving DecidableEq, Repr

/-- The words of the kernel's record of a card command, without the address of
its data. -/
abbrev CommandWords := Vector UInt32 16

structure Host (σ η : Type) where
  hasTool : σ → String → Bool
  start : ToolCommand → SystemCall σ Unit
  /-- Write to the standard input of the tool that was started last, and close
  it. It may take all or fail. -/
  feed : Bytes → SystemCall σ Unit
  /-- Wait for the tool that was started last to end. -/
  wait : SystemCall σ ToolOutput
  pathExists : σ → Path → Bool
  isDirectory : σ → Path → Bool
  makeDirectory : Path → SystemCall σ Unit
  removeDirectory : Path → SystemCall σ Unit
  mount : MountCall → KernelCall σ Unit
  unmount : Path → KernelCall σ Unit
  readFile : Path → SystemCall σ Bytes
  /-- A path in the directory for temporary files that is not in use. -/
  temporaryPath : σ → Path
  /-- Make an empty file that was not there, with the given permissions. -/
  createFile : Path → (permissions : Nat) → SystemCall σ Unit
  /-- Replace what a file holds and push it to the disk. -/
  writeFile : Path → Bytes → SystemCall σ Unit
  fileLength : σ → Path → Option Nat
  removeFile : Path → SystemCall σ Unit
  /-- Open a file or device that is there, at its start. -/
  openFile : Path → OpenMode → SystemCall σ η
  /-- Open a file for writing, and make it if it is missing. -/
  openOrCreate : Path → SystemCall σ η
  isRegular : σ × η → Bool
  read : Nat → SystemCall (σ × η) ByteArray
  write : ByteArray → SystemCall (σ × η) Nat
  sync : SystemCall (σ × η) Unit
  length : SystemCall (σ × η) UInt64
  deviceSize : KernelCall (σ × η) UInt64
  /-- Submit a card command, giving the data buffer afterwards. -/
  cardCommand : CommandWords → ByteArray → KernelCall (σ × η) ByteArray
  /-- Lock the file without waiting, unless it is locked through another
  opening; the answer says which. -/
  tryLock : SystemCall (σ × η) Bool
  /-- Close the file, which gives back its lock. -/
  close : σ × η → σ

abbrev SystemTask (σ : Type) := EStateM SystemError σ

/-- A refusal of the kernel as the status of a backend call: its number with a
minus sign, or zero where the number stands for no error. -/
def kernelStatus (call : String) (e : Errno) : BackendError :=
  .status call (if e.isAssigned then -e.code else 0)

/-- The world after a call whose outcome does not matter. -/
def settled {ε σ α : Type} (call : EStateM ε σ α) (s : σ) : σ :=
  match call s with
  | .ok _ s => s
  | .error _ s => s

end EmmcVault.Linux
