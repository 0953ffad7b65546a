import EmmcVault.Linux.Directory
import EmmcVault.Linux.Tool

/-!
# Filesystems of the system

Filesystems are made and checked by the tools of their type and mounted by the
kernel. A check that corrected errors leaves a usable filesystem.
-/

namespace EmmcVault

open Text

namespace Linux

def mountFlags (o : MountOptions) : Nat :=
  (if o.readOnly then 1 else 0) ||| (if o.noSuid then 2 else 0) |||
    (if o.noDev then 4 else 0) ||| (if o.noExec then 8 else 0)

/-- Exit codes of a check after which the filesystem can be used. -/
def checkPassed (code : Option Int) : Bool :=
  code == some 0 || code == some 1

/-- Options first, the device last. -/
def toolArgs (options : List String) (device : Path) : List Bytes :=
  options.map Utf8.encode ++ [device.octets]

def checkTool : String := "fsck"

namespace Host

variable {σ η : Type} (h : Host σ η)

def makeFilesystem (device : Path) (t : FilesystemType) (options : List String) :
    SystemTask σ Unit := do
  let tool := t.mkfsTool
  h.requireTool tool (.operationFailed s!"{tool} is not installed")
  let _ ← h.runChecked { program := tool, args := toolArgs options device }

def checkFilesystem (device : Path) (t : FilesystemType) (options : List String) :
    SystemTask σ Unit := do
  h.requireTool checkTool (.toolNotFound checkTool)
  let report ← h.report {
    program := checkTool
    args := Utf8.encode "-t" :: Utf8.encode t.name :: toolArgs options device }
  if checkPassed report.code then pure () else throw (report.failure checkTool)

/-- Text that goes to the kernel must not hold a NUL. -/
def reachesKernel (octets : Bytes) : Bool :=
  !octets.contains 0

def mountDevice (source target : Path) (t : FilesystemType) (o : MountOptions) :
    KernelCall σ Unit :=
  if reachesKernel source.octets && reachesKernel target.octets &&
      reachesKernel (Utf8.encode (o.data.getD "")) then
    h.mount { source, target, fsType := t, flags := mountFlags o, data := o.data }
  else throw Errno.invalid

def unmountTarget (target : Path) : KernelCall σ Unit :=
  if reachesKernel target.octets then h.unmount target else throw Errno.invalid

def filesystem : FilesystemBackend σ where
  makeFilesystem device t options := (h.makeFilesystem device t options).serving "run_mkfs"
  checkFilesystem device t options := (h.checkFilesystem device t options).serving "run_fsck"
  mount source target t o := (h.mountDevice source target t o).adaptExcept (kernelStatus "mount")
  unmount target := (h.unmountTarget target).adaptExcept (kernelStatus "unmount")
  createDirectory p := (h.makeDirectories p).adaptExcept (.io "create_directory")
  removeDirectory p := (h.removeDirectory p).adaptExcept (.io "remove_directory")
  directoryExists p := fun s => (h.isDirectory s p, s)

end Host

end Linux

end EmmcVault
