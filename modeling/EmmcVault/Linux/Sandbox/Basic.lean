import EmmcVault.Linux.Host
import EmmcVault.Linux.Sandbox.Tree

/-!
# A machine in memory

A Linux system in miniature, on which the system backends can be run without
touching anything: a directory tree, tools that read all they are given and
answer from prepared replies, and a kernel that answers mounts and control calls
from prepared replies. What was asked of tools and kernel is kept, in order.
-/

namespace EmmcVault.Linux

open Text

namespace Sandbox

structure Process where
  program : String
  args : List Bytes
  /-- What was written to its standard input. -/
  input : Bytes := []

/-- A run of a tool, with the secret file its last argument named. -/
structure SeenRun where
  run : Process
  secret : Option File

/-- What runs between a start and the end that is waited for. -/
inductive Running where
  | tool (seen : SeenRun)
  /-- A program that succeeds without reading or saying anything. -/
  | idle

/-- A call that reached the kernel. -/
inductive KernelEvent where
  | mount (call : MountCall)
  | unmount (target : Path)
  | deviceSize
  | cardCommand (words : CommandWords) (hasData : Bool)

/-- A prepared reply to a control call. -/
structure ControlReply where
  errno : Option Errno := none
  /-- The device size it tells. -/
  size : UInt64 := 0
  /-- What it copies into the data of a card command. -/
  data : ByteArray := .empty

end Sandbox

open Sandbox

structure Sandbox where
  tree : Tree := {}
  /-- The directory that relative paths start from. -/
  current : Place := []
  /-- The directory for temporary files. -/
  temporary : Place := []
  installed : List String := []
  /-- The coming replies of a tool; the last one repeats. -/
  replies : String → List ToolOutput := fun _ => []
  /-- The coming replies to mounts and unmounts. -/
  mounts : List (Option Errno) := []
  unmounts : List (Option Errno) := []
  /-- The coming replies of the driver behind the null device, if it has one. -/
  control : Option (List ControlReply) := none
  locked : List Place := []
  running : Option Running := none
  runs : List SeenRun := []
  events : List KernelEvent := []

namespace Sandbox

def forget (s : Sandbox) : Sandbox :=
  { s with runs := [], events := [] }

/-- The directories of a fresh system. -/
def systemDirectories : List String :=
  ["bin", "boot", "dev", "etc", "home", "lib", "media", "mnt", "opt", "proc", "root", "run",
    "sbin", "srv", "sys", "tmp", "usr", "var"]

def standardTools : List String :=
  ["cryptsetup", "fsck"] ++ FilesystemType.all.map FilesystemType.mkfsTool

def fresh : Sandbox :=
  let name (s : String) : Bytes := Utf8.encode s
  let current := [name "root", name "work"]
  let temporary := [name "tmp", name "private"]
  { tree := ⟨systemDirectories.map (fun d => ([name d], Node.directory)) ++
      [([name "bin", name "true"], .file ⟨.empty, 0o755⟩),
        ([name "dev", name "null"], .null), (current, .directory), (temporary, .directory)]⟩
    current
    temporary
    installed := standardTools }

end Sandbox

end EmmcVault.Linux
