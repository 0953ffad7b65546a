import EmmcVault.Linux.Sandbox.Handles

/-!
# The machine as a host

Tools and mounts of the machine, and the machine as something the system
backends can run on.
-/

namespace EmmcVault.Linux.Sandbox

open Text

/-- The name under which replies of a tool are prepared. The subcommands of
cryptsetup have replies of their own. -/
def replyKey (run : Process) : String :=
  if run.program = "cryptsetup" then
    let subcommand := Utf8.lossy (run.args.head?.getD [])
    s!"{run.program}.{subcommand}"
  else run.program

/-- Octets of the longest argument. -/
def maxArgument : Nat := 131071

/-- Octets that a pipe holds while nobody reads from it. -/
def pipeCapacity : Nat := 65536

/-- What runs under the name of a program that is not installed. A path is
followed, and the file at its end may have a bit that lets it run. A plain name
is looked for in the search path, where `.` and `..` are found but are
directories. -/
def program (s : Sandbox) (p : Path) : Except IoError Running := do
  if p.octets.contains Path.separator then
    match ← find s.tree s.current p with
    | (_, .file f) =>
      if f.permissions &&& 0o111 = 0 then throw (.kernel .accessDenied) else pure .idle
    | _ => throw (.kernel .accessDenied)
  else if p.octets = Path.here ∨ p.octets = Path.up then throw (.kernel .accessDenied)
  else if maxName < p.octets.length then throw (.kernel .nameTooLong)
  else throw (.kernel .notFound)

def started (s : Sandbox) (c : ToolCommand) : Except IoError Running := do
  if (Utf8.encode c.program).contains 0 || c.args.any (·.contains 0) then
    throw (.other "nul byte found in provided data")
  let running ←
    if s.installed.contains c.program then
      pure (.tool ⟨⟨c.program, c.args, []⟩, c.args.getLast?.bind s.temporaryFile?⟩)
    else s.program (Path.ofString c.program)
  if c.args.any (maxArgument < ·.length) then throw (.kernel .argumentsTooLong)
  return running

def startTool (c : ToolCommand) : SystemCall Sandbox Unit := fun s =>
  match s.started c with
  | .ok running => .ok () { s with running := some running }
  | .error e => .error e s

/-- A tool reads all it is given. What a program leaves in the pipe is lost, and
more than the pipe holds cannot be written. -/
def feedTool (input : Bytes) : SystemCall Sandbox Unit := fun s =>
  match s.running with
  | some (.tool seen) =>
    .ok () { s with running := some (.tool { seen with run := { seen.run with input } }) }
  | _ => if pipeCapacity < input.length then .error (.kernel .brokenPipe) s else .ok () s

/-- A tool answers with the next reply prepared for it, or succeeds without a
word. -/
def waitTool : SystemCall Sandbox ToolOutput := fun s =>
  match s.running with
  | some (.tool seen) =>
    let key := replyKey seen.run
    let noted := { s with running := none, runs := s.runs ++ [seen] }
    match s.replies key with
    | [] => .ok {} noted
    | [reply] => .ok reply noted
    | reply :: rest =>
      .ok reply { noted with replies := fun k => if k = key then rest else s.replies k }
  | some .idle => .ok {} { s with running := none }
  | none => .error (.kernel .noChild) s

/-- The kernel's answer to the first of some prepared replies. -/
def kernelAnswer (replies : List (Option Errno)) (after : Sandbox) : EStateM.Result Errno Sandbox Unit :=
  match replies.head?.join with
  | some e => .error e after
  | none => .ok () after

def mount (call : MountCall) : KernelCall Sandbox Unit := fun s =>
  kernelAnswer s.mounts { s with mounts := s.mounts.tail, events := s.events ++ [.mount call] }

def unmount (target : Path) : KernelCall Sandbox Unit := fun s =>
  kernelAnswer s.unmounts
    { s with unmounts := s.unmounts.tail, events := s.events ++ [.unmount target] }

def host : Host Sandbox FileHandle where
  hasTool s tool := s.installed.contains tool
  start := startTool
  feed := feedTool
  wait := waitTool
  pathExists := pathExists
  isDirectory := isDirectory
  makeDirectory := makeDirectory
  removeDirectory := removeDirectory
  mount := mount
  unmount := unmount
  readFile := readFile
  temporaryPath := temporaryPath
  createFile := createFile
  writeFile := writeFile
  fileLength := fileLength
  removeFile := removeFile
  openFile := openFile
  openOrCreate := openOrCreate
  isRegular := isRegular
  read := read
  write := write
  sync := sync
  length := length
  deviceSize := deviceSize
  cardCommand := cardCommand
  tryLock := tryLock
  close := close

end EmmcVault.Linux.Sandbox
