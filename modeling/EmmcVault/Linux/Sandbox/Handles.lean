import EmmcVault.Buffer
import EmmcVault.Linux.Sandbox.Files

/-!
# Open files of the machine

Files, directories and the null device once they are opened. A file grows when
it is written at its end. The null device stands for a block device where a
driver with prepared replies is put behind it; it never holds data.
-/

namespace EmmcVault.Linux.Sandbox

structure FileHandle where
  place : Place
  mode : OpenMode
  position : Nat := 0
  /-- Whether the lock on the file is held through this opening. -/
  holdsLock : Bool := false
deriving DecidableEq

abbrev HandleCall := SystemCall (Sandbox × FileHandle)

def openFile (p : Path) (mode : OpenMode) : SystemCall Sandbox FileHandle :=
  onTree fun t current => do
    let (place, node) ← find t current p
    if node = .directory ∧ mode.writable then throw (.kernel .isDirectory)
    else pure ({ place, mode }, t)

/-- Opens the file at a path for writing. One that is missing is made, which
needs a plain name. -/
def openOrCreate (p : Path) : SystemCall Sandbox FileHandle := onTree fun t current => do
  match ← target t current p with
  | .named dir name false =>
    let place := dir ++ [name]
    match t.node? place with
    | some .directory => throw (.kernel .isDirectory)
    | some _ => pure ({ place, mode := .write }, t)
    | none => pure ({ place, mode := .write }, t.add place (.file ⟨.empty, 0o644⟩))
  | _ => throw (.kernel .isDirectory)

def isRegular : Sandbox × FileHandle → Bool
  | (s, f) => (s.tree.file? f.place).isSome

def content (s : Sandbox) (f : FileHandle) : ByteArray :=
  ((s.tree.file? f.place).map File.content).getD .empty

def read (length : Nat) : HandleCall ByteArray := fun (s, f) =>
  if !f.mode.readable then .error (.kernel .badHandle) (s, f)
  else if s.tree.isDirectory f.place then .error (.kernel .isDirectory) (s, f)
  else
    let bytes := (content s f).extract f.position (f.position + length)
    .ok bytes (s, { f with position := f.position + bytes.size })

def write (bytes : ByteArray) : HandleCall Nat := fun (s, f) =>
  if !f.mode.writable then .error (.kernel .badHandle) (s, f)
  else
    let tree := s.tree.setContent f.place (Buffer.overlay (content s f) f.position bytes)
    .ok bytes.size ({ s with tree }, { f with position := f.position + bytes.size })

def sync : HandleCall Unit := fun (s, f) =>
  if s.tree.node? f.place = some .null then .error (.kernel .invalid) (s, f)
  else .ok () (s, f)

def length : HandleCall UInt64 := fun (s, f) =>
  .ok (content s f).size.toUInt64 (s, f)

/-- The driver's next reply to a control call, which is then noted. A file
without a driver takes no control calls. -/
def controlReply (event : KernelEvent) : KernelCall (Sandbox × FileHandle) ControlReply :=
  fun (s, f) =>
    match s.tree.node? f.place, s.control with
    | some .null, some replies =>
      let noted := { s with control := some replies.tail, events := s.events ++ [event] }
      let reply := replies.head?.getD {}
      match reply.errno with
      | some e => .error e (noted, f)
      | none => .ok reply (noted, f)
    | _, _ => .error .notForDevice (s, f)

def deviceSize : KernelCall (Sandbox × FileHandle) UInt64 := do
  return (← controlReply .deviceSize).size

/-- The octets that a card command moves: its block size times its blocks. -/
def transferLength (words : CommandWords) : Nat :=
  words[9].toNat * words[10].toNat

def cardCommand (words : CommandWords) (data : ByteArray) :
    KernelCall (Sandbox × FileHandle) ByteArray := do
  let reply ← controlReply (.cardCommand words (data.size != 0))
  return Buffer.fillFront data (reply.data.extract 0 (transferLength words))

def tryLock : HandleCall Bool := fun (s, f) =>
  if f.place ∈ s.locked then .ok false (s, f)
  else .ok true ({ s with locked := f.place :: s.locked }, { f with holdsLock := true })

def close : Sandbox × FileHandle → Sandbox
  | (s, f) => if f.holdsLock then { s with locked := s.locked.erase f.place } else s

end EmmcVault.Linux.Sandbox
