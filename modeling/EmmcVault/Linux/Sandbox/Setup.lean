import EmmcVault.Linux.Directory
import EmmcVault.Linux.Sandbox.Host

/-!
# Furnishing the machine

Directories and files that are there before anything runs.
-/

namespace EmmcVault.Linux.Sandbox

/-- With a directory and those above it. -/
def withDirectory (s : Sandbox) (p : Path) : Sandbox :=
  settled (host.makeDirectories p) s

/-- With a file, if its directory is there. -/
def withFile (s : Sandbox) (p : Path) (content : ByteArray) : Sandbox :=
  settled (do createFile p 0o644; writeFile p content.toList) s

/-- With one byte of a file changed; one beyond its end makes it longer. -/
def withByte (s : Sandbox) (p : Path) (offset : Nat) (byte : UInt8) : Sandbox :=
  match s.stat? p with
  | some (place, .file f) =>
    let gap := Buffer.zeros (offset + 1 - f.content.size)
    let content := (f.content ++ gap).set! offset byte
    { s with tree := s.tree.setContent place content }
  | _ => s

end EmmcVault.Linux.Sandbox
