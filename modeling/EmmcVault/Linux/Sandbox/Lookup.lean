import EmmcVault.Errno
import EmmcVault.Linux.Sandbox.Tree

/-!
# Looking paths up

A path is followed part by part from the root or from the current directory.
`.` stays, `..` goes up and never above the root, every other part but the last
must name a directory. What may stand at the end depends on the call.
-/

namespace EmmcVault.Linux.Sandbox

open Text

/-- Octets of the longest name. -/
def maxName : Nat := 255

/-- Octets of the longest path. -/
def maxPath : Nat := 4095

def walk (t : Tree) (dir : Place) : List Bytes → Except Errno Place
  | [] => .ok dir
  | name :: rest =>
    if name = Path.here then walk t dir rest
    else if name = Path.up then walk t dir.dropLast rest
    else if maxName < name.length then .error .nameTooLong
    else
      match t.node? (dir ++ [name]) with
      | none => .error .notFound
      | some .directory => walk t (dir ++ [name]) rest
      | some _ => .error .notDirectory

/-- The end of a path. -/
inductive Target where
  /-- The root, or a last part `.` or `..`: always a directory. -/
  | root
  | here (dir : Place)
  | up (dir : Place)
  /-- A name in a directory, and whether a separator follows it. -/
  | named (dir : Place) (name : Bytes) (closed : Bool)

/-- Follows a path up to its last part. -/
def target (t : Tree) (current : Place) (p : Path) : Except IoError Target := do
  if p.octets.contains 0 then throw (.other "file name contained an unexpected NUL byte")
  else if p.octets.isEmpty then throw (.kernel .notFound)
  else if maxPath < p.octets.length then throw (.kernel .nameTooLong)
  else
    match p.parts.getLast? with
    | none => pure .root
    | some last =>
      let start := if p.isAbsolute then [] else current
      let dir ← (walk t start p.parts.dropLast).mapError .kernel
      if last = Path.here then pure (.here dir)
      else if last = Path.up then pure (.up dir)
      else if maxName < last.length then throw (.kernel .nameTooLong)
      else pure (.named dir last (p.octets.getLast? == some Path.separator))

/-- The place a path leads to and what is there. -/
def find (t : Tree) (current : Place) (p : Path) : Except IoError (Place × Node) := do
  match ← target t current p with
  | .root => pure ([], .directory)
  | .here dir => pure (dir, .directory)
  | .up dir => pure (dir.dropLast, .directory)
  | .named dir name closed =>
    match t.node? (dir ++ [name]) with
    | none => throw (.kernel .notFound)
    | some .directory => pure (dir ++ [name], .directory)
    | some node => if closed then throw (.kernel .notDirectory) else pure (dir ++ [name], node)

end EmmcVault.Linux.Sandbox
