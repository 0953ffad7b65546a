import EmmcVault.Linux.Sandbox.Basic
import EmmcVault.Linux.Sandbox.Lookup

/-!
# Directories and files of the machine

The calls that work on paths. Their failures are those of the kernel.
-/

namespace EmmcVault.Linux.Sandbox

open Text

/-- What a path leads to. -/
def stat? (s : Sandbox) (p : Path) : Option (Place × Node) :=
  (find s.tree s.current p).toOption

def pathExists (s : Sandbox) (p : Path) : Bool :=
  (s.stat? p).isSome

def isDirectory (s : Sandbox) (p : Path) : Bool :=
  (s.stat? p).any fun (_, node) => node == .directory

/-- Runs a call that may replace the tree. -/
def onTree {α : Type} (call : Tree → Place → Except IoError (α × Tree)) : SystemCall Sandbox α :=
  fun s =>
    match call s.tree s.current with
    | .ok (a, tree) => .ok a { s with tree }
    | .error e => .error e s

def makeDirectory (p : Path) : SystemCall Sandbox Unit := onTree fun t current => do
  match ← target t current p with
  | .named dir name _ =>
    if (t.node? (dir ++ [name])).isSome then throw (.kernel .alreadyExists)
    else pure ((), t.add (dir ++ [name]) .directory)
  | _ => throw (.kernel .alreadyExists)

def removeDirectory (p : Path) : SystemCall Sandbox Unit := onTree fun t current => do
  match ← target t current p with
  | .root => throw (.kernel .busy)
  | .here _ => throw (.kernel .invalid)
  | .up _ => throw (.kernel .notEmpty)
  | .named dir name _ =>
    match t.node? (dir ++ [name]) with
    | none => throw (.kernel .notFound)
    | some .directory =>
      if (t.names (dir ++ [name])).isEmpty then pure ((), t.remove (dir ++ [name]))
      else throw (.kernel .notEmpty)
    | some _ => throw (.kernel .notDirectory)

def readFile (p : Path) : SystemCall Sandbox Bytes := onTree fun t current => do
  match ← find t current p with
  | (_, .directory) => throw (.kernel .isDirectory)
  | (_, .file f) => pure (f.content.toList, t)
  | (_, .null) => pure ([], t)

def addFile (t : Tree) (current : Place) (p : Path) (permissions : Nat) :
    Except IoError (Place × Tree) := do
  match ← target t current p with
  | .named dir name false =>
    if (t.node? (dir ++ [name])).isSome then throw (.kernel .alreadyExists)
    else pure (dir ++ [name], t.add (dir ++ [name]) (.file ⟨.empty, permissions⟩))
  | _ => throw (.kernel .isDirectory)

def createFile (p : Path) (permissions : Nat) : SystemCall Sandbox Unit :=
  onTree fun t current => return ((), (← addFile t current p permissions).2)

def writeFile (p : Path) (content : Bytes) : SystemCall Sandbox Unit := onTree fun t current => do
  match ← find t current p with
  | (_, .directory) => throw (.kernel .isDirectory)
  | (place, .file _) => pure ((), t.setContent place ⟨content.toArray⟩)
  | (_, .null) => pure ((), t)

def fileAt? (s : Sandbox) (p : Path) : Option File :=
  match s.stat? p with
  | some (_, .file f) => some f
  | _ => none

def fileLength (s : Sandbox) (p : Path) : Option Nat :=
  (s.fileAt? p).map (·.content.size)

def removeFile (p : Path) : SystemCall Sandbox Unit := onTree fun t current => do
  match ← find t current p with
  | (_, .directory) => throw (.kernel .isDirectory)
  | (place, _) => pure ((), t.remove place)

/-- The names of the temporary files. -/
def temporaryNames (s : Sandbox) : List Bytes :=
  s.tree.names s.temporary

def pathOf (place : Place) : Path :=
  Path.Key.path ⟨true, place⟩

/-- The name of the `n`-th file for a secret. -/
def secretName (n : Nat) : Bytes :=
  Utf8.encode s!"emmc-storage-{n}.key"

/-- The first such name that is free. -/
def temporaryPath (s : Sandbox) : Path :=
  let taken := s.temporaryNames
  let free := (List.range taken.length).find? fun n => !taken.contains (secretName n)
  pathOf (s.temporary ++ [secretName (free.getD taken.length)])

/-- Without the directory for temporary files. -/
def withoutTemporary (s : Sandbox) : Sandbox :=
  { s with tree := s.tree.removeAll s.temporary }

/-- The temporary file that an argument names. -/
def temporaryFile? (s : Sandbox) (arg : Bytes) : Option File :=
  match s.stat? ⟨arg⟩ with
  | some (place, .file f) => if place.dropLast = s.temporary then some f else none
  | _ => none

end Sandbox

end EmmcVault.Linux
