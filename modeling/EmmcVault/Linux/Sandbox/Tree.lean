import EmmcVault.Buffer
import EmmcVault.Path

/-!
# A directory tree in memory

Which places hold a directory, a file or the null device. The root is always a
directory. What lies in a directory is told by the places alone.
-/

namespace EmmcVault.Linux.Sandbox

open Text

/-- Names from the root down. -/
abbrev Place := List Bytes

structure File where
  content : ByteArray
  permissions : Nat := 0o644
deriving DecidableEq

inductive Node where
  | directory
  | file (f : File)
  /-- The device that holds nothing and swallows what is written to it. -/
  | null
deriving DecidableEq

structure Tree where
  entries : List (Place × Node) := []
deriving DecidableEq

namespace Tree

def node? (t : Tree) (place : Place) : Option Node :=
  if place.isEmpty then some .directory else t.entries.lookup place

def isDirectory (t : Tree) (place : Place) : Bool :=
  t.node? place == some .directory

def file? (t : Tree) (place : Place) : Option File :=
  match t.node? place with
  | some (.file f) => some f
  | _ => none

/-- A new entry at a place that is free. -/
def add (t : Tree) (place : Place) (node : Node) : Tree :=
  ⟨(place, node) :: t.entries⟩

/-- Another node at a place that is taken. -/
def replace (t : Tree) (place : Place) (node : Node) : Tree :=
  ⟨t.entries.map fun (p, n) => if p = place then (p, node) else (p, n)⟩

/-- Other content of the file at a place. -/
def setContent (t : Tree) (place : Place) (content : ByteArray) : Tree :=
  match t.file? place with
  | some f => t.replace place (.file { f with content })
  | none => t

def remove (t : Tree) (place : Place) : Tree :=
  ⟨t.entries.filter fun (p, _) => p != place⟩

def removeAll (t : Tree) (place : Place) : Tree :=
  ⟨t.entries.filter fun (p, _) => p.take place.length != place⟩

def names (t : Tree) (dir : Place) : List Bytes :=
  t.entries.filterMap fun (p, _) =>
    match p.getLast? with
    | some name => if p = dir ++ [name] then some name else none
    | none => none

end Tree

end EmmcVault.Linux.Sandbox
