import EmmcVault.Memory.Journal

/-!
# An in-memory directory tree and mount table

Which paths are directories, what is mounted where, and which filesystem tools
were run. Paths that name the same entry are the same here.
-/

namespace EmmcVault.Memory

structure Mount where
  source : Path
  fsType : FilesystemType
  options : MountOptions
deriving DecidableEq, Repr

structure ToolRun where
  device : Path
  fsType : FilesystemType
  options : List String
deriving DecidableEq, Repr

structure Tree where
  directory : Path.Key → Bool := fun _ => false
  mounted : Path.Key → Option Mount := fun _ => none
  mkfsRuns : List ToolRun := []
  fsckRuns : List ToolRun := []

namespace Tree

def isDirectory (t : Tree) (p : Path) : Bool :=
  t.directory p.key

def mountAt (t : Tree) (p : Path) : Option Mount :=
  t.mounted p.key

def setDirectory (t : Tree) (p : Path) (value : Bool) : Tree :=
  { t with directory := fun k => if k = p.key then value else t.directory k }

def setMount (t : Tree) (p : Path) (mount : Option Mount) : Tree :=
  { t with mounted := fun k => if k = p.key then mount else t.mounted k }

end Tree

end EmmcVault.Memory
