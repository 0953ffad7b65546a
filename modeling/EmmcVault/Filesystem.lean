import EmmcVault.Text.Blank

/-!
# Filesystems

Types the cleartext volume can be formatted with and the options it is mounted
with.
-/

namespace EmmcVault

open Text

inductive FilesystemType where
  | ext4
  | ext3
  | ext2
  | xfs
  | vfat
deriving DecidableEq, Repr

namespace FilesystemType

def all : List FilesystemType := [ext4, ext3, ext2, xfs, vfat]

def name : FilesystemType → String
  | ext4 => "ext4"
  | ext3 => "ext3"
  | ext2 => "ext2"
  | xfs => "xfs"
  | vfat => "vfat"

def mkfsTool (t : FilesystemType) : String :=
  s!"mkfs.{t.name}"

/-- Reads a type name; `fat32` is another name of `vfat`. Blanks around it and
the case of its letters do not matter. A refusal shows the folded name. -/
def parse (text : String) : Except String FilesystemType :=
  let folded := String.ofList (foldCase (trim text.toList))
  if folded = "fat32" then .ok vfat
  else
    match all.find? (fun t => t.name = folded) with
    | some t => .ok t
    | none => .error s!"unsupported filesystem type: {folded}"

end FilesystemType

/-- Flags and data handed to the mount call. -/
structure MountOptions where
  readOnly : Bool := false
  noDev : Bool := false
  noSuid : Bool := false
  noExec : Bool := false
  /-- Options only the filesystem understands, such as `errors=remount-ro`. -/
  data : Option String := none
deriving DecidableEq, Repr

end EmmcVault
