import EmmcVault.Backend

/-!
# Journal of backend calls

The calls made on the in-memory header and directory tree, in order, and the
failures armed for them. A call of an armed kind is recorded and then fails
with the armed status.
-/

namespace EmmcVault.Memory

inductive CallKind where
  | format
  | addKeyslot
  | load
  | activate
  | deactivate
  | destroyKeyslot
  | maxKeyslots
  | keyslotStatus
  | changePassphrase
  | makeFilesystem
  | checkFilesystem
  | mount
  | unmount
  | createDirectory
  | removeDirectory
  | directoryExists
deriving DecidableEq, Repr

namespace CallKind

def all : List CallKind :=
  [format, addKeyslot, load, activate, deactivate, destroyKeyslot, maxKeyslots, keyslotStatus,
    changePassphrase, makeFilesystem, checkFilesystem, mount, unmount, createDirectory,
    removeDirectory, directoryExists]

def name : CallKind → String
  | format => "format"
  | addKeyslot => "keyslot_add_by_volume_key"
  | load => "load"
  | activate => "activate_by_passphrase"
  | deactivate => "deactivate"
  | destroyKeyslot => "keyslot_destroy"
  | maxKeyslots => "keyslot_max"
  | keyslotStatus => "keyslot_status"
  | changePassphrase => "keyslot_change_by_passphrase"
  | makeFilesystem => "run_mkfs"
  | checkFilesystem => "run_fsck"
  | mount => "mount"
  | unmount => "unmount"
  | createDirectory => "create_directory"
  | removeDirectory => "remove_directory"
  | directoryExists => "directory_exists"

def ofName? (name : String) : Option CallKind :=
  all.find? (·.name = name)

end CallKind

/-- The status an injected failure reports unless another is given: the
negated number of an input or output error. -/
def injectedFailure : Int := -5

structure Journal where
  calls : List CallKind := []
  armed : CallKind → Option Int := fun _ => none

namespace Journal

def count (j : Journal) (kind : CallKind) : Nat :=
  j.calls.count kind

/-- Every later call of the kind fails. -/
def arm (j : Journal) (kind : CallKind) (code : Int) : Journal :=
  { j with armed := fun k => if k = kind then some code else j.armed k }

def disarm (j : Journal) : Journal :=
  { j with armed := fun _ => none }

/-- Forgets the calls; armed failures stay. -/
def clear (j : Journal) : Journal :=
  { j with calls := [] }

def note (j : Journal) (kind : CallKind) : Journal :=
  { j with calls := j.calls ++ [kind] }

end Journal

end EmmcVault.Memory
