import EmmcVault.Linux.Directory
import EmmcVault.Service.Error

/-!
# Sharing a volume between processes

A process that works on a volume holds the lock on the volume's file in the
lock directory. A lock that another process holds is not waited for. The lock
is given back with the file.
-/

namespace EmmcVault.Service

open Linux

def lockPath (directory : Path) (name : String) : Path :=
  directory.join (Path.ofString s!"{name}.lock")

structure VolumeLock (η : Type) where
  path : Path
  file : η

namespace VolumeLock

variable {σ η : Type} (h : Host σ η)

/-- Locks a volume, making the directory and the file where they are missing. -/
def acquire (directory : Path) (name : String) : EStateM ServiceError σ (VolumeLock η) := do
  (h.makeDirectories directory).adaptExcept .io
  let path := lockPath directory name
  let file ← (h.openOrCreate path).adaptExcept .io
  fun s =>
    match h.tryLock (s, file) with
    | .ok true (s, file) => .ok ⟨path, file⟩ s
    | .ok false (s, file) => .error (.refused (.inUse name)) (h.close (s, file))
    | .error e (s, file) => .error (.io e) (h.close (s, file))

def release (lock : VolumeLock η) (s : σ) : σ :=
  h.close (s, lock.file)

end VolumeLock

end EmmcVault.Service
