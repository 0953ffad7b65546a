import EmmcVault.Fault

/-!
# Sharing a volume between threads

At most one thread works on the volume at a time. A claim is refused while
another is outstanding, not queued. A thread that dies with its claim gives it
back, and the volume stays in the last state it reached.
-/

namespace EmmcVault.Service

/-- A value behind a mutex, which a thread that dies with it poisons. -/
structure Shared (α : Type) where
  value : α
  claimed : Bool := false
  poisoned : Bool := false
deriving Repr

/-- What comes of trying a mutex without waiting for it. -/
inductive Attempt where
  | granted
  /-- Granted, but a thread has died with it before. -/
  | poisoned
  | wouldBlock
deriving DecidableEq, Repr

namespace Shared

variable {α : Type}

def tryLock (s : Shared α) : Attempt × Shared α :=
  if s.claimed then (.wouldBlock, s)
  else (if s.poisoned then .poisoned else .granted, { s with claimed := true })

/-- The value for a new holder. A thread that died has left it in the last state
it reached, which is as good as any. -/
def tryClaim (s : Shared α) : Except Fault (α × Shared α) :=
  match s.tryLock with
  | (.granted, s) | (.poisoned, s) => .ok (s.value, s)
  | (.wouldBlock, _) => .error .claimed

/-- Gives the claim back with what the holder made of the value. -/
def release (s : Shared α) (value : α) : Shared α :=
  { s with value, claimed := false }

/-- The holder dies and leaves the value as far as it has brought it. -/
def abandon (s : Shared α) (value : α) : Shared α :=
  { s.release value with poisoned := true }

theorem tryClaim_free {s : Shared α} (h : s.claimed = false) :
    s.tryClaim = .ok (s.value, { s with claimed := true }) := by
  unfold tryClaim tryLock
  rw [h]
  cases s.poisoned <;> rfl

theorem tryClaim_claimed {s : Shared α} (h : s.claimed = true) : s.tryClaim = .error .claimed := by
  unfold tryClaim tryLock
  rw [h]
  rfl

end Shared

end EmmcVault.Service
