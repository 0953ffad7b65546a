import EmmcVault.Memory.Bench
import EmmcVault.Proofs.Transition

/-!
# Histories of a managed volume

What has been done to a volume on a bench since a start: the operations run,
each with the volume and the bench before and after it. Between operations
failures are armed and cleared, and the device may be changed as far as a
relation allows.
-/

namespace EmmcVault

/-- What an operation leads to, whether it succeeds or fails. -/
theorem Managed.perform_of_triple {σ η : Type} {m : Managed σ} {b : Backends σ η}
    {operation : Operation} {P : Except Failure Operation.Answer → Managed σ → Prop}
    (h : Triple (operation.run b m.volume) m.world (fun a w => P (.ok a.1) ⟨a.2, w⟩)
      (fun f w => P (.error f) { m with world := w })) :
    P (m.perform b operation).1 (m.perform b operation).2 := by
  unfold Triple at h
  rw [Managed.perform_eq]
  split at h <;> rename_i hx <;> simp only [hx] <;> exact h

theorem Managed.run_of_perform_error {σ η : Type} {m m' : Managed σ} {b : Backends σ η}
    {operation : Operation} {f : Failure} (h : m.perform b operation = (.error f, m')) :
    operation.run b m.volume m.world = .error f m'.world := by
  rw [Managed.perform_eq] at h
  split at h
  · cases h
  · rename_i hx
    cases h
    exact hx

instance decidableEqEnding {ε α : Type} [DecidableEq ε] [DecidableEq α] : DecidableEq (Except ε α)
  | .ok a, .ok b => decidable_of_iff (a = b) (Except.ok.injEq a b ▸ .rfl)
  | .error e, .error f => decidable_of_iff (e = f) (Except.error.injEq e f ▸ .rfl)
  | .ok _, .error _ => .isFalse nofun
  | .error _, .ok _ => .isFalse nofun

namespace Memory

/-- An operation that was run. -/
structure Event (δ : Type) where
  before : Managed (Bench δ)
  operation : Operation
  outcome : Except Failure Operation.Answer
  after : Managed (Bench δ)

def Event.of {δ η : Type} (b : Backends (Bench δ) η) (m : Managed (Bench δ))
    (operation : Operation) : Event δ where
  before := m
  operation
  outcome := (m.perform b operation).1
  after := (m.perform b operation).2

/-- The events since `start` that led to a state, the newest first. Devices
between operations are changed as `R` allows. -/
inductive History {δ η : Type} (b : Backends (Bench δ) η) (R : δ → δ → Prop)
    (start : Managed (Bench δ)) : List (Event δ) → Managed (Bench δ) → Prop
  | start : History b R start [] start
  | perform {events m} (operation : Operation) : History b R start events m →
      History b R start (.of b m operation :: events) (m.perform b operation).2
  | arm {events m} (kind : CallKind) (code : Int) : History b R start events m →
      History b R start events
        { m with world := { m.world with journal := m.world.journal.arm kind code } }
  | disarm {events m} : History b R start events m →
      History b R start events
        { m with world := { m.world with journal := m.world.journal.disarm } }
  | rearrange {events m} (device : δ) : R m.world.device device → History b R start events m →
      History b R start events { m with world := { m.world with device } }

/-- A locked volume on a blank disk, with nothing open and nothing armed. -/
def sample : Managed (Bench Disk) where
  volume := .attach ⟨.ofString "/dev/mmcblk0p5", "data", .ofString "/mnt/data"⟩ ⟨0, 1024⟩ {}
  world := { device := .blank (.ofString "/dev/mmcblk0p5") 16 none }

end Memory

end EmmcVault
