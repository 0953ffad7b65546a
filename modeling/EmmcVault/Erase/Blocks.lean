/-!
# Block by block

An area of `remaining` bytes is covered by blocks of one size from its start
on; only the last block may be shorter.
-/

namespace EmmcVault.Blocks

/-- Runs `step offset length` for each block in turn, handing a value from
block to block. -/
def run {ε τ α : Type} (size : Nat) (positive : 0 < size)
    (step : (offset length : Nat) → α → EStateM ε τ α) (offset remaining : Nat) (a : α) :
    EStateM ε τ α :=
  if remaining = 0 then pure a
  else
    let length := min size remaining
    step offset length a >>= run size positive step (offset + length) (remaining - length)
termination_by remaining

end EmmcVault.Blocks
