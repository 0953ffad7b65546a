import EmmcVault.Erase.Blocks
import EmmcVault.Erase.Target

/-!
# Zero overwrite

Writes zeros over the device, or checks that it holds nothing else. A transfer
may be short: each block is taken up again from where the last transfer
stopped, until the attempts allowed for a block are used up.
-/

namespace EmmcVault.ZeroErase

/-- The largest count of octets. -/
def maxCount : Nat := UInt64.size - 1

/-- Moves the rest of a block of `length` bytes at `offset`, of which `done`
are moved, in at most `left` of `attempts` transfers. `step` moves what it can
from `done` on and gives the count and the block's buffer. -/
def transfer {τ : Type} (direction : Direction) (offset length : Nat) (attempts : UInt32)
    (step : (done : Nat) → ByteArray → Call τ (Nat × ByteArray)) :
    (left done : Nat) → ByteArray → EStateM Fault τ ByteArray
  | 0, done, buffer =>
    if done < length then throw (.zerosStalled direction offset done length attempts)
    else pure buffer
  | left + 1, done, buffer =>
    if done < length then do
      let (moved, buffer) ← Call.orFault (step done buffer) (.internal (.moveZeros direction offset))
      if maxCount < done + moved then throw (.countTooLarge direction offset)
      else transfer direction offset length attempts step left (done + moved) buffer
    else pure buffer

variable {σ η : Type} (t : EraseTarget σ η)

def writeRest (length done : Nat) (buffer : ByteArray) : Call (σ × η) (Nat × ByteArray) := do
  let moved ← t.devices.write (buffer.extract done length)
  pure (moved, buffer)

def readRest (length done : Nat) (buffer : ByteArray) : Call (σ × η) (Nat × ByteArray) := do
  let moved ← t.devices.read (length - done)
  pure (moved.count, Buffer.overlay buffer done moved.bytes)

def writeBlock (offset length : Nat) (_ : Unit) : EStateM Fault (σ × η) Unit := do
  let attempts := t.settings.transferAttempts
  let _ ← transfer .write offset length attempts (writeRest t length) attempts.toNat 0
    (Buffer.zeros length)

def checkBlock (offset length : Nat) (_ : Unit) : EStateM Fault (σ × η) Unit := do
  let attempts := t.settings.transferAttempts
  let block ← transfer .read offset length attempts (readRest t length) attempts.toNat 0
    (Buffer.zeros length)
  match Buffer.firstNonzero? block with
  | some position => throw (.nonzero (offset + position))
  | none => pure ()

/-- Blocks of `size` bytes, then one flush of what was written. -/
def run (size : Nat) (positive : 0 < size) (pass : ErasePass) (bytes : Option UInt64) :
    EStateM Fault σ EraseReport :=
  t.withDevice (EraseTarget.passMode pass) do
    let total ← t.length bytes
    EraseTarget.requireBlock size
    match pass with
    | .overwrite =>
      Blocks.run size positive (writeBlock t) 0 total.toNat ()
      Call.orFault t.devices.sync (.internal .flushZeros)
    | .verify => Blocks.run size positive (checkBlock t) 0 total.toNat ()
    pure ⟨.zero, total⟩

end EmmcVault.ZeroErase
