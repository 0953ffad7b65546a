import EmmcVault.Erase.Blocks
import EmmcVault.Erase.Pattern.Stream
import EmmcVault.Erase.Target

/-!
# Pattern overwrite

Writes the pattern stream over the device, or checks that it is still there.
A transfer that is short gives the erase up.
-/

namespace EmmcVault.PatternErase

variable {σ η : Type} (t : EraseTarget σ η)

def writeBlock (offset length : Nat) (stream : PatternStream) :
    EStateM Fault (σ × η) PatternStream := do
  let (block, stream) := stream.fill length
  let written ← Call.orFault (t.devices.write block) (.patternCall .write offset)
  if written = length then pure stream
  else throw (.patternShort .write offset written length)

def checkBlock (offset length : Nat) (stream : PatternStream) :
    EStateM Fault (σ × η) PatternStream := do
  let (expected, stream) := stream.fill length
  let actual ← Call.orFault (t.devices.read length) (.patternCall .read offset)
  if actual.count = length then
    match Buffer.firstDifference? expected.toList actual.bytes.toList with
    | some position => throw (.patternMismatch (offset + position))
    | none => pure stream
  else throw (.patternShort .read offset actual.count length)

/-- Blocks of `size` bytes, then one flush of what was written. -/
def run (size : Nat) (positive : 0 < size) (pass : ErasePass) (bytes : Option UInt64) :
    EStateM Fault σ EraseReport :=
  t.withDevice (EraseTarget.passMode pass) do
    let total ← t.length bytes
    EraseTarget.requireBlock size
    let stream := PatternStream.ofSeed t.settings.patternSeed
    match pass with
    | .overwrite =>
      let _ ← Blocks.run size positive (writeBlock t) 0 total.toNat stream
      Call.orFault t.devices.sync .patternFlush
    | .verify =>
      let _ ← Blocks.run size positive (checkBlock t) 0 total.toNat stream
      pure ()
    pure ⟨.pattern, total⟩

end EmmcVault.PatternErase
