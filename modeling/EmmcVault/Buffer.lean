/-!
# Byte buffers

The few operations on byte buffers that moving data to and from devices needs.
-/

namespace EmmcVault.Buffer

instance decEq : DecidableEq ByteArray := ByteArray.instDecidableEq

def constant (length : Nat) (value : UInt8) : ByteArray :=
  ⟨Array.replicate length value⟩

def zeros (length : Nat) : ByteArray :=
  constant length 0

/-- `target` with `source` written over it from `offset` on. -/
def overlay (target : ByteArray) (offset : Nat) (source : ByteArray) : ByteArray :=
  source.copySlice 0 target offset source.size

/-- `target` with as much of `source` at its front as it has room for. -/
def fillFront (target source : ByteArray) : ByteArray :=
  overlay target 0 (source.extract 0 (min target.size source.size))

def firstNonzero? (b : ByteArray) : Option Nat :=
  b.data.findIdx? (· != 0)

/-- First position at which two lists differ, as far as both reach. -/
def firstDifference? (expected actual : List UInt8) : Option Nat :=
  (expected.zip actual).findIdx? fun pair => pair.1 != pair.2

end EmmcVault.Buffer
