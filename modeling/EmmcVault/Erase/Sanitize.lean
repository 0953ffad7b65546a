import EmmcVault.Erase.Target

/-!
# Hardware sanitize

The card wipes itself when one octet of its register is written. The command
cannot be taken back, so the plan is checked against the register first.
-/

namespace EmmcVault

/-- The product, or the largest number there is. -/
def saturatingMul (a b : UInt64) : UInt64 :=
  UInt64.ofNat (min (a.toNat * b.toNat) (UInt64.size - 1))

/-- The number, or the largest that fits. -/
def clampToUInt32 (n : UInt64) : UInt32 :=
  UInt32.ofNat (min n.toNat (UInt32.size - 1))

def divCeil (a b : UInt64) : UInt64 :=
  a / b + if a % b = 0 then 0 else 1

/-- Erase geometry of a card for an expected capacity. -/
structure SanitizePlan where
  eraseUnitBytes : UInt64
  eraseGroups : UInt64
  timeoutMs : UInt32
deriving DecidableEq, Repr

namespace SanitizePlan

/-- Bytes the card erases at a time: a high-capacity group where it has them,
a sector otherwise. -/
def eraseUnit (register : Mmc.ExtCsd) : UInt64 :=
  if register.eraseGroupDef && register.hcEraseGroupSize > 0 then
    register.hcEraseGroupSize.toUInt64 * Mmc.eraseGroupUnit
  else Mmc.sectorSize

/-- Milliseconds for each erase group and step of the timeout multiplier. -/
def timeoutUnitMs : UInt64 := 300

/-- The plan for `expected` bytes. The capacity must reach one erase unit, must
not exceed what the card reports if it reports anything, and the card must
offer the sanitize operation. -/
def ofRegister (register : Mmc.ExtCsd) (expected : UInt64) : Except Fault SanitizePlan :=
  let unit := eraseUnit register
  let reported := register.secCount.toUInt64 * Mmc.sectorSize
  if expected < unit then .error (.belowEraseUnit expected unit)
  else if reported ≠ 0 ∧ reported < expected then .error (.beyondCapacity reported expected)
  else if !register.sanitizeSupported then .error .sanitizeUnsupported
  else
    let groups := divCeil expected unit
    let timeout := saturatingMul (saturatingMul timeoutUnitMs register.eraseTimeoutMult.toUInt64)
      groups
    .ok ⟨unit, groups, clampToUInt32 timeout⟩

theorem ofRegister_kind {register : Mmc.ExtCsd} {expected : UInt64} {f : Fault}
    (h : ofRegister register expected = .error f) : f.kind = .internalFailure := by
  simp only [ofRegister] at h
  repeat' split at h
  all_goals cases h
  all_goals rfl

end SanitizePlan

namespace SanitizeErase

variable {σ η : Type} (t : EraseTarget σ η)

/-- The register that came with the request, or the card's own. -/
def register : Option Mmc.ExtCsd → EStateM Fault (σ × η) Mmc.ExtCsd
  | some register => pure register
  | none => Call.orFault t.devices.readExtCsd (.internal .readRegister)

def run (bytes : Option UInt64) (given : Option Mmc.ExtCsd) : EStateM Fault σ EraseReport :=
  t.withDevice .readWrite do
    let register ← register t given
    let expected ← t.length bytes
    let plan ← match SanitizePlan.ofRegister register expected with
      | .ok plan => pure plan
      | .error fault => throw fault
    let command := Mmc.Command.startSanitize plan.timeoutMs
    let _ ← Call.orFault (t.devices.command command .empty) (.internal .sanitize)
    pure ⟨.sanitize, expected⟩

end SanitizeErase

end EmmcVault
