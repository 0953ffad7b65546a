import EmmcVault.Erase.Sanitize
import Mathlib.Data.Nat.Bitwise

/-!
# The plan of a sanitize in plain numbers

What a plan says of erase unit, groups and time, as numbers without a bound. A
plan is made exactly if the capacity reaches one unit, does not exceed what the
card reports and the card can be sanitized; none of its products comes out
wrong for being too large for a machine word.
-/

namespace EmmcVault

-- ---------------------------------------------------------------------------
-- Machine words
-- ---------------------------------------------------------------------------

theorem toNat_saturatingMul (a b : UInt64) :
    (saturatingMul a b).toNat = min (a.toNat * b.toNat) (2 ^ 64 - 1) := by
  rw [saturatingMul, UInt64.toNat_ofNat_of_lt']
  · rfl
  · exact Nat.lt_of_le_of_lt (Nat.min_le_right ..) (by decide)

theorem toNat_clampToUInt32 (n : UInt64) :
    (clampToUInt32 n).toNat = min n.toNat (2 ^ 32 - 1) := by
  rw [clampToUInt32, UInt32.toNat_ofNat_of_lt']
  · rfl
  · exact Nat.lt_of_le_of_lt (Nat.min_le_right ..) (by decide)

/-- The quotient covers the dividend, and one unit less does not. -/
theorem divCeil_bounds {a b : UInt64} (ha : 0 < a.toNat) (hb : 0 < b.toNat) :
    ((divCeil a b).toNat - 1) * b.toNat < a.toNat ∧ a.toNat ≤ (divCeil a b).toNat * b.toNat := by
  have hdiv := Nat.div_add_mod a.toNat b.toNat
  have hmod := Nat.mod_lt a.toNat hb
  rw [Nat.mul_comm] at hdiv
  by_cases h : a % b = 0
  · have hzero : a.toNat % b.toNat = 0 := by
      rw [← UInt64.toNat_mod, h]
      rfl
    have hquot : (divCeil a b).toNat = a.toNat / b.toNat := by
      rw [divCeil, if_pos h, UInt64.add_zero, UInt64.toNat_div]
    rw [hquot, Nat.sub_mul]
    omega
  · have hrest : a.toNat % b.toNat ≠ 0 := fun he => h (UInt64.toNat_inj.mp (by simpa using he))
    have hquot : (divCeil a b).toNat = a.toNat / b.toNat + 1 := by
      -- a rest means that the unit is more than one, so the quotient is less than `a`
      have hlt := Nat.div_lt_self ha (by omega : 1 < b.toNat)
      have hsize := a.toNat_lt
      rw [divCeil, if_neg h, UInt64.toNat_add, UInt64.toNat_div, UInt64.toNat_one,
        Nat.mod_eq_of_lt (by omega)]
    rw [hquot, Nat.add_sub_cancel, Nat.succ_mul]
    omega

-- ---------------------------------------------------------------------------
-- The register
-- ---------------------------------------------------------------------------

namespace Mmc.ExtCsd

variable {r : ExtCsd}

/-- Octet `i` of the register as a number. -/
def octet (r : ExtCsd) (i : Nat) : Nat := (r.toBytes.data.getD i 0).toNat

theorem octet_lt (r : ExtCsd) (i : Nat) : r.octet i < 256 := UInt8.toNat_lt _

theorem toNat_get {i : Fin 512} : (r.get i).toNat = r.octet i := by
  rw [octet, Array.getD_eq_getD_getElem?, Array.getElem?_eq_getElem (by simp [toBytes])]
  rfl

theorem toNat_eraseTimeoutMult : r.eraseTimeoutMult.toNat = r.octet 223 := toNat_get

theorem toNat_hcEraseGroupSize : r.hcEraseGroupSize.toNat = r.octet 224 := toNat_get

/-- The number of sectors that the card reports. -/
def sectors (r : ExtCsd) : Nat :=
  r.octet 212 + r.octet 213 * 2 ^ 8 + r.octet 214 * 2 ^ 16 + r.octet 215 * 2 ^ 24

/-- Octets in one erase unit: a high-capacity group where the card has them, a
sector otherwise. -/
def unit (r : ExtCsd) : Nat :=
  if (r.octet 175).testBit 0 ∧ 0 < r.octet 224 then r.octet 224 * 524288 else 512

theorem toNat_shiftedOctet (b : UInt8) {k : UInt32} (hk : k.toNat ≤ 24) :
    (b.toUInt32 <<< k).toNat = b.toNat * 2 ^ k.toNat := by
  have hb := b.toNat_lt
  have hpow : 2 ^ k.toNat ≤ 2 ^ 24 := Nat.pow_le_pow_right (by decide) hk
  rw [UInt32.toNat_shiftLeft, UInt8.toNat_toUInt32, Nat.mod_eq_of_lt (by omega : k.toNat < 32),
    Nat.shiftLeft_eq, Nat.mod_eq_of_lt]
  calc b.toNat * 2 ^ k.toNat ≤ 255 * 2 ^ 24 := Nat.mul_le_mul (by omega) hpow
    _ < 2 ^ 32 := by decide

/-- An octet put above the lower ones. -/
theorem or_shifted {low b k : Nat} (h : low < 2 ^ k) : low ||| b * 2 ^ k = low + b * 2 ^ k := by
  rw [← Nat.shiftLeft_eq, Nat.or_comm, ← Nat.shiftLeft_add_eq_or_of_lt h, Nat.add_comm]

theorem toNat_secCount : r.secCount.toNat = r.sectors := by
  have h0 := r.octet_lt 212
  have h1 := r.octet_lt 213
  have h2 := r.octet_lt 214
  rw [secCount, UInt32.toNat_or, UInt32.toNat_or, UInt32.toNat_or, toNat_shiftedOctet _ (by decide),
    toNat_shiftedOctet _ (by decide), toNat_shiftedOctet _ (by decide), UInt8.toNat_toUInt32,
    toNat_get, toNat_get, toNat_get, toNat_get]
  show r.octet 212 ||| r.octet 213 * 2 ^ 8 ||| r.octet 214 * 2 ^ 16 ||| r.octet 215 * 2 ^ 24 = _
  have hlow : r.octet 212 ||| r.octet 213 * 2 ^ 8 = r.octet 212 + r.octet 213 * 2 ^ 8 :=
    or_shifted (by omega)
  rw [hlow, or_shifted (b := r.octet 214) (by omega), or_shifted (by omega), sectors]

theorem sectors_lt : r.sectors < 2 ^ 32 := toNat_secCount (r := r) ▸ r.secCount.toNat_lt

/-- A flag is set if its bit is. -/
theorem flag_iff {b : UInt8} {k : Nat} {flag : UInt8} (hf : flag.toNat = 2 ^ k) :
    (b &&& flag != 0) = b.toNat.testBit k := by
  rw [Bool.eq_iff_iff, bne_iff_ne, Ne, ← UInt8.toNat_inj, UInt8.toNat_and, hf, Nat.and_two_pow]
  cases b.toNat.testBit k <;> simp

theorem sanitizeSupported_eq : r.sanitizeSupported = (r.octet 231).testBit 6 :=
  (flag_iff (k := 6) rfl).trans (congrArg (Nat.testBit · 6) toNat_get)

theorem eraseGroupDef_eq : r.eraseGroupDef = (r.octet 175).testBit 0 :=
  (flag_iff (k := 0) rfl).trans (congrArg (Nat.testBit · 0) toNat_get)

theorem unit_pos : 0 < r.unit := by
  unfold unit
  split <;> omega

end Mmc.ExtCsd

namespace SanitizePlan

open Mmc

variable {r : ExtCsd} {expected : UInt64}

theorem toNat_eraseUnit : (eraseUnit r).toNat = r.unit := by
  have hsize := r.octet_lt 224
  have hpos : r.hcEraseGroupSize > 0 ↔ 0 < r.octet 224 :=
    ExtCsd.toNat_hcEraseGroupSize ▸ UInt8.lt_iff_toNat_lt
  rw [eraseUnit, ExtCsd.unit, ExtCsd.eraseGroupDef_eq]
  by_cases h : (r.octet 175).testBit 0 = true ∧ 0 < r.octet 224
  · rw [if_pos (by simp [h.1, hpos, h.2]), if_pos h, UInt64.toNat_mul, UInt8.toNat_toUInt64,
      ExtCsd.toNat_hcEraseGroupSize]
    exact Nat.mod_eq_of_lt (Nat.lt_of_le_of_lt (Nat.mul_le_mul_right _ (Nat.le_of_lt hsize))
      (by decide))
  · rw [if_neg (by simpa [hpos] using h), if_neg h]
    rfl

theorem toNat_reported : (r.secCount.toUInt64 * sectorSize).toNat = r.sectors * 512 := by
  have hlt := r.sectors_lt
  rw [UInt64.toNat_mul, UInt32.toNat_toUInt64, ExtCsd.toNat_secCount]
  exact Nat.mod_eq_of_lt (by show r.sectors * 512 < 2 ^ 64; omega)

/-- The card takes a sanitize of this capacity. -/
structure Admits (r : ExtCsd) (expected : UInt64) : Prop where
  reached : r.unit ≤ expected.toNat
  reported : r.sectors = 0 ∨ expected.toNat ≤ r.sectors * 512
  supported : (r.octet 231).testBit 6 = true

/-- What a plan says in plain numbers. -/
structure Accurate (r : ExtCsd) (expected : UInt64) (plan : SanitizePlan) : Prop where
  unit : plan.eraseUnitBytes.toNat = r.unit
  needed : (plan.eraseGroups.toNat - 1) * r.unit < expected.toNat
  enough : expected.toNat ≤ plan.eraseGroups.toNat * r.unit
  timeout : plan.timeoutMs.toNat = min (300 * r.octet 223 * plan.eraseGroups.toNat) (2 ^ 32 - 1)

/-- A product that is cut down on the way and at the end is cut down at the end. -/
theorem toNat_timeout {groups : UInt64} :
    (clampToUInt32 (saturatingMul (saturatingMul timeoutUnitMs r.eraseTimeoutMult.toUInt64)
      groups)).toNat = min (300 * r.octet 223 * groups.toNat) (2 ^ 32 - 1) := by
  have hmult := r.octet_lt 223
  have hunit : (saturatingMul timeoutUnitMs r.eraseTimeoutMult.toUInt64).toNat =
      300 * r.octet 223 := by
    rw [toNat_saturatingMul, UInt8.toNat_toUInt64, ExtCsd.toNat_eraseTimeoutMult]
    show min (300 * r.octet 223) _ = _
    omega
  rw [toNat_clampToUInt32, toNat_saturatingMul, hunit, Nat.min_assoc]
  rfl

/-- A plan is made for what the card takes; all else is refused. -/
theorem ofRegister_cases (r : ExtCsd) (expected : UInt64) :
    (Admits r expected ∧ ∃ plan, ofRegister r expected = .ok plan ∧ Accurate r expected plan) ∨
    ¬ Admits r expected ∧ ∃ f, ofRegister r expected = .error f := by
  have hunit := toNat_eraseUnit (r := r)
  have hreported := toNat_reported (r := r)
  unfold ofRegister
  dsimp only
  split
  · rename_i hbelow
    rw [UInt64.lt_iff_toNat_lt, hunit] at hbelow
    exact .inr ⟨fun h => Nat.not_lt.mpr h.reached hbelow, _, rfl⟩
  rename_i hreached
  rw [UInt64.lt_iff_toNat_lt, hunit, Nat.not_lt] at hreached
  split
  · rename_i hbeyond
    rw [Ne, ← UInt64.toNat_inj, UInt64.lt_iff_toNat_lt, hreported] at hbeyond
    have hzero : r.sectors * 512 ≠ 0 := hbeyond.1
    refine .inr ⟨fun h => ?_, _, rfl⟩
    have hcapacity := h.reported
    omega
  rename_i hwithin
  rw [Ne, ← UInt64.toNat_inj, UInt64.lt_iff_toNat_lt, hreported] at hwithin
  have hcapacity : r.sectors = 0 ∨ expected.toNat ≤ r.sectors * 512 := by
    change ¬ (¬ r.sectors * 512 = 0 ∧ _) at hwithin
    omega
  split
  · rename_i hunsupported
    rw [ExtCsd.sanitizeSupported_eq] at hunsupported
    exact .inr ⟨fun h => by simp [h.supported] at hunsupported, _, rfl⟩
  rename_i hsupported
  rw [ExtCsd.sanitizeSupported_eq] at hsupported
  have hpos := r.unit_pos
  obtain ⟨hneeded, henough⟩ := divCeil_bounds (a := expected) (b := eraseUnit r) (by omega)
    (by omega)
  rw [hunit] at hneeded henough
  exact .inl ⟨⟨hreached, hcapacity, by simpa using hsupported⟩, _, rfl, hunit, hneeded, henough,
    toNat_timeout⟩

/-- A plan is made exactly if the capacity reaches one erase unit and does not
exceed what the card reports, if it reports anything, and the card can be
sanitized. It counts the units that cover the capacity, and its time is the
product of all three factors or the longest time there is. Every refusal is an
internal failure, and nothing is planned for a capacity of zero. -/
theorem made_iff_admitted (r : ExtCsd) (expected : UInt64) :
    ((∃ plan, ofRegister r expected = .ok plan) ↔ Admits r expected) ∧
    (∀ plan, ofRegister r expected = .ok plan → Accurate r expected plan) ∧
    (∀ f, ofRegister r expected = .error f → f.kind = .internalFailure) ∧
    ∃ f, ofRegister r 0 = .error f := by
  refine ⟨⟨?_, fun h => ?_⟩, fun plan hplan => ?_, fun f hf => ofRegister_kind hf, ?_⟩
  · rintro ⟨plan, hplan⟩
    obtain ⟨h, -⟩ | ⟨-, f, hf⟩ := ofRegister_cases r expected
    · exact h
    · cases hplan.symm.trans hf
  · obtain ⟨-, plan, hplan, -⟩ | ⟨hnot, -⟩ := ofRegister_cases r expected
    · exact ⟨plan, hplan⟩
    · exact absurd h hnot
  · obtain ⟨-, plan', hplan', h⟩ | ⟨-, f, hf⟩ := ofRegister_cases r expected
    · cases hplan.symm.trans hplan'
      exact h
    · cases hplan.symm.trans hf
  · obtain ⟨h, -⟩ | ⟨-, hrefused⟩ := ofRegister_cases r 0
    · exact absurd h.reached (Nat.not_le.mpr r.unit_pos)
    · exact hrefused

end SanitizePlan

end EmmcVault
