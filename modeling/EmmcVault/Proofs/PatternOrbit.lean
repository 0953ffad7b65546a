import EmmcVault.Erase.Pattern.Stream
import Mathlib.Data.ZMod.Basic
import Mathlib.Tactic.ReduceModChar

/-!
# The states of the pattern generator

A state is a number from 1 to `2 ^ 31 - 2`, and a step multiplies it by 16807
modulo `2 ^ 31 - 1`; no operation on machine words comes out wrong. Since
`2 ^ 30 - 1` steps take a state to the one opposite to it, and of two opposite
states one is in the lower half, an acceptable state follows every state. At
the widths of the pattern, one of the next four is acceptable.
-/

namespace EmmcVault.Pattern.Engine

variable {e : Engine} {bits : UInt64}

/-- A state that occurs. Zero does not: no other state follows it. -/
structure InRange (e : Engine) : Prop where
  pos : 0 < e.state.toNat
  lt : e.state.toNat < 2 ^ 31 - 1

-- ---------------------------------------------------------------------------
-- A step in plain numbers
-- ---------------------------------------------------------------------------

theorem toNat_product (e : Engine) :
    (e.state.toUInt64 * multiplier).toNat = 16807 * e.state.toNat := by
  have hlt := e.state.toNat_lt
  rw [UInt64.toNat_mul, UInt32.toNat_toUInt64, Nat.mul_comm]
  exact Nat.mod_eq_of_lt (show 16807 * e.state.toNat < 2 ^ 64 by omega)

theorem toNat_next (e : Engine) : e.next.state.toNat = 16807 * e.state.toNat % (2 ^ 31 - 1) := by
  rw [next, UInt64.toNat_toUInt32, UInt64.toNat_mod, toNat_product]
  exact Nat.mod_eq_of_lt (Nat.lt_trans (Nat.mod_lt _ (by decide)) (by decide))

theorem toNat_ofSeed (seed : UInt32) : (ofSeed seed).state.toNat =
    if seed.toNat % (2 ^ 31 - 1) = 0 then 1 else seed.toNat % (2 ^ 31 - 1) := by
  have hzero : seed % modulus = 0 ↔ seed.toNat % (2 ^ 31 - 1) = 0 := by
    rw [← UInt32.toNat_inj, UInt32.toNat_mod]
    rfl
  simp only [ofSeed, hzero]
  split
  · rfl
  · exact UInt32.toNat_mod ..

theorem inRange_ofSeed (seed : UInt32) : (ofSeed seed).InRange := by
  have hlt := Nat.mod_lt seed.toNat (show 0 < 2 ^ 31 - 1 by decide)
  constructor
  · rw [toNat_ofSeed]
    split <;> omega
  · rw [toNat_ofSeed]
    split <;> omega

theorem InRange.next (h : e.InRange) : e.next.InRange := by
  have hpos := h.pos
  have hlt := h.lt
  constructor
  · rw [toNat_next]
    refine Nat.pos_of_ne_zero fun hzero => ?_
    -- the modulus has no factor in common with the multiplier
    have hcoprime : Nat.Coprime (2 ^ 31 - 1) 16807 := by decide
    have hdvd := hcoprime.dvd_of_dvd_mul_left (Nat.dvd_of_mod_eq_zero hzero)
    have hle := Nat.le_of_dvd hpos hdvd
    omega
  · rw [toNat_next]
    exact Nat.mod_lt _ (by decide)

theorem InRange.iterate (h : e.InRange) (n : Nat) : (Engine.next^[n] e).InRange := by
  induction n with
  | zero => exact h
  | succ n ih =>
    rw [Function.iterate_succ_apply']
    exact ih.next

/-- Subtracting the least state from a state comes out exactly. -/
theorem InRange.toNat_draw (h : e.InRange) : e.draw.toNat + 1 = e.state.toNat := by
  have hone : 1 ≤ e.state := UInt32.le_iff_toNat_le.mpr h.pos
  rw [draw, UInt32.toNat_toUInt64, UInt32.toNat_sub_of_le _ _ hone, UInt32.toNat_one]
  exact Nat.sub_add_cancel h.pos

theorem toNat_span (h : bits.toNat < 64) : ((1 : UInt64) <<< bits).toNat = 2 ^ bits.toNat := by
  have hlt := Nat.pow_lt_pow_right (show 1 < 2 by decide) h
  rw [UInt64.toNat_shiftLeft, UInt64.toNat_one, Nat.mod_eq_of_lt h, Nat.one_shiftLeft]
  exact Nat.mod_eq_of_lt hlt

theorem toNat_limit (h : bits.toNat < 64) :
    (limit bits).toNat = (2 ^ 31 - 2) / 2 ^ bits.toNat * 2 ^ bits.toNat := by
  rw [limit, UInt64.toNat_mul, UInt64.toNat_div, toNat_span h]
  exact Nat.mod_eq_of_lt (Nat.lt_of_le_of_lt (Nat.div_mul_le_self ..) (by decide))

/-- Up to 30 bits, the lower half of the draws is acceptable. -/
theorem half_le_limit (h : bits.toNat ≤ 30) : 2 ^ 30 ≤ (limit bits).toNat := by
  have hpos := Nat.two_pow_pos bits.toNat
  have hsplit : 2 ^ 30 = 2 ^ (30 - bits.toNat) * 2 ^ bits.toNat := by
    rw [← Nat.pow_add, Nat.sub_add_cancel h]
  rw [toNat_limit (by omega), hsplit]
  refine Nat.mul_le_mul_right _ ((Nat.le_div_iff_mul_le hpos).mpr ?_)
  rw [← hsplit]
  decide

-- ---------------------------------------------------------------------------
-- Opposite states
-- ---------------------------------------------------------------------------

theorem multiplier_power : (16807 : ZMod (2 ^ 31 - 1)) ^ (2 ^ 30 - 1) = -1 := by
  norm_num
  reduce_mod_char

theorem cast_iterate (e : Engine) (n : Nat) :
    ((next^[n] e).state.toNat : ZMod (2 ^ 31 - 1)) = 16807 ^ n * e.state.toNat := by
  induction n with
  | zero => simp
  | succ n ih =>
    rw [Function.iterate_succ_apply', toNat_next, ZMod.natCast_mod, Nat.cast_mul, ih, pow_succ']
    push_cast
    ring

theorem InRange.opposite (h : e.InRange) :
    (Engine.next^[2 ^ 30 - 1] e).state.toNat + e.state.toNat = 2 ^ 31 - 1 := by
  have hpos := h.pos
  have hlt := h.lt
  have hlt' := (h.iterate (2 ^ 30 - 1)).lt
  have hcast := cast_iterate e (2 ^ 30 - 1)
  generalize (Engine.next^[2 ^ 30 - 1] e).state.toNat = s at hcast hlt'
  rw [multiplier_power, neg_one_mul] at hcast
  have hdvd : 2 ^ 31 - 1 ∣ s + e.state.toNat := by
    rw [← ZMod.natCast_eq_zero_iff, Nat.cast_add, hcast, neg_add_cancel]
  obtain ⟨k, hk⟩ := hdvd
  omega

/-- At a width of up to 30 bits an acceptable state follows every state. -/
theorem InRange.accepted_later (h : e.InRange) (hb : bits.toNat ≤ 30) :
    ∃ n < 2 ^ 30, (Engine.next^[n + 1] e).draw < limit bits := by
  have hhalf := half_le_limit hb
  have hnext := h.next
  by_cases hlow : e.next.state.toNat ≤ 2 ^ 30
  · have hdraw := hnext.toNat_draw
    refine ⟨0, by decide, UInt64.lt_iff_toNat_lt.mpr ?_⟩
    show e.next.draw.toNat < _
    omega
  · have hdraw := (hnext.iterate (2 ^ 30 - 1)).toNat_draw
    have hopposite := hnext.opposite
    refine ⟨2 ^ 30 - 1, by decide, UInt64.lt_iff_toNat_lt.mpr ?_⟩
    rw [Function.iterate_succ_apply]
    omega

-- ---------------------------------------------------------------------------
-- Rejections in a row
-- ---------------------------------------------------------------------------

/-- What is missing from a state to the modulus. -/
def gap (e : Engine) : Nat := 2 ^ 31 - 1 - e.state.toNat

theorem InRange.gap_pos (h : e.InRange) : 0 < e.gap := Nat.sub_pos_of_lt h.lt

theorem InRange.gap_next (h : e.InRange) : e.next.gap = 16807 * e.gap % (2 ^ 31 - 1) := by
  have hlt := h.lt
  have hpos := h.next.pos
  have hnext := toNat_next e
  unfold gap
  omega

/-- At 22 bits the states with the smallest gaps are rejected. -/
theorem InRange.accepted_iff_gap (h : e.InRange) : e.draw < limit 22 ↔ 2 ^ 22 - 1 ≤ e.gap := by
  have hdraw := h.toNat_draw
  have hlt := h.lt
  have hlimit : (limit 22).toNat = 2 ^ 31 - 2 ^ 22 := by decide
  rw [UInt64.lt_iff_toNat_lt, hlimit, gap]
  omega

/-- The modulus is 16807 times 127773 and a rest of 2836. A gap that is small
before and after a step is a little more than a small multiple of 127773. -/
theorem InRange.gap_split (h : e.InRange) (hgap : e.gap < 2 ^ 22 - 1)
    (hnext : e.next.gap < 2 ^ 22 - 1) :
    ∃ q < 33, ∃ u < 255, e.gap = 127773 * q + u ∧ 16807 * u = e.next.gap + 2836 * q := by
  have hdiv := Nat.div_add_mod (16807 * e.gap) (2 ^ 31 - 1)
  rw [← h.gap_next] at hdiv
  generalize 16807 * e.gap / (2 ^ 31 - 1) = q at hdiv
  have hq : q < 33 := by omega
  have hle : 127773 * q ≤ e.gap := by omega
  obtain ⟨u, hu⟩ := Nat.exists_eq_add_of_le hle
  exact ⟨q, hq, u, by omega, hu, by omega⟩

/-- What the second of three small gaps in a row exceeds its multiple by, where
the first two are `q` and `r` times 127773 and a little more. -/
def excess (q r : Nat) : Nat := 16807 - (2836 * q + 127773 * r) % 16807

/-- Where this is little, the third gap exceeds its own multiple by more. -/
theorem excess_escapes : ∀ q < 33, ∀ r < 33, excess q r < 255 → 2836 * r < 16807 * excess q r →
    255 ≤ (16807 * excess q r - 2836 * r) % 127773 := by
  decide +kernel

theorem InRange.gap_escapes (h : e.InRange) (h₀ : e.gap < 2 ^ 22 - 1)
    (h₁ : e.next.gap < 2 ^ 22 - 1) (h₂ : e.next.next.gap < 2 ^ 22 - 1) :
    2 ^ 22 - 1 ≤ e.next.next.next.gap := by
  by_contra h₃
  obtain ⟨q, hq, u, -, -, hu⟩ := h.gap_split h₀ h₁
  obtain ⟨r, hr, v, hv, hgap, hv'⟩ := h.next.gap_split h₁ h₂
  obtain ⟨t, -, w, hw, hgap', -⟩ := h.next.next.gap_split h₂ (Nat.lt_of_not_le h₃)
  have hpos := h.next.next.gap_pos
  have hexcess : excess q r = v := by
    unfold excess
    omega
  have hthird : 16807 * v - 2836 * r = w + 127773 * t := by omega
  have hlarge := excess_escapes q hq r hr
  rw [hexcess, hthird, Nat.add_mul_mod_self_left] at hlarge
  exact Nat.not_lt.mpr (hlarge hv (by omega)) (Nat.lt_of_le_of_lt (Nat.mod_le ..) hw)

/-- At the widths of the pattern, one of the next four states is acceptable. -/
theorem InRange.accepted_soon (h : e.InRange) :
    ∃ n < 4, (Engine.next^[n + 1] e).draw < limit 22 := by
  by_contra hnone
  push Not at hnone
  have hsmall : ∀ n < 4, (Engine.next^[n + 1] e).gap < 2 ^ 22 - 1 := by
    intro n hn
    rw [← Nat.not_le, ← (h.iterate (n + 1)).accepted_iff_gap]
    exact hnone n hn
  have hescapes := h.next.gap_escapes (hsmall 0 (by decide)) (hsmall 1 (by decide))
    (hsmall 2 (by decide))
  exact Nat.not_le.mpr (hsmall 3 (by decide)) hescapes

end EmmcVault.Pattern.Engine
