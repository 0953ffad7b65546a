import EmmcVault.Erase.Pattern.Stream

/-!
# The pattern stream by position

Octet `i` of the stream of a seed is octet `i % 8` of its word `i / 8`, however
many octets are taken at a time.
-/

namespace EmmcVault

namespace Pattern

/-- The state after `k` words. -/
def Engine.skip (e : Engine) : Nat → Engine
  | 0 => e
  | k + 1 => (e.skip k).word.2

def wordAt (seed : UInt32) (k : Nat) : UInt64 :=
  ((Engine.ofSeed seed).skip k).word.1

/-- Octet `i` of the stream of a seed. -/
def octetAt (seed : UInt32) (i : Nat) : UInt8 :=
  (wordAt seed (i / 8) >>> (8 * (i % 8)).toUInt64).toUInt8

/-- Octets `i` to `i + n - 1` of the stream of a seed. -/
def stretch (seed : UInt32) (i n : Nat) : List UInt8 :=
  (List.range' i n).map (octetAt seed)

theorem octets_getElem? {w : UInt64} {j : Nat} (h : j < 8) :
    (octets w)[j]? = some (w >>> (8 * j).toUInt64).toUInt8 := by
  obtain rfl | rfl | rfl | rfl | rfl | rfl | rfl | rfl :
      j = 0 ∨ j = 1 ∨ j = 2 ∨ j = 3 ∨ j = 4 ∨ j = 5 ∨ j = 6 ∨ j = 7 := by omega
  · simp [octets]
  all_goals rfl

theorem length_stretch {seed : UInt32} {i n : Nat} : (stretch seed i n).length = n := by
  simp [stretch]

theorem stretch_append {seed : UInt32} {i m n : Nat} :
    stretch seed i m ++ stretch seed (i + m) n = stretch seed i (m + n) := by
  have hrange := @List.range'_append i m n 1
  rw [Nat.one_mul] at hrange
  rw [stretch, stretch, stretch, ← List.map_append, hrange]

theorem stretch_take {seed : UInt32} {i m n : Nat} (h : m ≤ n) :
    (stretch seed i n).take m = stretch seed i m := by
  obtain ⟨k, rfl⟩ := Nat.exists_eq_add_of_le h
  rw [← stretch_append, List.take_left' length_stretch]

theorem stretch_getElem? {seed : UInt32} {i n j : Nat} (h : j < n) :
    (stretch seed i n)[j]? = some (octetAt seed (i + j)) := by
  simp [stretch, h]

end Pattern

namespace PatternStream

open Pattern

variable {seed : UInt32}

/-- The stream of a seed when `i` octets have been taken. -/
def after (seed : UInt32) (i : Nat) : PatternStream where
  engine := (Engine.ofSeed seed).skip ((i + 7) / 8)
  pending := if i % 8 = 0 then [] else (octets (wordAt seed (i / 8))).drop (i % 8)

theorem after_zero : after seed 0 = ofSeed seed := rfl

/-- Within a word, what is left of it is pending. -/
theorem refill_after {i : Nat} : (after seed i).refill =
    ⟨(Engine.ofSeed seed).skip (i / 8 + 1), (octets (wordAt seed (i / 8))).drop (i % 8)⟩ := by
  by_cases hi : i % 8 = 0
  · have hstate : (i + 7) / 8 = i / 8 := by omega
    simp [after, refill, hi, hstate, wordAt, Engine.skip]
  · have hstate : (i + 7) / 8 = i / 8 + 1 := by omega
    have hleft : (octets (wordAt seed (i / 8))).drop (i % 8) ≠ [] := by
      have hlength : (octets (wordAt seed (i / 8))).length = 8 := rfl
      rw [Ne, List.drop_eq_nil_iff, hlength]
      omega
    simp [after, refill, hi, hstate, hleft]

theorem nextOctet_after {i : Nat} :
    (after seed i).nextOctet = (octetAt seed i, after seed (i + 1)) := by
  have hlt : i % 8 < 8 := Nat.mod_lt _ (by decide)
  unfold nextOctet
  rw [refill_after]
  dsimp only
  refine Prod.ext ?_ ?_
  · simp [List.head?_drop, octets_getElem? hlt, octetAt, List.headD_eq_head?_getD]
  · have hstate : (i + 1 + 7) / 8 = i / 8 + 1 := by omega
    simp only [after, hstate, List.tail_drop]
    by_cases hi : i % 8 = 7
    · have hnext : (i + 1) % 8 = 0 := by omega
      simp [hnext, hi, octets]
    · have hnext : (i + 1) % 8 = i % 8 + 1 := by omega
      have hword : (i + 1) / 8 = i / 8 := by omega
      simp [hnext, hword]

theorem fillOnto_after {taken : ByteArray} {i n : Nat} :
    (fillOnto taken n (after seed i)).1.data.toList = taken.data.toList ++ stretch seed i n ∧
      (fillOnto taken n (after seed i)).2 = after seed (i + n) := by
  induction n generalizing taken i with
  | zero => simp [fillOnto, stretch]
  | succ n ih =>
    rw [fillOnto, nextOctet_after]
    dsimp only
    obtain ⟨hdata, hstream⟩ := @ih (taken.push (octetAt seed i)) (i + 1)
    refine ⟨?_, ?_⟩
    · rw [hdata]
      simp [stretch, List.range'_succ]
    · rw [hstream, Nat.add_assoc, Nat.add_comm 1 n]

/-- Taking octets goes on where the stream stands. -/
theorem fill_after {i n : Nat} :
    ((after seed i).fill n).1.data.toList = stretch seed i n ∧
      ((after seed i).fill n).2 = after seed (i + n) := by
  obtain ⟨hdata, hstream⟩ := @fillOnto_after seed (ByteArray.emptyWithCapacity n) i n
  refine ⟨?_, hstream⟩
  rw [fill, hdata]
  rfl

theorem size_fillOnto {taken : ByteArray} {n : Nat} {s : PatternStream} :
    (fillOnto taken n s).1.size = taken.size + n := by
  induction n generalizing taken s with
  | zero => rfl
  | succ n ih =>
    rw [fillOnto, ih, ByteArray.size_push]
    omega

theorem size_fill {n : Nat} {s : PatternStream} : (s.fill n).1.size = n := by
  rw [fill, size_fillOnto]
  exact Nat.zero_add n

end PatternStream

end EmmcVault
