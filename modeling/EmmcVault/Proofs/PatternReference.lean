import EmmcVault.Proofs.PatternSearch

/-!
# The words of the pattern in plain numbers

The generator of a seed as a sequence of numbers without a bound, and the words
that are made of it: each of the next three numbers that are not rejected, of
21, 21 and 22 bits, one after the other. The machine words hold these numbers
at every step, and a stream gives these words.
-/

namespace EmmcVault

namespace Pattern

-- ---------------------------------------------------------------------------
-- The sequence of a seed
-- ---------------------------------------------------------------------------

namespace Reference

/-- State `n` of the minimal standard generator. -/
def state (seed : Nat) : Nat → Nat
  | 0 => if seed % (2 ^ 31 - 1) = 0 then 1 else seed % (2 ^ 31 - 1)
  | n + 1 => 16807 * state seed n % (2 ^ 31 - 1)

/-- The largest multiple of `2 ^ bits` that does not exceed the number of states. -/
def bound (bits : Nat) : Nat := (2 ^ 31 - 2) / 2 ^ bits * 2 ^ bits

/-- After state `i`, state `j` is the first that is not rejected. -/
structure Next (seed bits i j : Nat) : Prop where
  after : i < j
  accepted : state seed j - 1 < bound bits
  rejected : ∀ m, i < m → m < j → bound bits ≤ state seed m - 1

/-- The word `w` is made of the next states after state `i` that are not rejected,
the first two at 21 bits and the last, state `l`, at 22. -/
def Word (seed i w l : Nat) : Prop :=
  ∃ j k, Next seed 21 i j ∧ Next seed 21 j k ∧ Next seed 22 k l ∧
    w = (state seed j - 1) % 2 ^ 21 * 2 ^ 43 + (state seed k - 1) % 2 ^ 21 * 2 ^ 22 +
      (state seed l - 1) % 2 ^ 22

section
variable {seed bits i j j' w w' l l' : Nat}

theorem Next.le (h : Next seed bits i j) (h' : Next seed bits i j') : j ≤ j' := by
  by_contra hlt
  exact Nat.not_lt.mpr (h.rejected j' h'.after (Nat.lt_of_not_le hlt)) h'.accepted

theorem Next.unique (h : Next seed bits i j) (h' : Next seed bits i j') : j = j' :=
  Nat.le_antisymm (h.le h') (h'.le h)

theorem Word.unique (h : Word seed i w l) (h' : Word seed i w' l') : w = w' ∧ l = l' := by
  obtain ⟨j, k, hj, hk, hl, rfl⟩ := h
  obtain ⟨j', k', hj', hk', hl', rfl⟩ := h'
  obtain rfl := hj.unique hj'
  obtain rfl := hk.unique hk'
  obtain rfl := hl.unique hl'
  exact ⟨rfl, rfl⟩

end

end Reference

namespace Engine

/-- The machine words of a draw hold its numbers: the product with the multiplier
and the distance from the least state. -/
structure Exact (e : Engine) (s : Nat) : Prop where
  state : e.state.toNat = s
  least : 1 ≤ s
  greatest : s ≤ 2 ^ 31 - 2
  product : (e.state.toUInt64 * multiplier).toNat = 16807 * s
  difference : e.draw.toNat + 1 = s

variable {seed : UInt32} {bits : UInt64} {n : Nat}

theorem toNat_iterate (seed : UInt32) (n : Nat) :
    (next^[n] (ofSeed seed)).state.toNat = Reference.state seed.toNat n := by
  induction n with
  | zero => exact toNat_ofSeed seed
  | succ n ih => rw [Function.iterate_succ_apply', toNat_next, ih, Reference.state]

/-- Park and Miller's check value. -/
example : (next^[10000] (ofSeed 1)).state = 1043618065 := by decide +kernel

theorem exact_iterate (seed : UInt32) (n : Nat) :
    Exact (next^[n] (ofSeed seed)) (Reference.state seed.toNat n) := by
  have hrange := (inRange_ofSeed seed).iterate n
  rw [← toNat_iterate]
  exact ⟨rfl, hrange.pos, Nat.le_sub_one_of_lt hrange.lt, toNat_product _, hrange.toNat_draw⟩

theorem draw_iterate (seed : UInt32) (n : Nat) :
    (next^[n] (ofSeed seed)).draw.toNat = Reference.state seed.toNat n - 1 :=
  Nat.eq_sub_of_add_eq (exact_iterate seed n).difference

theorem accepted_iterate (hb : bits.toNat < 64) : (next^[n] (ofSeed seed)).draw < limit bits ↔
    Reference.state seed.toNat n - 1 < Reference.bound bits.toNat := by
  rw [UInt64.lt_iff_toNat_lt, draw_iterate, toNat_limit hb, Reference.bound]

-- ---------------------------------------------------------------------------
-- Searches and words along the sequence
-- ---------------------------------------------------------------------------

theorem Finds.next {e f : Engine} {k : Nat} (h : Finds (limit bits) e k f) (hb : bits.toNat < 64)
    (he : e = next^[n] (ofSeed seed)) : Reference.Next seed.toNat bits.toNat n (n + k) := by
  induction h generalizing n with
  | accept haccept =>
    rw [he, ← Function.iterate_succ_apply' (f := Engine.next), accepted_iterate hb] at haccept
    exact ⟨Nat.lt_succ_self n, haccept, fun m hm hm' => absurd hm' (Nat.not_lt.mpr hm)⟩
  | @reject e f k hreject _ ih =>
    rw [he, ← Function.iterate_succ_apply' (f := Engine.next), accepted_iterate hb, Nat.not_lt]
      at hreject
    have hrest := ih (n := n + 1) (by rw [he, Function.iterate_succ_apply'])
    rw [Nat.add_assoc, Nat.add_comm 1 k] at hrest
    refine ⟨Nat.lt_of_succ_lt hrest.after, hrest.accepted, fun m hm hm' => ?_⟩
    rcases Nat.eq_or_lt_of_le hm with rfl | hlt
    · exact hreject
    · exact hrest.rejected m hlt hm'

theorem toNat_lowBits (w : UInt64) (hb : bits.toNat < 64) :
    (w &&& ((1 <<< bits) - 1)).toNat = w.toNat % 2 ^ bits.toNat := by
  have hone : (1 : UInt64) ≤ 1 <<< bits := by
    rw [UInt64.le_iff_toNat_le, toNat_span hb]
    exact Nat.one_le_two_pow
  rw [UInt64.toNat_and, UInt64.toNat_sub_of_le _ _ hone, toNat_span hb]
  exact Nat.and_two_pow_sub_one_eq_mod ..

theorem Chunked.reference {most : Nat} (h : Chunked bits most (next^[n] (ofSeed seed)))
    (hb : bits.toNat < 64) :
    ∃ v m, (next^[n] (ofSeed seed)).chunk bits = (v, next^[m] (ofSeed seed)) ∧
      Reference.Next seed.toNat bits.toNat n m ∧
      v.toNat = (Reference.state seed.toNat m - 1) % 2 ^ bits.toNat := by
  obtain ⟨k, -, hfinds⟩ := h
  have hend : ((next^[n] (ofSeed seed)).chunk bits).2 = next^[n + k] (ofSeed seed) := by
    rw [hfinds.eq_iterate, ← Function.iterate_add_apply, Nat.add_comm]
  refine ⟨_, n + k, Prod.ext rfl hend, hfinds.next hb rfl, ?_⟩
  show (((next^[n] (ofSeed seed)).chunk bits).2.draw &&& ((1 <<< bits) - 1)).toNat = _
  rw [hend, toNat_lowBits _ hb, draw_iterate]

/-- Bits put below others. -/
theorem toNat_append {high low k : UInt64} (hk : k.toNat < 64) (hlow : low.toNat < 2 ^ k.toNat)
    (hhigh : high.toNat * 2 ^ k.toNat < 2 ^ 64) :
    (high <<< k ||| low).toNat = high.toNat * 2 ^ k.toNat + low.toNat := by
  rw [UInt64.toNat_or, UInt64.toNat_shiftLeft, Nat.mod_eq_of_lt hk, Nat.shiftLeft_eq,
    Nat.mod_eq_of_lt hhigh, ← Nat.shiftLeft_eq, ← Nat.shiftLeft_add_eq_or_of_lt hlow]

/-- The chunks of a word have places of their own. -/
theorem toNat_assembled {high middle low : UInt64} (hhigh : high.toNat < 2 ^ 21)
    (hmiddle : middle.toNat < 2 ^ 21) (hlow : low.toNat < 2 ^ 22) :
    ((high <<< 21 ||| middle) <<< 22 ||| low).toNat =
      high.toNat * 2 ^ 43 + middle.toNat * 2 ^ 22 + low.toNat := by
  have hupper : (high <<< 21 ||| middle).toNat = high.toNat * 2 ^ 21 + middle.toNat :=
    toNat_append (k := 21) (by decide) hmiddle (show high.toNat * 2 ^ 21 < 2 ^ 64 by omega)
  have hfits : (high.toNat * 2 ^ 21 + middle.toNat) * 2 ^ 22 < 2 ^ 64 := by omega
  rw [← hupper] at hfits
  have hword := toNat_append (k := 22) (by decide) hlow hfits
  rw [hword, hupper]
  show (high.toNat * 2 ^ 21 + middle.toNat) * 2 ^ 22 + low.toNat = _
  omega

theorem word_reference (seed : UInt32) (n : Nat) :
    ∃ w l, (next^[n] (ofSeed seed)).word = (w, next^[l] (ofSeed seed)) ∧
      Reference.Word seed.toNat n w.toNat l := by
  have hrange := (inRange_ofSeed seed).iterate
  obtain ⟨high, j, hchunk, hj, hhigh⟩ := (hrange n).chunked_narrow.reference (by decide)
  obtain ⟨middle, k, hchunk', hk, hmiddle⟩ := (hrange j).chunked_narrow.reference (by decide)
  obtain ⟨low, l, hchunk'', hl, hlow⟩ := (hrange k).chunked_wide.reference (by decide)
  refine ⟨_, l, word_of_chunks hchunk hchunk' hchunk'', j, k, hj, hk, hl, ?_⟩
  rw [toNat_assembled, hhigh, hmiddle, hlow]
  · simp only [UInt64.reduceToNat]
  · exact hhigh ▸ Nat.mod_lt _ (Nat.two_pow_pos 21)
  · exact hmiddle ▸ Nat.mod_lt _ (Nat.two_pow_pos 21)
  · exact hlow ▸ Nat.mod_lt _ (Nat.two_pow_pos 22)

end Engine

theorem wordAt_reference (seed : UInt32) : ∃ start : Nat → Nat, start 0 = 0 ∧
    ∀ k w l, Reference.Word seed.toNat (start k) w l ↔
      w = (wordAt seed k).toNat ∧ l = start (k + 1) := by
  choose word next hword hreference using Engine.word_reference seed
  have hskip : ∀ k, (Engine.ofSeed seed).skip k = Engine.next^[next^[k] 0] (Engine.ofSeed seed) := by
    intro k
    induction k with
    | zero => rfl
    | succ k ih => rw [Engine.skip, ih, hword, Function.iterate_succ_apply']
  refine ⟨fun k => next^[k] 0, rfl, fun k w l => ?_⟩
  have hfound : Reference.Word seed.toNat (next^[k] 0) (wordAt seed k).toNat (next^[k + 1] 0) := by
    rw [wordAt, hskip, hword, Function.iterate_succ_apply']
    exact hreference _
  constructor
  · intro h
    exact h.unique hfound
  · rintro ⟨rfl, rfl⟩
    exact hfound

end Pattern

namespace PatternStream

open Pattern

/-- The state of a seed and all that follow are held exactly, and the words made
of them one after the other are the words that a stream draws, however it was
used before. -/
theorem words_exact (seed : UInt32) :
    (∀ n, (Engine.next^[n] (Engine.ofSeed seed)).Exact (Reference.state seed.toNat n)) ∧
      (∃ start : Nat → Nat, start 0 = 0 ∧ ∀ k w l,
        Reference.Word seed.toNat (start k) w l ↔
          w = (wordAt seed k).toNat ∧ l = start (k + 1)) ∧
      ∀ uses, ∃ k, (serve uses (ofSeed seed)).2.engine = (Engine.ofSeed seed).skip k ∧
        (serve uses (ofSeed seed)).2.nextWord.1 = wordAt seed k := by
  refine ⟨Engine.exact_iterate seed, wordAt_reference seed, fun uses => ?_⟩
  obtain ⟨whole, split, hdealt, -⟩ := Dealt.ofSeed.serve uses
  exact ⟨_, hdealt.drawn, hdealt.nextWord.1⟩

end PatternStream

end EmmcVault
