import EmmcVault.Proofs.PatternOrbit
import EmmcVault.Proofs.PatternWords

/-!
# Searches for an acceptable draw end

A chunk is drawn for until a draw is acceptable, however long that takes. The
search ends from every state that occurs, at the widths of the pattern within
four draws. So a stream answers every use, and gives the same under any limit
on its searches that allows four draws, as without one.
-/

namespace EmmcVault

namespace Pattern.Engine

-- ---------------------------------------------------------------------------
-- Searches
-- ---------------------------------------------------------------------------

/-- A search of `n` draws from one state ends at another: the last draw is the
first that is acceptable. -/
inductive Finds (bound : UInt64) : Engine → Nat → Engine → Prop
  | accept {e : Engine} : e.next.draw < bound → Finds bound e 1 e.next
  | reject {e f : Engine} {n : Nat} :
    ¬ e.next.draw < bound → Finds bound e.next n f → Finds bound e (n + 1) f

section
variable {e f : Engine} {bound bits : UInt64} {n most : Nat}

theorem Finds.nextBelow?_eq (h : Finds bound e n f) (hn : n ≤ most) :
    nextBelow? bound most e = some f := by
  induction h generalizing most with
  | accept haccept =>
    obtain ⟨rest, rfl⟩ := Nat.exists_eq_add_of_le' hn
    rw [nextBelow?, if_pos haccept]
  | reject hreject _ ih =>
    obtain ⟨rest, rfl⟩ := Nat.exists_eq_add_of_le' (Nat.le_trans (Nat.le_add_left ..) hn)
    rw [nextBelow?, if_neg hreject, ih (Nat.le_of_succ_le_succ hn)]

theorem Finds.eq_iterate (h : Finds bound e n f) : f = next^[n] e := by
  induction h with
  | accept _ => rfl
  | reject _ _ ih => rw [ih, Function.iterate_succ_apply]

theorem Finds.draw_lt (h : Finds bound e n f) : f.draw < bound := by
  induction h with
  | accept haccept => exact haccept
  | reject _ _ ih => exact ih

/-- A search that has an acceptable draw before it ends there or earlier. -/
theorem exists_finds (h : (next^[n + 1] e).draw < bound) :
    ∃ k ≤ n + 1, ∃ f, Finds bound e k f := by
  induction n generalizing e with
  | zero => exact ⟨1, Nat.le_refl _, e.next, .accept h⟩
  | succ n ih =>
    by_cases haccept : e.next.draw < bound
    · exact ⟨1, Nat.le_add_left .., e.next, .accept haccept⟩
    · obtain ⟨k, hk, f, hf⟩ := ih h
      exact ⟨k + 1, Nat.succ_le_succ hk, f, .reject haccept hf⟩

-- ---------------------------------------------------------------------------
-- Chunks and words
-- ---------------------------------------------------------------------------

/-- The search for a chunk ends within `most` draws, where the chunk leaves the
generator. -/
def Chunked (bits : UInt64) (most : Nat) (e : Engine) : Prop :=
  ∃ n ≤ most, Finds (limit bits) e n (e.chunk bits).2

theorem chunked (hn : n < searchLimit) (h : (next^[n + 1] e).draw < limit bits) :
    Chunked bits (n + 1) e := by
  obtain ⟨k, hk, f, hfinds⟩ := exists_finds h
  have hend : (e.chunk bits).2 = f := by
    rw [chunk, hfinds.nextBelow?_eq (Nat.le_trans hk hn), Option.getD_some]
  exact ⟨k, hk, hend ▸ hfinds⟩

theorem Chunked.mono {most' : Nat} (h : Chunked bits most e) (hle : most ≤ most') :
    Chunked bits most' e := by
  obtain ⟨n, hn, hfinds⟩ := h
  exact ⟨n, Nat.le_trans hn hle, hfinds⟩

theorem Chunked.inRange (h : Chunked bits most e) (he : e.InRange) : (e.chunk bits).2.InRange := by
  obtain ⟨n, -, hfinds⟩ := h
  rw [hfinds.eq_iterate]
  exact he.iterate n

theorem InRange.chunked (h : e.InRange) (hb : bits.toNat ≤ 30) : Chunked bits (2 ^ 30) e := by
  obtain ⟨n, hn, haccept⟩ := h.accepted_later hb
  exact (Engine.chunked (Nat.lt_trans hn (by decide)) haccept).mono hn

theorem InRange.chunked_wide (h : e.InRange) : Chunked 22 4 e := by
  obtain ⟨n, hn, haccept⟩ := h.accepted_soon
  exact (Engine.chunked (Nat.lt_trans hn (by decide)) haccept).mono hn

/-- What is acceptable at 22 bits is acceptable at 21. -/
theorem InRange.chunked_narrow (h : e.InRange) : Chunked 21 4 e := by
  obtain ⟨n, hn, haccept⟩ := h.accepted_soon
  have hlimit : limit 22 ≤ limit 21 := by decide
  exact (Engine.chunked (Nat.lt_trans hn (by decide)) (UInt64.lt_of_lt_of_le haccept hlimit)).mono hn

/-- Above 30 bits, nothing is acceptable. -/
theorem Chunked.width_le (h : Chunked bits most e) (hb : bits.toNat < 64) : bits.toNat ≤ 30 := by
  by_contra hwide
  obtain ⟨n, -, hfinds⟩ := h
  have hdraw := UInt64.lt_iff_toNat_lt.mp hfinds.draw_lt
  have hpow : 2 ^ 31 ≤ 2 ^ bits.toNat := Nat.pow_le_pow_right (by decide) (Nat.lt_of_not_le hwide)
  rw [toNat_limit hb, Nat.div_eq_of_lt (Nat.lt_of_lt_of_le (by decide) hpow), Nat.zero_mul] at hdraw
  exact Nat.not_lt_zero _ hdraw

/-- A chunk, unless the search for it has not ended after `most` draws. -/
def chunk? (most : Nat) (bits : UInt64) (e : Engine) : Option (UInt64 × Engine) := do
  let e ← nextBelow? (limit bits) most e
  pure (e.draw &&& ((1 <<< bits) - 1), e)

def word? (most : Nat) (e : Engine) : Option (UInt64 × Engine) := do
  let (high, e) ← e.chunk? most 21
  let (middle, e) ← e.chunk? most 21
  let (low, e) ← e.chunk? most 22
  pure (((high <<< 21) ||| middle) <<< 22 ||| low, e)

theorem Chunked.drawn {enough : Nat} (h : Chunked bits enough e) (he : e.InRange)
    (hmost : enough ≤ most) :
    ∃ v f, e.chunk bits = (v, f) ∧ e.chunk? most bits = some (v, f) ∧ f.InRange := by
  refine ⟨_, _, rfl, ?_, h.inRange he⟩
  obtain ⟨n, hn, hfinds⟩ := h
  rw [chunk?, hfinds.nextBelow?_eq (Nat.le_trans hn hmost)]
  rfl

theorem word_of_chunks {g h : Engine} {high middle low : UInt64} (hhigh : e.chunk 21 = (high, f))
    (hmiddle : f.chunk 21 = (middle, g)) (hlow : g.chunk 22 = (low, h)) :
    e.word = ((high <<< 21 ||| middle) <<< 22 ||| low, h) := by
  rw [word, hhigh]
  dsimp only
  rw [hmiddle]
  dsimp only
  rw [hlow]

theorem InRange.word_drawn (h : e.InRange) (hmost : 4 ≤ most) :
    ∃ w f, e.word = (w, f) ∧ e.word? most = some (w, f) ∧ f.InRange := by
  obtain ⟨high, f, hhigh, hhigh?, hf⟩ := h.chunked_narrow.drawn h hmost
  obtain ⟨middle, g, hmiddle, hmiddle?, hg⟩ := hf.chunked_narrow.drawn hf hmost
  obtain ⟨low, i, hlow, hlow?, hi⟩ := hg.chunked_wide.drawn hg hmost
  refine ⟨_, i, word_of_chunks hhigh hmiddle hlow, ?_, hi⟩
  simp only [word?, hhigh?, hmiddle?, hlow?, Option.bind_eq_bind, Option.bind_some, Option.pure_def]

end

end Pattern.Engine

-- ---------------------------------------------------------------------------
-- Streams
-- ---------------------------------------------------------------------------

namespace PatternStream

open Pattern

section
variable (most : Nat)

def nextWord? (s : PatternStream) : Option (UInt64 × PatternStream) := do
  let (w, engine) ← s.engine.word? most
  pure (w, { s with engine })

def refill? (s : PatternStream) : Option PatternStream :=
  if s.pending.isEmpty then do
    let (w, engine) ← s.engine.word? most
    pure ⟨engine, octets w⟩
  else some s

def nextOctet? (s : PatternStream) : Option (UInt8 × PatternStream) := do
  let s ← s.refill? most
  pure (s.pending.headD 0, { s with pending := s.pending.tail })

def fillOnto? (taken : ByteArray) : Nat → PatternStream → Option (ByteArray × PatternStream)
  | 0, s => some (taken, s)
  | n + 1, s => do
    let (b, s) ← s.nextOctet? most
    fillOnto? (taken.push b) n s

def fill? (n : Nat) (s : PatternStream) : Option (ByteArray × PatternStream) :=
  fillOnto? most (ByteArray.emptyWithCapacity n) n s

def Use.serve? : Use → PatternStream → Option (Yield × PatternStream)
  | fill n, s => (s.fill? most n).map fun (bytes, s) => (.octets bytes, s)
  | word, s => (s.nextWord? most).map fun (w, s) => (.word w, s)

/-- Serves one use after the other, unless a search has not ended after `most`
draws. -/
def serve? : List Use → PatternStream → Option (List Yield × PatternStream)
  | [], s => some ([], s)
  | u :: uses, s => do
    let (y, s) ← u.serve? most s
    let (yields, s) ← serve? uses s
    pure (y :: yields, s)

end

section
variable {s : PatternStream} {n most : Nat}

theorem nextWord?_eq (h : s.engine.InRange) (hmost : 4 ≤ most) :
    s.nextWord? most = some s.nextWord ∧ s.nextWord.2.engine.InRange := by
  obtain ⟨w, f, hword, hword?, hf⟩ := h.word_drawn hmost
  rw [nextWord?, nextWord, hword, hword?]
  exact ⟨rfl, hf⟩

theorem refill?_eq (h : s.engine.InRange) (hmost : 4 ≤ most) :
    s.refill? most = some s.refill ∧ s.refill.engine.InRange := by
  obtain ⟨w, f, hword, hword?, hf⟩ := h.word_drawn hmost
  rw [refill?, refill, hword, hword?]
  split
  · exact ⟨rfl, hf⟩
  · exact ⟨rfl, h⟩

theorem nextOctet?_eq (h : s.engine.InRange) (hmost : 4 ≤ most) :
    s.nextOctet? most = some s.nextOctet ∧ s.nextOctet.2.engine.InRange := by
  obtain ⟨hrefill, hrange⟩ := refill?_eq h hmost
  rw [nextOctet?, nextOctet, hrefill]
  exact ⟨rfl, hrange⟩

theorem fillOnto?_eq {taken : ByteArray} (h : s.engine.InRange) (hmost : 4 ≤ most) :
    fillOnto? most taken n s = some (fillOnto taken n s) ∧
      (fillOnto taken n s).2.engine.InRange := by
  induction n generalizing taken s with
  | zero => exact ⟨rfl, h⟩
  | succ n ih =>
    obtain ⟨hoctet, hrange⟩ := nextOctet?_eq h hmost
    rw [fillOnto?, fillOnto, hoctet]
    exact ih hrange

theorem Use.serve?_eq (u : Use) (h : s.engine.InRange) (hmost : 4 ≤ most) :
    u.serve? most s = some (u.serve s) ∧ (u.serve s).2.engine.InRange := by
  cases u with
  | fill n =>
    obtain ⟨hfill, hrange⟩ := @fillOnto?_eq s n most (ByteArray.emptyWithCapacity n) h hmost
    rw [Use.serve?, Use.serve, fill?, PatternStream.fill, hfill]
    exact ⟨rfl, hrange⟩
  | word =>
    obtain ⟨hword, hrange⟩ := nextWord?_eq h hmost
    rw [Use.serve?, Use.serve, hword]
    exact ⟨rfl, hrange⟩

theorem serve?_eq (uses : List Use) (h : s.engine.InRange) (hmost : 4 ≤ most) :
    serve? most uses s = some (serve uses s) := by
  induction uses generalizing s with
  | nil => rfl
  | cons u uses ih =>
    obtain ⟨huse, hrange⟩ := u.serve?_eq h hmost
    simp only [serve?, serve, huse, ih hrange, Option.bind_eq_bind, Option.bind_some,
      Option.pure_def]

end

/-- From every state an acceptable one follows if the width is up to 30 bits. At
21 and 22 bits it is one of the next four, whatever was drawn before; so every
use of a stream is answered, and no limit of four draws or more shows. -/
theorem searches_end :
    (∀ e : Engine, e.InRange → ∀ bits : UInt64, bits.toNat < 64 →
      (e.Chunked bits (2 ^ 30) ↔ bits.toNat ≤ 30)) ∧
      ∀ seed,
        (∀ n, Engine.Chunked 21 4 (Engine.next^[n] (Engine.ofSeed seed)) ∧
          Engine.Chunked 22 4 (Engine.next^[n] (Engine.ofSeed seed))) ∧
        ∀ most, 4 ≤ most → ∀ uses,
          serve? most uses (ofSeed seed) = some (serve uses (ofSeed seed)) := by
  refine ⟨fun e he bits hb => ⟨fun hchunked => hchunked.width_le hb, he.chunked⟩,
    fun seed => ⟨fun n => ?_, fun most hmost uses => ?_⟩⟩
  · have hrange := (Engine.inRange_ofSeed seed).iterate n
    exact ⟨hrange.chunked_narrow, hrange.chunked_wide⟩
  · exact serve?_eq uses (Engine.inRange_ofSeed seed) hmost

/-- Three draws in a row can be rejected. -/
theorem searches_end_threeRejected :
    (⟨1753431187⟩ : Engine).InRange ∧
      (∀ n < 3, ¬ (Engine.next^[n + 1] ⟨1753431187⟩).draw < Engine.limit 22) ∧
      Engine.Chunked 22 (2 ^ 30) ⟨1753431187⟩ ∧
      serve? 4 [.fill 3, .word, .fill 9] (ofSeed 1753431187) =
        some (serve [.fill 3, .word, .fill 9] (ofSeed 1753431187)) := by
  have hrange : (⟨1753431187⟩ : Engine).InRange := ⟨by decide, by decide⟩
  refine ⟨hrange, by decide, ?_, (searches_end.2 1753431187).2 4 (Nat.le_refl 4) _⟩
  exact (searches_end.1 _ hrange 22 (by decide)).mpr (by decide)

end PatternStream

end EmmcVault
