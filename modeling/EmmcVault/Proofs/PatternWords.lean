import EmmcVault.Proofs.PatternStream
import Mathlib.Algebra.GroupWithZero.Nat
import Mathlib.Data.List.Perm.Basic

/-!
# Each word of the pattern once

A stream draws the words of its seed in order and hands each of them out once:
whole, or octet by octet with the words handed out so before it. Octets that
are left of a word wait while whole words are handed out. How the octets are
sliced makes no difference.
-/

namespace EmmcVault.PatternStream

open Pattern

-- ---------------------------------------------------------------------------
-- Uses of a stream
-- ---------------------------------------------------------------------------

inductive Use where
  | fill (n : Nat)
  | word

inductive Yield where
  | octets (bytes : ByteArray)
  | word (w : UInt64)

def Use.serve : Use → PatternStream → Yield × PatternStream
  | fill n, s => let (bytes, s) := s.fill n; (.octets bytes, s)
  | word, s => let (w, s) := s.nextWord; (.word w, s)

/-- Serves one use after the other from one stream. -/
def serve : List Use → PatternStream → List Yield × PatternStream
  | [], s => ([], s)
  | u :: uses, s =>
    let (y, s) := u.serve s
    let (yields, s) := serve uses s
    (y :: yields, s)

/-- The words handed out whole. -/
def wordsOf (yields : List Yield) : List UInt64 :=
  yields.filterMap fun
    | .word w => some w
    | .octets _ => none

/-- All octets handed out, put together. -/
def octetsOf (yields : List Yield) : List UInt8 :=
  yields.flatMap fun
    | .word _ => []
    | .octets bytes => bytes.data.toList

section
variable {uses : List Use} {s : PatternStream} {n : Nat}

theorem serve_fill : serve (.fill n :: uses) s =
    (.octets (s.fill n).1 :: (serve uses (s.fill n).2).1, (serve uses (s.fill n).2).2) := rfl

theorem serve_word : serve (.word :: uses) s =
    (.word s.nextWord.1 :: (serve uses s.nextWord.2).1, (serve uses s.nextWord.2).2) := rfl

@[simp] theorem octetsOf_octets {bytes : ByteArray} {yields : List Yield} :
    octetsOf (.octets bytes :: yields) = bytes.data.toList ++ octetsOf yields := rfl

@[simp] theorem octetsOf_word {w : UInt64} {yields : List Yield} :
    octetsOf (.word w :: yields) = octetsOf yields := rfl

@[simp] theorem wordsOf_octets {bytes : ByteArray} {yields : List Yield} :
    wordsOf (.octets bytes :: yields) = wordsOf yields := rfl

@[simp] theorem wordsOf_word {w : UInt64} {yields : List Yield} :
    wordsOf (.word w :: yields) = w :: wordsOf yields := rfl

end

/-- The use gets what it asks for. -/
def Use.Answered : Use → Yield → Prop
  | fill n, .octets bytes => bytes.size = n
  | word, .word _ => True
  | _, _ => False

theorem serve_answered {uses : List Use} {s : PatternStream} :
    List.Forall₂ Use.Answered uses (serve uses s).1 := by
  induction uses generalizing s with
  | nil => exact .nil
  | cons u uses ih =>
    refine .cons ?_ ih
    cases u with
    | fill n => exact size_fill
    | word => trivial

-- ---------------------------------------------------------------------------
-- Slices
-- ---------------------------------------------------------------------------

/-- The next `n` octets as a list. -/
def take : Nat → PatternStream → List UInt8 × PatternStream
  | 0, s => ([], s)
  | n + 1, s =>
    let (b, s) := s.nextOctet
    let (more, s) := take n s
    (b :: more, s)

section
variable {s : PatternStream} {m n : Nat}

theorem fillOnto_take {taken : ByteArray} :
    (fillOnto taken n s).1.data.toList = taken.data.toList ++ (s.take n).1 ∧
      (fillOnto taken n s).2 = (s.take n).2 := by
  induction n generalizing taken s with
  | zero => exact ⟨(List.append_nil _).symm, rfl⟩
  | succ n ih =>
    obtain ⟨hoctets, hstream⟩ := @ih s.nextOctet.2 (taken.push s.nextOctet.1)
    rw [fillOnto, take]
    refine ⟨hoctets.trans ?_, hstream⟩
    simp

theorem fill_take : (s.fill n).1.data.toList = (s.take n).1 ∧ (s.fill n).2 = (s.take n).2 :=
  fillOnto_take

theorem take_add :
    s.take (m + n) = ((s.take m).1 ++ ((s.take m).2.take n).1, ((s.take m).2.take n).2) := by
  induction m generalizing s with
  | zero => simp [take]
  | succ m ih =>
    rw [Nat.add_right_comm, take, take]
    simp only [ih]
    rfl

/-- Slices put together are one piece. -/
theorem serve_fills (ns : List Nat) :
    octetsOf (serve (ns.map .fill) s).1 = (s.take ns.sum).1 := by
  induction ns generalizing s with
  | nil => rfl
  | cons n ns ih =>
    obtain ⟨hoctets, hstream⟩ := @fill_take s n
    rw [List.sum_cons, take_add, ← ih, ← hoctets, ← hstream]
    exact serve_fill ▸ octetsOf_octets

theorem nextOctet_begun {b : UInt8} {rest : List UInt8} (h : s.pending = b :: rest) :
    s.nextOctet = (b, { s with pending := rest }) := by
  simp [nextOctet, refill, h]

theorem nextOctet_drawn {w : UInt64} {e : Engine} (h : s.pending = []) (hw : s.engine.word = (w, e)) :
    s.nextOctet = (w.toUInt8, ⟨e, (octets w).tail⟩) := by
  simp [nextOctet, refill, h, hw, octets]

theorem nextWord_drawn {w : UInt64} {e : Engine} (hw : s.engine.word = (w, e)) :
    s.nextWord.1 = w ∧ s.nextWord.2.engine = e ∧ s.nextWord.2.pending = s.pending := by
  rw [nextWord, hw]
  exact ⟨rfl, rfl, rfl⟩

theorem pending_nextWord : s.nextWord.2.pending = s.pending :=
  (nextWord_drawn (Prod.eta s.engine.word).symm).2.2

/-- As far as a begun word reaches, its octets are the next. -/
theorem take_pending {rest : List UInt8} (hp : s.pending = rest) (h : n ≤ rest.length) :
    (s.take n).1 = rest.take n := by
  induction n generalizing s rest with
  | zero => rfl
  | succ n ih =>
    cases rest with
    | nil => cases h
    | cons b rest =>
      rw [take, nextOctet_begun hp, List.take_succ_cons]
      exact congrArg (b :: ·) (ih rfl (Nat.le_of_succ_le_succ h))

end

-- ---------------------------------------------------------------------------
-- The words drawn
-- ---------------------------------------------------------------------------

/-- So far the words `whole` of a seed were handed out whole and the words
`split` octet by octet, as `given` and what is pending of the last of them. -/
structure Dealt (seed : UInt32) (whole split : List Nat) (given : List UInt8)
    (s : PatternStream) : Prop where
  drawn : s.engine = (Engine.ofSeed seed).skip (whole.length + split.length)
  once : (whole ++ split).Perm (List.range (whole.length + split.length))
  whole_ascending : whole.Pairwise (· < ·)
  split_ascending : split.Pairwise (· < ·)
  octets : given ++ s.pending = split.flatMap fun k => Pattern.octets (wordAt seed k)
  begun : s.pending.length < 8

namespace Dealt

variable {seed : UInt32} {whole split : List Nat} {given : List UInt8} {s : PatternStream}

theorem ofSeed : Dealt seed [] [] [] (PatternStream.ofSeed seed) :=
  ⟨rfl, .nil, .nil, .nil, rfl, Nat.zero_lt_succ _⟩

/-- Words drawn so far come before the next. -/
theorem lt_next (h : Dealt seed whole split given s) {k : Nat} (hk : k ∈ whole ++ split) :
    k < whole.length + split.length :=
  List.mem_range.mp (h.once.mem_iff.mp hk)

theorem ascending_next {drawn : List Nat} {next : Nat} (ha : drawn.Pairwise (· < ·))
    (hlt : ∀ k ∈ drawn, k < next) : (drawn ++ [next]).Pairwise (· < ·) :=
  List.pairwise_append.mpr ⟨ha, List.pairwise_singleton _ _, fun k hk _ hn =>
    List.mem_singleton.mp hn ▸ hlt k hk⟩

/-- The next word is drawn. -/
theorem draw (h : Dealt seed whole split given s) :
    s.engine.word = (wordAt seed (whole.length + split.length),
      (Engine.ofSeed seed).skip (whole.length + split.length + 1)) := by
  rw [h.drawn, wordAt, Engine.skip]

theorem nextWord (h : Dealt seed whole split given s) :
    s.nextWord.1 = wordAt seed (whole.length + split.length) ∧
      Dealt seed (whole ++ [whole.length + split.length]) split given s.nextWord.2 := by
  have hcount : (whole ++ [whole.length + split.length]).length + split.length =
      whole.length + split.length + 1 := by
    rw [List.length_append, List.length_singleton, Nat.add_right_comm]
  obtain ⟨hword, hengine, hpending⟩ := nextWord_drawn h.draw
  refine ⟨hword, ?_, ?_, ?_, h.split_ascending, ?_, ?_⟩
  · rw [hengine, hcount]
  · rw [hcount, List.range_succ, List.append_assoc]
    exact (List.perm_append_comm.append_left _).trans
      (List.append_assoc .. ▸ h.once.append_right _)
  · exact ascending_next h.whole_ascending fun k hk => h.lt_next (List.mem_append_left _ hk)
  · rw [hpending]
    exact h.octets
  · rw [hpending]
    exact h.begun

/-- An octet comes from the word that is begun, or it begins the next. -/
theorem nextOctet (h : Dealt seed whole split given s) :
    ∃ more, Dealt seed whole (split ++ more) (given ++ [s.nextOctet.1]) s.nextOctet.2 := by
  cases hp : s.pending with
  | cons b rest =>
    have hoctets := h.octets
    have hbegun := h.begun
    rw [hp] at hoctets hbegun
    refine ⟨[], ?_⟩
    rw [List.append_nil, nextOctet_begun hp]
    refine ⟨h.drawn, h.once, h.whole_ascending, h.split_ascending, ?_, Nat.lt_of_succ_lt hbegun⟩
    rw [List.append_assoc]
    exact hoctets
  | nil =>
    have hcount : whole.length + (split ++ [whole.length + split.length]).length =
        whole.length + split.length + 1 := by
      rw [List.length_append, List.length_singleton, Nat.add_assoc]
    refine ⟨[whole.length + split.length], ?_⟩
    rw [nextOctet_drawn hp h.draw]
    refine ⟨?_, ?_, h.whole_ascending, ?_, ?_, Nat.lt_succ_self 7⟩
    · rw [hcount]
    · rw [hcount, List.range_succ, ← List.append_assoc]
      exact h.once.append_right _
    · exact ascending_next h.split_ascending fun k hk => h.lt_next (List.mem_append_right _ hk)
    · rw [List.flatMap_append, ← h.octets, hp, List.append_nil, List.append_assoc,
        List.flatMap_singleton]
      rfl

theorem take (h : Dealt seed whole split given s) (n : Nat) :
    ∃ more, Dealt seed whole (split ++ more) (given ++ (s.take n).1) (s.take n).2 := by
  induction n generalizing split given s with
  | zero => exact ⟨[], by simpa [PatternStream.take] using h⟩
  | succ n ih =>
    obtain ⟨first, hfirst⟩ := h.nextOctet
    obtain ⟨more, hmore⟩ := ih hfirst
    refine ⟨first ++ more, ?_⟩
    rw [← List.append_assoc, PatternStream.take]
    simpa using hmore

theorem serve (h : Dealt seed whole split given s) (uses : List Use) :
    ∃ words parts, Dealt seed (whole ++ words) (split ++ parts)
        (given ++ octetsOf (serve uses s).1) (serve uses s).2 ∧
      wordsOf (PatternStream.serve uses s).1 = words.map (wordAt seed) := by
  induction uses generalizing whole split given s with
  | nil => exact ⟨[], [], by simpa [PatternStream.serve, octetsOf] using h, rfl⟩
  | cons u uses ih =>
    cases u with
    | fill n =>
      obtain ⟨hoctets, hstream⟩ := @fill_take s n
      obtain ⟨first, hfirst⟩ := h.take n
      rw [← hoctets, ← hstream] at hfirst
      obtain ⟨words, parts, hrest, hwords⟩ := ih hfirst
      rw [List.append_assoc, List.append_assoc] at hrest
      rw [serve_fill, octetsOf_octets, wordsOf_octets]
      exact ⟨words, first ++ parts, hrest, hwords⟩
    | word =>
      obtain ⟨hword, hnext⟩ := h.nextWord
      obtain ⟨words, parts, hrest, hwords⟩ := ih hnext
      rw [List.append_assoc] at hrest
      refine ⟨(whole.length + split.length) :: words, parts, ?_, ?_⟩
      · rw [serve_word, octetsOf_word]
        exact hrest
      · rw [serve_word, wordsOf_word, hword, hwords, List.map_cons]

end Dealt

/-- However a stream is used, the words `whole` of its seed come out whole and
the words `split` octet by octet: each word drawn so far once, in order, and of
the last split one at most seven octets still to come. A word taken in between
leaves these in place, and cutting the octets makes no difference. -/
theorem hands_out_once (seed : UInt32) :
    (∀ uses, ∃ whole split,
      Dealt seed whole split (octetsOf (serve uses (ofSeed seed)).1) (serve uses (ofSeed seed)).2 ∧
        wordsOf (serve uses (ofSeed seed)).1 = whole.map (wordAt seed) ∧
        List.Forall₂ Use.Answered uses (serve uses (ofSeed seed)).1) ∧
      (∀ (s : PatternStream) n, n ≤ s.pending.length →
        (s.nextWord.2.fill n).1.data.toList = s.pending.take n ∧
          (s.fill n).1.data.toList = s.pending.take n) ∧
      ∀ (s : PatternStream) (ns : List Nat),
        octetsOf (serve (ns.map .fill) s).1 = (s.fill ns.sum).1.data.toList := by
  refine ⟨fun uses => ?_, fun s n hn => ?_, fun s ns => ?_⟩
  · obtain ⟨whole, split, hdealt, hwords⟩ := Dealt.ofSeed.serve uses
    exact ⟨whole, split, hdealt, hwords, serve_answered⟩
  · refine ⟨?_, ?_⟩
    · rw [fill_take.1]
      exact take_pending pending_nextWord hn
    · rw [fill_take.1]
      exact take_pending rfl hn
  · rw [serve_fills, fill_take.1]

end EmmcVault.PatternStream
