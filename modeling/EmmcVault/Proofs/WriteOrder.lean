import EmmcVault.Proofs.History
import EmmcVault.Proofs.Overwrite
import EmmcVault.Proofs.Transcript
import Mathlib.Algebra.GroupWithZero.Nat

/-!
# The writes of an overwrite

An overwrite hands over one block after the other and flushes once, behind the
last of them and only if all were taken whole. A pattern block is one write, and
a count other than its length ends the overwrite. A block of zeros may take
several writes, each of all that remains of it, as far as the attempts go.
-/

namespace EmmcVault

open Memory Pattern Transcribed

variable {ε σ τ τ' η α : Type}

-- ---------------------------------------------------------------------------
-- Blocks by number
-- ---------------------------------------------------------------------------

namespace Blocks

/-- Blocks of `size` octets that cover `total`. -/
def count (size total : Nat) : Nat :=
  (total + size - 1) / size

/-- Octets of block `i`; only the last may be shorter. -/
def lengthAt (size total i : Nat) : Nat :=
  min size (total - i * size)

variable {size total i : Nat}

theorem lt_count (positive : 0 < size) : i < count size total ↔ i * size < total := by
  rw [count, Nat.lt_iff_add_one_le, Nat.le_div_iff_mul_le positive, Nat.succ_mul]
  omega

/-- Every block lies inside the area. -/
theorem fits (h : i * size < total) :
    0 < size → 0 < lengthAt size total i ∧ i * size + lengthAt size total i ≤ total := by
  unfold lengthAt
  omega

end Blocks

open Blocks

/-- A run that fails and flushes nothing. -/
theorem Line.not_flushed {lines : List Line} {f : ε} {a : α}
    (h : lines.filterMap Line.flush? = []) :
    (.error f : Except ε α) = .ok a ↔ lines.filterMap Line.flush? = [.ok ()] := by
  simp [h]

/-- A run that ends with a flush ends as the flush does. -/
theorem Line.flushed_iff {answer : Except BackendError Unit} {flush : BackendError → Fault} :
    answer.mapError flush = .ok () ↔
      [(⟨.request .sync, answer⟩ : Line)].filterMap Line.flush? = [.ok ()] := by
  cases answer with
  | ok a => exact ⟨fun _ => rfl, fun _ => rfl⟩
  | error cause => exact ⟨nofun, nofun⟩

/-- A loop over the blocks by their numbers. -/
theorem Transcribes.blocksInTurn {put : τ → List Line → τ'} {size total : Nat} {positive : 0 < size}
    {step' : Nat → Nat → α → EStateM ε τ' α} {step : Nat → Nat → α → EStateM ε τ α}
    {before : List Line} {E : ε → List Line → Prop} {a : α} (Inv : Nat → α → List Line → Prop)
    (hstep : ∀ i a lines, i * size < total → Inv i a lines →
      Transcribes put (step' (i * size) (lengthAt size total i) a)
        (step (i * size) (lengthAt size total i) a) lines (Inv (i + 1)) E)
    (hi : Inv 0 a before) :
    Transcribes put (Blocks.run size positive step' 0 total a)
      (Blocks.run size positive step 0 total a) before (Inv (count size total)) E := by
  -- the offset is where block `i` starts, except behind a last block that is shorter
  refine Transcribes.mono (Transcribes.blocks (fun offset a lines => ∃ i, i ≤ count size total ∧
    offset = min (i * size) total ∧ Inv i a lines) ?_ (Nat.zero_add total)
    ⟨0, Nat.zero_le _, by omega, hi⟩) ?_ fun _ _ h => h
  · rintro offset a lines hlt ⟨i, -, hoffset, hi⟩
    have hmore : i * size < total := by omega
    obtain rfl : offset = i * size := by omega
    refine Transcribes.mono (hstep i a lines hmore hi) (fun a lines h => ?_) fun _ _ h => h
    refine ⟨i + 1, (lt_count positive).mpr hmore, ?_, h⟩
    rw [Nat.succ_mul]
    omega
  · rintro a lines ⟨i, hle, hoffset, hi⟩
    obtain rfl | hlt := Nat.eq_or_lt_of_le hle
    · exact hi
    · have hmore := (lt_count positive).mp hlt
      omega

-- ---------------------------------------------------------------------------
-- The pattern
-- ---------------------------------------------------------------------------

namespace PatternErase

/-- Block `i` of the pattern was handed over. -/
def blockLine (seed : UInt32) (size total i : Nat) (answer : Except BackendError Nat) : Line :=
  ⟨.request (.write ⟨(stretch seed (i * size) (lengthAt size total i)).toArray⟩), answer⟩

/-- The first `k` blocks were taken whole. -/
def wholeWrites (seed : UInt32) (size total k : Nat) : List Line :=
  (List.range k).map fun i => blockLine seed size total i (.ok (lengthAt size total i))

/-- What an overwrite of `total` octets writes and how it ends. -/
inductive Writes (seed : UInt32) (size total : Nat) : List Line → Except Fault Unit → Prop
  | failed {i} (cause) (more : i * size < total) :
      Writes seed size total
        (wholeWrites seed size total i ++ [blockLine seed size total i (.error cause)])
        (.error (.patternCall .write (i * size) cause))
  | short {i} (moved : Nat) (more : i * size < total) (short : moved ≠ lengthAt size total i) :
      Writes seed size total
        (wholeWrites seed size total i ++ [blockLine seed size total i (.ok moved)])
        (.error (.patternShort .write (i * size) moved (lengthAt size total i)))
  | flushed (answer : Except BackendError Unit) :
      Writes seed size total
        (wholeWrites seed size total (count size total) ++ [⟨.request .sync, answer⟩])
        (answer.mapError .patternFlush)

section
variable {b : Backends σ η} {v : Volume} {seed : UInt32} {size total : Nat}

theorem wholeWrites_succ {i : Nat} :
    wholeWrites seed size total (i + 1) = wholeWrites seed size total i ++
      [blockLine seed size total i (.ok (lengthAt size total i))] := by
  rw [wholeWrites, List.range_succ, List.map_append, List.map_singleton]
  rfl

/-- One block, behind the whole blocks before it. -/
theorem writeBlock_transcribes {i : Nat} {before : List Line} (more : i * size < total) :
    Transcribes onHandle
      (writeBlock (v.eraseTarget b.transcribed) (i * size) (lengthAt size total i)
        (.after seed (i * size)))
      (writeBlock (v.eraseTarget b) (i * size) (lengthAt size total i) (.after seed (i * size)))
      (before ++ wholeWrites seed size total i)
      (fun stream lines => stream = .after seed (i * size + lengthAt size total i) ∧
        lines = before ++ wholeWrites seed size total (i + 1))
      (fun f lines => ∃ added, lines = before ++ added ∧
        Writes seed size total added (.error f)) := by
  obtain ⟨hblock, hrest⟩ := @PatternStream.fill_after seed (i * size) (lengthAt size total i)
  unfold writeBlock
  generalize (PatternStream.after seed (i * size)).fill _ = filled at hblock hrest
  obtain ⟨block, rest⟩ := filled
  dsimp only at hblock hrest ⊢
  obtain rfl : block = ⟨(stretch seed (i * size) (lengthAt size total i)).toArray⟩ := by
    rw [← hblock, Array.toArray_toList]
  refine Transcribes.bind (R := fun written lines => lines = before ++
    (wholeWrites seed size total i ++ [blockLine seed size total i (.ok written)]))
    (Transcribes.orFault (Transcribes.takeOpen (fun _ _ _ _ => List.append_assoc ..)
      fun cause => ⟨_, List.append_assoc .., .failed cause more⟩)) ?_
  rintro written _ rfl
  split
  · rename_i hwhole
    refine Transcribes.pure ⟨hrest, ?_⟩
    rw [wholeWrites_succ, hwhole]
  · rename_i hshort
    exact Transcribes.throw ⟨_, rfl, .short written more hshort⟩

theorem writeBlocks_transcribes {positive : 0 < size} {before : List Line} :
    Transcribes onHandle
      (Blocks.run size positive (writeBlock (v.eraseTarget b.transcribed)) 0 total (.ofSeed seed))
      (Blocks.run size positive (writeBlock (v.eraseTarget b)) 0 total (.ofSeed seed)) before
      (fun _ lines => lines = before ++ wholeWrites seed size total (count size total))
      (fun f lines => ∃ added, lines = before ++ added ∧
        Writes seed size total added (.error f)) := by
  refine Transcribes.mono (Transcribes.blocksInTurn (fun i stream lines =>
    stream = .after seed (min (i * size) total) ∧ lines = before ++ wholeWrites seed size total i)
    ?_ ⟨?_, (List.append_nil _).symm⟩) (fun _ _ h => h.2) fun _ _ h => h
  · rintro i _ _ more ⟨rfl, rfl⟩
    have hstart : min (i * size) total = i * size := Nat.min_eq_left (Nat.le_of_lt more)
    have hnext : min ((i + 1) * size) total = i * size + lengthAt size total i := by
      rw [Nat.succ_mul, lengthAt]
      omega
    rw [hstart, hnext]
    exact writeBlock_transcribes more
  · rw [Nat.zero_mul, Nat.zero_min]
    exact PatternStream.after_zero.symm

/-- It ends well exactly if it flushes once and that succeeds. -/
theorem Writes.ok_iff {lines : List Line} {r : Except Fault Unit}
    (h : Writes seed size total lines r) :
    r = .ok () ↔ lines.filterMap Line.flush? = [.ok ()] := by
  have hwhole : ∀ k, (wholeWrites seed size total k).filterMap Line.flush? = [] := by
    intro k
    refine List.filterMap_eq_nil_iff.mpr fun line hline => ?_
    obtain ⟨i, -, rfl⟩ := List.mem_map.mp hline
    rfl
  cases h with
  | failed cause more => exact Line.not_flushed (by rw [List.filterMap_append, hwhole]; rfl)
  | short moved more short => exact Line.not_flushed (by rw [List.filterMap_append, hwhole]; rfl)
  | flushed answer =>
    rw [List.filterMap_append, hwhole]
    exact Line.flushed_iff

end

end PatternErase

-- ---------------------------------------------------------------------------
-- Zeros
-- ---------------------------------------------------------------------------

/-- A device takes no more octets than it is given. -/
def BlockDevices.CountsWithin (d : BlockDevices σ η) : Prop :=
  ∀ bytes t moved t', d.write bytes t = .ok moved t' → moved ≤ bytes.size

namespace ZeroErase

/-- Writes of the octets that remain of a block, of which so many were taken. -/
def restWrites (remaining : Nat) : List Nat → List Line
  | [] => []
  | moved :: counts =>
    ⟨.request (.write (Buffer.zeros remaining)), .ok moved⟩ :: restWrites (remaining - moved) counts

/-- A block of `length` octets was taken whole, in no more writes than allowed,
each of which had something left to write. -/
structure Taken (attempts length : Nat) (counts : List Nat) : Prop where
  whole : counts.sum = length
  allowed : counts.length ≤ attempts
  needed : ∀ k < counts.length, (counts.take k).sum < length

/-- The writes of the first blocks, one list of counts for each. -/
def blockWrites (size total : Nat) (blocks : List (List Nat)) : List Line :=
  blocks.zipIdx.flatMap fun (counts, i) => restWrites (lengthAt size total i) counts

/-- The first blocks were taken whole. -/
def AllTaken (attempts size total : Nat) (blocks : List (List Nat)) : Prop :=
  ∀ i counts, blocks[i]? = some counts → Taken attempts (lengthAt size total i) counts

/-- What an overwrite of `total` octets writes and how it ends. -/
inductive Writes (attempts : UInt32) (size total : Nat) : List Line → Except Fault Unit → Prop
  | failed {blocks : List (List Nat)} {counts : List Nat} (cause)
      (taken : AllTaken attempts.toNat size total blocks) (more : blocks.length * size < total)
      (left : counts.length < attempts.toNat)
      (needed : counts.sum < lengthAt size total blocks.length) :
      Writes attempts size total
        (blockWrites size total blocks ++ restWrites (lengthAt size total blocks.length) counts ++
          [⟨.request (.write (Buffer.zeros (lengthAt size total blocks.length - counts.sum))),
            .error cause⟩])
        (.error (.internal (.moveZeros .write (blocks.length * size)) cause))
  | stalled {blocks : List (List Nat)} {counts : List Nat}
      (taken : AllTaken attempts.toNat size total blocks) (more : blocks.length * size < total)
      (none_left : counts.length = attempts.toNat)
      (needed : counts.sum < lengthAt size total blocks.length) :
      Writes attempts size total
        (blockWrites size total blocks ++ restWrites (lengthAt size total blocks.length) counts)
        (.error (.zerosStalled .write (blocks.length * size) counts.sum
          (lengthAt size total blocks.length) attempts))
  | flushed {blocks : List (List Nat)} (answer : Except BackendError Unit)
      (taken : AllTaken attempts.toNat size total blocks)
      (all : blocks.length = count size total) :
      Writes attempts size total (blockWrites size total blocks ++ [⟨.request .sync, answer⟩])
        (answer.mapError (.internal .flushZeros))

section
variable {b : Backends σ η} {v : Volume} {size total remaining moved attempts : Nat}
  {counts : List Nat} {blocks : List (List Nat)}

theorem restWrites_append :
    restWrites remaining (counts ++ [moved]) = restWrites remaining counts ++
      [⟨.request (.write (Buffer.zeros (remaining - counts.sum))), .ok moved⟩] := by
  induction counts generalizing remaining with
  | nil => rfl
  | cons first counts ih =>
    rw [List.cons_append, restWrites, ih, restWrites, List.sum_cons, Nat.sub_sub]
    rfl

theorem blockWrites_append :
    blockWrites size total (blocks ++ [counts]) = blockWrites size total blocks ++
      restWrites (lengthAt size total blocks.length) counts := by
  simp [blockWrites, List.zipIdx_append]

theorem AllTaken.append (h : AllTaken attempts size total blocks)
    (hc : Taken attempts (lengthAt size total blocks.length) counts) :
    AllTaken attempts size total (blocks ++ [counts]) := by
  intro i counts' hi
  rw [List.getElem?_append] at hi
  split at hi
  · exact h i counts' hi
  · rename_i hle
    rw [List.getElem?_singleton] at hi
    split at hi
    · cases hi
      obtain rfl : i = blocks.length := by omega
      exact hc
    · cases hi

/-- One block, behind the whole blocks before it. -/
theorem writeBlock_transcribes (hd : b.devices.CountsWithin) {before : List Line} {a : Unit}
    (hmax : size ≤ EraseTarget.maxBlock) (more : blocks.length * size < total)
    (taken : AllTaken v.settings.erase.transferAttempts.toNat size total blocks) :
    Transcribes onHandle
      (writeBlock (v.eraseTarget b.transcribed) (blocks.length * size)
        (lengthAt size total blocks.length) a)
      (writeBlock (v.eraseTarget b) (blocks.length * size) (lengthAt size total blocks.length) a)
      (before ++ blockWrites size total blocks)
      (fun _ lines => ∃ counts, lines = before ++ blockWrites size total (blocks ++ [counts]) ∧
        AllTaken v.settings.erase.transferAttempts.toNat size total (blocks ++ [counts]))
      (fun f lines => ∃ added, lines = before ++ added ∧
        Writes v.settings.erase.transferAttempts size total added (.error f)) := by
  have hlength : lengthAt size total blocks.length ≤ ZeroErase.maxCount := by
    have hcount : EraseTarget.maxBlock ≤ ZeroErase.maxCount := by decide
    exact Nat.le_trans (Nat.min_le_left _ _) (Nat.le_trans hmax hcount)
  unfold writeBlock
  -- the counts so far: one for each attempt used up, what was moved in all, never all of it early
  refine Transcribes.bind (Transcribes.transfer (fun left done buffer lines =>
    buffer = Buffer.zeros (lengthAt size total blocks.length) ∧ ∃ counts : List Nat,
      counts.length + left = v.settings.erase.transferAttempts.toNat ∧ counts.sum = done ∧
      (∀ k < counts.length, (counts.take k).sum < lengthAt size total blocks.length) ∧
      lines = before ++ (blockWrites size total blocks ++
        restWrites (lengthAt size total blocks.length) counts)) ?_ ?_ hlength (Nat.zero_le _)
    ⟨rfl, [], Nat.zero_add _, rfl, nofun, by rw [restWrites, List.append_nil]⟩) ?_
  · rintro left done _ _ hlt ⟨rfl, counts, hleft, rfl, hneeded, rfl⟩
    have hrest : (Buffer.zeros (lengthAt size total blocks.length)).extract counts.sum
        (lengthAt size total blocks.length) =
        Buffer.zeros (lengthAt size total blocks.length - counts.sum) := by
      refine ByteArray.ext (Array.ext' ?_)
      simp [Buffer.zeros, Buffer.constant]
    unfold writeRest
    rw [hrest]
    refine Transcribes.bind (R := fun (moved : Nat) lines =>
      moved ≤ lengthAt size total blocks.length - counts.sum ∧
      lines = before ++ (blockWrites size total blocks ++
        restWrites (lengthAt size total blocks.length) (counts ++ [moved])))
      (Transcribes.takeOpen (fun t moved t' hwrite => ⟨?_, ?_⟩) fun cause => ?_) ?_
    · have hle := hd _ _ _ _ hwrite
      exact Nat.le_trans hle (Nat.le_of_eq Array.size_replicate)
    · have happend := @restWrites_append (lengthAt size total blocks.length) moved counts
      refine Eq.trans ?_ (congrArg (fun lines => before ++ (blockWrites size total blocks ++ lines))
        happend.symm)
      rw [List.append_assoc, List.append_assoc]
    · refine ⟨_, List.append_assoc .., .failed cause taken more (by omega) hlt⟩
    · rintro moved _ ⟨hle, rfl⟩
      refine Transcribes.pure ⟨by dsimp only; omega, rfl, counts ++ [moved], ?_, ?_, ?_, rfl⟩
      · rw [List.length_append, List.length_singleton]
        omega
      · rw [List.sum_append, List.sum_singleton]
      · intro k hk
        rw [List.length_append, List.length_singleton] at hk
        rw [List.take_append_of_le_length (by omega)]
        obtain rfl | hlt' := Nat.eq_or_lt_of_le (Nat.le_of_lt_succ hk)
        · rwa [List.take_length]
        · exact hneeded k hlt'
  · rintro done _ _ hlt ⟨rfl, counts, hleft, rfl, hneeded, rfl⟩
    exact ⟨_, rfl, .stalled taken more hleft hlt⟩
  · rintro _ _ ⟨left, rfl, counts, hleft, hsum, hneeded, rfl⟩
    refine Transcribes.pure ⟨counts, ?_, taken.append ⟨hsum, by omega, hneeded⟩⟩
    rw [blockWrites_append]

theorem writeBlocks_transcribes (hd : b.devices.CountsWithin) {positive : 0 < size}
    {before : List Line} (hmax : size ≤ EraseTarget.maxBlock) :
    Transcribes onHandle
      (Blocks.run size positive (writeBlock (v.eraseTarget b.transcribed)) 0 total ())
      (Blocks.run size positive (writeBlock (v.eraseTarget b)) 0 total ()) before
      (fun _ lines => ∃ blocks, lines = before ++ blockWrites size total blocks ∧
        AllTaken v.settings.erase.transferAttempts.toNat size total blocks ∧
        blocks.length = count size total)
      (fun f lines => ∃ added, lines = before ++ added ∧
        Writes v.settings.erase.transferAttempts size total added (.error f)) := by
  refine Transcribes.mono (Transcribes.blocksInTurn (fun i _ lines => ∃ blocks,
    lines = before ++ blockWrites size total blocks ∧
    AllTaken v.settings.erase.transferAttempts.toNat size total blocks ∧ blocks.length = i)
    ?_ ⟨[], (List.append_nil _).symm, nofun, rfl⟩) (fun _ _ h => h) fun _ _ h => h
  rintro _ a _ more ⟨blocks, rfl, taken, rfl⟩
  refine Transcribes.mono (writeBlock_transcribes hd hmax more taken) ?_ fun _ _ h => h
  rintro _ _ ⟨counts, rfl, taken'⟩
  exact ⟨blocks ++ [counts], rfl, taken', by rw [List.length_append, List.length_singleton]⟩

/-- It ends well exactly if it flushes once and that succeeds. -/
theorem Writes.ok_iff {attempts : UInt32} {lines : List Line} {r : Except Fault Unit}
    (h : Writes attempts size total lines r) :
    r = .ok () ↔ lines.filterMap Line.flush? = [.ok ()] := by
  have hrest : ∀ remaining counts, (restWrites remaining counts).filterMap Line.flush? = [] := by
    intro remaining counts
    induction counts generalizing remaining with
    | nil => rfl
    | cons moved counts ih => exact ih _
  have hblocks : ∀ blocks, (blockWrites size total blocks).filterMap Line.flush? = [] := by
    intro blocks
    refine List.filterMap_eq_nil_iff.mpr fun line hline => ?_
    obtain ⟨⟨counts, i⟩, -, hline⟩ := List.mem_flatMap.mp hline
    exact List.filterMap_eq_nil_iff.mp (hrest _ _) line hline
  cases h with
  | failed cause taken more left needed =>
    exact Line.not_flushed (by
      rw [List.filterMap_append, List.filterMap_append, hblocks, hrest]
      rfl)
  | stalled taken more none_left needed =>
    exact Line.not_flushed (by rw [List.filterMap_append, hblocks, hrest]; rfl)
  | flushed answer taken all =>
    rw [List.filterMap_append, hblocks]
    exact Line.flushed_iff

end

end ZeroErase

-- ---------------------------------------------------------------------------
-- Passes
-- ---------------------------------------------------------------------------

/-- The device was measured, unless the request says how much to write. -/
def measuring (bytes : Option UInt64) (total : UInt64) : List Line :=
  match bytes with
  | some _ => []
  | none => [⟨.request .size, .ok total⟩]

/-- The transcripts of an overwrite whose blocks and flush are among `Writes`,
and what it gives. -/
inductive Overwriting (device : Path) (method : EraseMethod) (bytes : Option UInt64)
    (Writes : Nat → List Line → Except Fault Unit → Prop) :
    List Line → Except Fault EraseReport → Prop
  | refused (cause) :
      Overwriting device method bytes Writes [⟨.openHandle device .write, .error cause⟩]
        (.error (.opening cause))
  | unmeasured (cause) (whole : bytes = none) :
      Overwriting device method bytes Writes
        [⟨.openHandle device .write, .ok ()⟩, ⟨.request .size, .error cause⟩, ⟨.close, .ok ()⟩]
        (.error (.internal .querySize cause))
  | written {total : UInt64} {lines r} (asked : bytes.getD total = total)
      (writes : Writes total.toNat lines r) :
      Overwriting device method bytes Writes
        (⟨.openHandle device .write, .ok ()⟩ :: measuring bytes total ++ lines ++
          [⟨.close, .ok ()⟩])
        (r.map fun _ => ⟨method, total⟩)

section
variable {b : Backends σ η} {v : Volume} {bytes : Option UInt64}

/-- On the open device: its length, the blocks and one flush. -/
theorem EraseTarget.overwrite_transcribes {method : EraseMethod} {size : Nat}
    (flush : BackendError → Fault) (blocks' : Nat → EStateM Fault (Transcribed σ × η) α)
    (blocks : Nat → EStateM Fault (σ × η) α) {Writes : Nat → List Line → Except Fault Unit → Prop}
    (hmax : size ≤ EraseTarget.maxBlock)
    (hblocks : ∀ total before, Transcribes onHandle (blocks' total) (blocks total) before
      (fun _ lines => ∃ added, lines = before ++ added ∧ ∀ answer,
        Writes total (added ++ [⟨.request .sync, answer⟩]) (answer.mapError flush))
      (fun f lines => ∃ added, lines = before ++ added ∧ Writes total added (.error f))) :
    Transcribes Transcribed.mk
      ((v.eraseTarget b.transcribed).withDevice .write do
        let total ← (v.eraseTarget b.transcribed).length bytes
        EraseTarget.requireBlock size
        let _ ← blocks' total.toNat
        Call.orFault b.transcribed.devices.sync flush
        pure (⟨method, total⟩ : EraseReport))
      ((v.eraseTarget b).withDevice .write do
        let total ← (v.eraseTarget b).length bytes
        EraseTarget.requireBlock size
        let _ ← blocks total.toNat
        Call.orFault b.devices.sync flush
        pure (⟨method, total⟩ : EraseReport)) []
      (fun report lines => Overwriting v.identity.device method bytes Writes lines (.ok report))
      (fun f lines => Overwriting v.identity.device method bytes Writes lines (.error f)) := by
  refine Transcribes.withHandle (fun cause => .refused cause) ?_
  refine Transcribes.bind (R := fun total lines => bytes.getD total = total ∧
    lines = ⟨.openHandle v.identity.device .write, .ok ()⟩ :: measuring bytes total) ?_ ?_
  · cases bytes with
    | some n => exact Transcribes.pure ⟨rfl, rfl⟩
    | none =>
      exact Transcribes.orFault (Transcribes.takeOpen (fun _ _ _ _ => ⟨rfl, rfl⟩)
        fun cause => .unmeasured cause rfl)
  rintro total _ ⟨asked, rfl⟩
  have hroom : ∀ {τ : Type}, (EraseTarget.requireBlock size : EStateM Fault τ Unit) =
      Pure.pure () := by
    intro τ
    rw [EraseTarget.requireBlock, if_pos hmax]
  rw [hroom, hroom]
  refine Transcribes.bind (R := fun _ lines => lines =
    ⟨.openHandle v.identity.device .write, .ok ()⟩ :: measuring bytes total)
    (Transcribes.pure rfl) ?_
  rintro _ _ rfl
  refine Transcribes.bind (Transcribes.mono (hblocks total.toNat _) (fun _ _ h => h) ?_) ?_
  · rintro f _ ⟨added, rfl, hwrites⟩
    exact .written asked hwrites
  rintro _ _ ⟨added, rfl, hwrites⟩
  refine Transcribes.bind (R := fun _ lines => lines =
    ⟨.openHandle v.identity.device .write, .ok ()⟩ :: measuring bytes total ++
      (added ++ [⟨.request .sync, .ok ()⟩]))
    (Transcribes.orFault (Transcribes.takeOpen (fun _ _ _ _ => List.append_assoc ..)
      fun cause => ?_)) ?_
  · rw [List.append_assoc _ added]
    exact .written asked (hwrites (.error cause))
  · rintro _ _ rfl
    exact Transcribes.pure (.written asked (hwrites (.ok ())))

/-- The whole overwrite succeeds exactly if it flushes once and that succeeds. -/
theorem Overwriting.ok_iff {device : Path} {method : EraseMethod} {lines : List Line}
    {Writes : Nat → List Line → Except Fault Unit → Prop} {r : Except Fault EraseReport}
    (hwrites : ∀ {total lines r}, Writes total lines r →
      (r = .ok () ↔ lines.filterMap Line.flush? = [.ok ()]))
    (h : Overwriting device method bytes Writes lines r) :
    (∃ report, r = .ok report) ↔ lines.filterMap Line.flush? = [.ok ()] := by
  cases h with
  | refused cause => exact ⟨nofun, nofun⟩
  | unmeasured cause whole => exact ⟨nofun, nofun⟩
  | @written total lines r asked writes =>
    have hmeasuring : (measuring bytes total).filterMap Line.flush? = [] := by
      cases bytes <;> rfl
    have hopen : Line.flush? ⟨.openHandle device .write, .ok ()⟩ = none := rfl
    have hclose : [(⟨.close, .ok ()⟩ : Line)].filterMap Line.flush? = [] := rfl
    rw [List.cons_append, List.cons_append, List.filterMap_cons_none hopen, List.filterMap_append,
      List.filterMap_append, hmeasuring, hclose, List.nil_append, List.append_nil, ← hwrites writes]
    cases r <;> simp [Except.map]

theorem PatternErase.run_transcribes {size : Nat} {positive : 0 < size}
    (hmax : size ≤ EraseTarget.maxBlock) :
    Transcribes Transcribed.mk
      (PatternErase.run (v.eraseTarget b.transcribed) size positive .overwrite bytes)
      (PatternErase.run (v.eraseTarget b) size positive .overwrite bytes) []
      (fun report lines => Overwriting v.identity.device .pattern bytes
        (Writes v.settings.erase.patternSeed size) lines (.ok report))
      (fun f lines => Overwriting v.identity.device .pattern bytes
        (Writes v.settings.erase.patternSeed size) lines (.error f)) := by
  refine EraseTarget.overwrite_transcribes .patternFlush
    (fun total => Blocks.run size positive (writeBlock (v.eraseTarget b.transcribed)) 0 total
      (.ofSeed v.settings.erase.patternSeed))
    (fun total => Blocks.run size positive (writeBlock (v.eraseTarget b)) 0 total
      (.ofSeed v.settings.erase.patternSeed)) hmax fun total before => ?_
  refine Transcribes.mono writeBlocks_transcribes ?_ fun _ _ h => h
  rintro _ _ rfl
  exact ⟨_, rfl, .flushed⟩

theorem ZeroErase.run_transcribes (hd : b.devices.CountsWithin) {size : Nat} {positive : 0 < size}
    (hmax : size ≤ EraseTarget.maxBlock) :
    Transcribes Transcribed.mk
      (ZeroErase.run (v.eraseTarget b.transcribed) size positive .overwrite bytes)
      (ZeroErase.run (v.eraseTarget b) size positive .overwrite bytes) []
      (fun report lines => Overwriting v.identity.device .zero bytes
        (Writes v.settings.erase.transferAttempts size) lines (.ok report))
      (fun f lines => Overwriting v.identity.device .zero bytes
        (Writes v.settings.erase.transferAttempts size) lines (.error f)) := by
  refine EraseTarget.overwrite_transcribes (.internal .flushZeros)
    (fun total => Blocks.run size positive (writeBlock (v.eraseTarget b.transcribed)) 0 total ())
    (fun total => Blocks.run size positive (writeBlock (v.eraseTarget b)) 0 total ())
    hmax fun total before => ?_
  refine Transcribes.mono (writeBlocks_transcribes hd hmax) ?_ fun _ _ h => h
  rintro _ _ ⟨blocks, rfl, taken, all⟩
  exact ⟨_, rfl, fun answer => .flushed answer taken all⟩

end

/-- Whatever a device answers, a pattern overwrite hands over its blocks in
order, stops at the first that is not taken whole, and flushes once behind the
last. If the device takes no more than it is given, so does an overwrite with
zeros, which hands over what remains of a block as long as attempts are left.
Both succeed exactly if that one flush does. No block reaches beyond the area. -/
theorem EraseTarget.overwrites_in_order (b : Backends σ η) (v : Volume) (bytes : Option UInt64)
    (s : σ) (hpositive : 0 < v.settings.erase.blockSize.toNat)
    (hmax : v.settings.erase.blockSize.toNat ≤ maxBlock) :
    (∃ lines, (v.eraseTarget b.transcribed).run (.pattern .overwrite bytes) ⟨s, []⟩ =
        ending Transcribed.mk ((v.eraseTarget b).run (.pattern .overwrite bytes) s) lines ∧
      Overwriting v.identity.device .pattern bytes
        (PatternErase.Writes v.settings.erase.patternSeed v.settings.erase.blockSize.toNat) lines
        (outcome ((v.eraseTarget b).run (.pattern .overwrite bytes) s)) ∧
      ((∃ report, outcome ((v.eraseTarget b).run (.pattern .overwrite bytes) s) = .ok report) ↔
        lines.filterMap Line.flush? = [.ok ()])) ∧
    (b.devices.CountsWithin →
      ∃ lines, (v.eraseTarget b.transcribed).run (.zero .overwrite bytes) ⟨s, []⟩ =
          ending Transcribed.mk ((v.eraseTarget b).run (.zero .overwrite bytes) s) lines ∧
        Overwriting v.identity.device .zero bytes
          (ZeroErase.Writes v.settings.erase.transferAttempts v.settings.erase.blockSize.toNat)
          lines (outcome ((v.eraseTarget b).run (.zero .overwrite bytes) s)) ∧
        ((∃ report, outcome ((v.eraseTarget b).run (.zero .overwrite bytes) s) = .ok report) ↔
          lines.filterMap Line.flush? = [.ok ()])) ∧
    ∀ (total : UInt64) i, i * v.settings.erase.blockSize.toNat < total.toNat →
      0 < lengthAt v.settings.erase.blockSize.toNat total.toNat i ∧
      i * v.settings.erase.blockSize.toNat +
        lengthAt v.settings.erase.blockSize.toNat total.toNat i ≤ total.toNat := by
  have positive : ∀ {τ : Type} (b : Backends τ η),
      0 < (v.eraseTarget b).settings.blockSize.toNat := fun _ => hpositive
  rw [run_eq (positive b), run_eq (positive b.transcribed), run_eq (positive b),
    run_eq (positive b.transcribed)]
  refine ⟨?_, fun hd => ?_, fun total i more => fits more hpositive⟩
  · obtain ⟨lines, hlines, hwriting⟩ := (PatternErase.run_transcribes hmax).runs s
    exact ⟨lines, hlines, hwriting, hwriting.ok_iff PatternErase.Writes.ok_iff⟩
  · obtain ⟨lines, hlines, hwriting⟩ := (ZeroErase.run_transcribes hd hmax).runs s
    exact ⟨lines, hlines, hwriting, hwriting.ok_iff ZeroErase.Writes.ok_iff⟩

theorem Memory.Bench.onDisk_countsWithin : Bench.onDisk.devices.CountsWithin := by
  rintro bytes ⟨w, e⟩ moved t' hwrite
  have hends : Triple (Bench.onDisk.devices.write bytes) (w, e) (fun moved _ => moved ≤ bytes.size)
      (fun _ _ => True) := by
    refine Bench.onDevice_triple (Triple.mono Disk.write_triple ?_ fun _ _ _ => trivial)
    rintro moved _ ⟨-, rfl, -⟩
    have hle := @Disk.transferLength_le w.device bytes.size e.position
    omega
  exact hends.ok hwrite

/-- Overwrites of a disk with blocks of the default size. -/
theorem EraseTarget.overwrites_in_order_sample :
    Bench.onDisk.devices.CountsWithin ∧
    ∃ lines, (sample.volume.eraseTarget Bench.onDisk.transcribed).run (.zero .overwrite none)
        ⟨sample.world, []⟩ = ending Transcribed.mk
          ((sample.volume.eraseTarget Bench.onDisk).run (.zero .overwrite none) sample.world)
          lines ∧
      Overwriting sample.volume.identity.device .zero none
        (ZeroErase.Writes sample.volume.settings.erase.transferAttempts
          sample.volume.settings.erase.blockSize.toNat) lines
        (outcome ((sample.volume.eraseTarget Bench.onDisk).run (.zero .overwrite none)
          sample.world)) := by
  obtain ⟨-, hzeros, -⟩ := overwrites_in_order Bench.onDisk sample.volume none sample.world
    (by decide) (by decide)
  obtain ⟨lines, hrun, hwriting, -⟩ := hzeros Bench.onDisk_countsWithin
  exact ⟨Bench.onDisk_countsWithin, lines, hrun, hwriting⟩

/-- No memory holds a block of every size there is. -/
theorem EraseTarget.not_overwrites_in_order_every_size :
    ¬ ∀ (v : Volume) (bytes : Option UInt64) (w : Bench Disk),
      0 < v.settings.erase.blockSize.toNat →
      ∃ lines, (v.eraseTarget Bench.onDisk.transcribed).run (.pattern .overwrite bytes) ⟨w, []⟩ =
          ending Transcribed.mk ((v.eraseTarget Bench.onDisk).run (.pattern .overwrite bytes) w)
            lines ∧
        Overwriting v.identity.device .pattern bytes
          (PatternErase.Writes v.settings.erase.patternSeed v.settings.erase.blockSize.toNat) lines
          (outcome ((v.eraseTarget Bench.onDisk).run (.pattern .overwrite bytes) w)) := by
  intro h
  obtain ⟨lines, -, hwriting⟩ := h
    { sample.volume with settings := { erase := { blockSize := 0x8000000000000000 } } } (some 5)
    sample.world (by decide)
  have hfault : ∃ n, outcome (((
      { sample.volume with settings := { erase := { blockSize := 0x8000000000000000 } } } :
      Volume).eraseTarget Bench.onDisk).run (.pattern .overwrite (some 5)) sample.world) =
      .error (.blockTooLarge n) := ⟨_, rfl⟩
  obtain ⟨n, hfault⟩ := hfault
  rw [hfault] at hwriting
  generalize hr : (Except.error (.blockTooLarge n) : Except Fault EraseReport) = r at hwriting
  cases hwriting with
  | refused cause => cases hr
  | unmeasured cause whole => cases hr
  | written asked writes =>
    cases writes with
    | failed cause more => cases hr
    | short moved more short => cases hr
    | flushed answer => cases answer <;> cases hr

end EmmcVault
