import EmmcVault.Proofs.DeviceEnd

/-!
# How many transfers a block of zeros takes

A disk that moves at most so many octets at a time, and nothing at all a number
of times at first, still takes or gives a whole block if enough transfers are
allowed for one. Each transfer, whether it moves something or not, brings the
block one transfer closer to its end. Stalls fall to the first block alone, and
no block is longer than the first, so the first one decides.
-/

namespace EmmcVault

open Memory

namespace Memory.Disk

/-- The device at `path`, which moves something unless it stalls, and fails
nothing. -/
structure Willing (d : Disk) (path : Path) : Prop where
  found : path.key = d.path.key
  moving : d.maxTransfer ≠ some 0
  sized : d.failSize = false
  flushed : d.failSync = false

/-- Transfers that it takes to move `length` octets when none stalls. -/
def transfers (cap : Option Nat) (length : Nat) : Nat :=
  match cap with
  | none => 1
  | some cap => (length + cap - 1) / cap

/-- Transfers that it takes to move `length` octets. -/
def needed (d : Disk) (length : Nat) : Nat :=
  if length = 0 then 0 else d.stalls + transfers d.maxTransfer length

section
variable {d : Disk} {length rest position attempts : Nat}

theorem transfers_mono {cap : Option Nat} (h : rest ≤ length) :
    transfers cap rest ≤ transfers cap length := by
  cases cap with
  | none => exact Nat.le_refl 1
  | some cap => exact Nat.div_le_div_right (by omega)

theorem needed_le_iff :
    d.needed length ≤ attempts ↔
      length = 0 ∨ d.stalls + transfers d.maxTransfer length ≤ attempts := by
  unfold needed
  split
  · simp [*]
  · simp [*]

theorem transfers_last {cap : Nat} (hcap : 0 < cap) (hrest : 0 < rest) (h : rest ≤ cap) :
    transfers (some cap) rest = 1 :=
  (Nat.div_eq_iff hcap).mpr ⟨by omega, by omega⟩

theorem transfers_next {cap : Nat} (hcap : 0 < cap) (h : cap < rest) :
    transfers (some cap) rest = transfers (some cap) (rest - cap) + 1 := by
  have hsplit : rest + cap - 1 = rest - cap + cap - 1 + cap := by omega
  rw [transfers, hsplit, Nat.add_div_right _ hcap, transfers]

theorem needed_pos (hrest : 0 < rest) :
    d.needed rest = d.stalls + transfers d.maxTransfer rest :=
  if_neg (Nat.pos_iff_ne_zero.mp hrest)

theorem transferLength_uncapped (hstalled : ¬ 0 < d.stalls) (hmax : d.maxTransfer = none)
    (hfit : position + rest ≤ d.data.size) : d.transferLength rest position = rest := by
  rw [Disk.transferLength, if_neg hstalled]
  simp only [hmax]
  omega

theorem transferLength_capped {cap : Nat} (hstalled : ¬ 0 < d.stalls)
    (hmax : d.maxTransfer = some cap) (hfit : position + rest ≤ d.data.size) :
    d.transferLength rest position = min rest cap := by
  rw [Disk.transferLength, if_neg hstalled]
  simp only [hmax]
  omega

/-- A transfer takes the rest one transfer closer to its end. -/
theorem needed_step (rest position : Nat) (hmoving : d.maxTransfer ≠ some 0) (hrest : 0 < rest)
    (hfit : position + rest ≤ d.data.size) :
    d.needed rest = d.afterTransfer.needed (rest - d.transferLength rest position) + 1 := by
  have hcap : d.afterTransfer.maxTransfer = d.maxTransfer := rfl
  have hstalls : d.afterTransfer.stalls = d.stalls - 1 := rfl
  by_cases hstalled : 0 < d.stalls
  · have hmoved : d.transferLength rest position = 0 := if_pos hstalled
    rw [hmoved, Nat.sub_zero, needed_pos hrest, needed_pos hrest, hcap, hstalls]
    omega
  have hnone : d.stalls = 0 := Nat.eq_zero_of_not_pos hstalled
  rw [needed_pos hrest, hnone, Nat.zero_add]
  cases hmax : d.maxTransfer with
  | none =>
    rw [transferLength_uncapped hstalled hmax hfit, Nat.sub_self]
    rfl
  | some cap =>
    have hpos : 0 < cap := by
      refine Nat.pos_of_ne_zero ?_
      rintro rfl
      exact hmoving hmax
    rw [transferLength_capped hstalled hmax hfit]
    by_cases hlast : rest ≤ cap
    · rw [transfers_last hpos hrest hlast, Nat.min_eq_left hlast, Nat.sub_self]
      rfl
    · have hmore : cap < rest := Nat.lt_of_not_le hlast
      rw [transfers_next hpos hmore, Nat.min_eq_right (Nat.le_of_lt hmore),
        needed_pos (Nat.sub_pos_of_lt hmore), hcap, hmax, hstalls, hnone]
      omega

/-- What is moved is not held up by stalls. -/
theorem stalls_of_moved (h : 0 < d.transferLength rest position) : d.stalls = 0 := by
  unfold Disk.transferLength at h
  split at h
  · exact absurd h (Nat.lt_irrefl 0)
  · exact Nat.eq_zero_of_not_pos ‹_›

end

/-- An open disk at `k`, willing, and in size and cap like `d`. -/
structure Ready (d : Disk) (path : Path) (mode : OpenMode) (k : Nat)
    (u : Bench Disk × DiskHandle) : Prop where
  handle : u.2 = ⟨mode, k⟩
  willing : u.1.device.Willing path
  capped : u.1.device.maxTransfer = d.maxTransfer
  size : u.1.device.data.size = d.data.size
  within : k ≤ d.data.size

/-- A transfer of `m` octets took place on the open disk. -/
structure Moved (m : Nat) (u u' : Bench Disk × DiskHandle) (requested : Nat) : Prop where
  count : m = u.1.device.transferLength requested u.2.position
  stalls : u'.1.device.stalls = u.1.device.stalls - 1

section
variable {d : Disk} {path : Path} {mode : OpenMode} {k : Nat} {u : Bench Disk × DiskHandle}

theorem Ready.write {block : ByteArray} (h : Ready d path .write k u) :
    Triple (Bench.onDisk.devices.write block) u
      (fun m u' => Moved m u u' block.size ∧ Ready d path .write (k + m) u')
      (fun _ _ => False) := by
  obtain ⟨w, e⟩ := u
  obtain ⟨rfl, hwilling, hcapped, hsize, hwithin⟩ := h
  dsimp only at hwilling hcapped hsize
  refine Bench.onDevice_triple (Triple.mono Disk.write_triple ?_ ?_)
  · rintro m _ ⟨-, hm, rfl⟩
    have hmoved := @transferLength_le w.device block.size k
    rw [← hm] at hmoved ⊢
    refine ⟨⟨hm, rfl⟩, rfl, ⟨hwilling.found, hwilling.moving, hwilling.sized, hwilling.flushed⟩,
      hcapped, ?_, by omega⟩
    refine (Buffer.overlay_size ?_).trans hsize
    rw [ByteArray.size_extract]
    dsimp only
    omega
  · rintro cause _ ⟨hmode, -⟩
    cases hmode

theorem Ready.read {requested : Nat} (h : Ready d path .read k u) :
    Triple (Bench.onDisk.devices.read requested) u
      (fun r u' => Moved r.count u u' requested ∧ Ready d path .read (k + r.count) u' ∧
        r.bytes.data.toList = (u.1.device.contents.drop k).take r.count ∧
        u'.1.device.contents = u.1.device.contents)
      (fun _ _ => False) := by
  obtain ⟨w, e⟩ := u
  obtain ⟨rfl, hwilling, hcapped, hsize, hwithin⟩ := h
  dsimp only at hwilling hcapped hsize
  refine Bench.onDevice_triple (Triple.mono Disk.read_triple ?_ ?_)
  · rintro _ _ ⟨-, rfl, rfl⟩
    have hmoved := @transferLength_le w.device requested k
    refine ⟨⟨rfl, rfl⟩, ⟨rfl, ⟨hwilling.found, hwilling.moving, hwilling.sized, hwilling.flushed⟩,
      hcapped, hsize, by dsimp only; omega⟩, ?_, rfl⟩
    simp [Disk.contents, List.extract_eq_take_drop]
  · rintro cause _ ⟨hmode, -⟩
    cases hmode

end

end Memory.Disk

open Memory.Disk

namespace ZeroErase

-- ---------------------------------------------------------------------------
-- Blocks
-- ---------------------------------------------------------------------------

/-- The attempts are enough for an area of `total` octets in blocks of `size`:
they are enough for the first block. -/
def Affords (d : Disk) (size total attempts : Nat) : Prop :=
  d.needed (min size total) ≤ attempts

/-- An open disk at the start of a block. The attempts are enough for this block
exactly if they are enough for all; after the first block nothing stalls. -/
structure Started (d : Disk) (path : Path) (mode : OpenMode) (size total attempts k : Nat)
    (u : Bench Disk × DiskHandle) : Prop where
  ready : Ready d path mode k u
  enough : Affords d size total attempts ↔ u.1.device.needed (min size (total - k)) ≤ attempts
  unstalled : 0 < k → u.1.device.stalls = 0

section
variable {d : Disk} {path : Path} {mode : OpenMode} {size total offset : Nat} {attempts : UInt32}
  {u : Bench Disk × DiskHandle}

/-- The next block starts where this one ended. -/
theorem Started.next (h : Ready d path mode offset u) (hpositive : 0 < min size total)
    (henough : Affords d size total attempts.toNat) (hunstalled : u.1.device.stalls = 0) :
    Started d path mode size total attempts.toNat offset u := by
  refine ⟨h, ⟨fun _ => ?_, fun _ => henough⟩, fun _ => hunstalled⟩
  rw [needed_le_iff, hunstalled, h.capped, Nat.zero_add]
  rw [Affords, needed_le_iff] at henough
  rcases henough with hnone | henough
  · omega
  · refine .inr (Nat.le_trans (transfers_mono ?_) (Nat.le_trans (Nat.le_add_left _ _) henough))
    omega

/-- A block whose transfers move what they can is moved whole if the attempts
are enough, and stalls otherwise. `P` is what is known of the block so far. -/
theorem Started.transfer {direction : Direction} {buffer : ByteArray}
    {step : Nat → ByteArray → Call (Bench Disk × DiskHandle) (Nat × ByteArray)}
    (P : Nat → ByteArray → Bench Disk × DiskHandle → Prop)
    (hstep : ∀ done buffer u, done < min size (total - offset) → P done buffer u →
      Ready d path mode (offset + done) u →
      Triple (step done buffer) u (fun r u' => Moved r.1 u u' (min size (total - offset) - done) ∧
        Ready d path mode (offset + (done + r.1)) u' ∧ P (done + r.1) r.2 u') (fun _ _ => False))
    (hmax : size ≤ EraseTarget.maxBlock) (hlt : offset < total) (hpositive : 0 < size)
    (hfit : total ≤ d.data.size) (hbuffer : P 0 buffer u)
    (h : Started d path mode size total attempts.toNat offset u) :
    Triple (ZeroErase.transfer direction offset (min size (total - offset)) attempts step
        attempts.toNat 0 buffer) u
      (fun buffer u => Started d path mode size total attempts.toNat
        (offset + min size (total - offset)) u ∧ P (min size (total - offset)) buffer u)
      (fun f _ => ¬ Affords d size total attempts.toNat ∧ ∃ done,
        f = .zerosStalled direction offset done (min size (total - offset)) attempts) := by
  have hcount : EraseTarget.maxBlock ≤ ZeroErase.maxCount := by decide
  -- the attempts left do for the rest of the block exactly if all of them do for the first block
  refine Triple.mono (Triple.transfer (fun left done buffer u =>
    Ready d path mode (offset + done) u ∧ P done buffer u ∧
      (Affords d size total attempts.toNat ↔
        u.1.device.needed (min size (total - offset) - done) ≤ left) ∧
      (0 < done → u.1.device.stalls = 0)) ?_ ?_ ?_ (Nat.zero_le _)
    ⟨h.ready, hbuffer, h.enough, fun h => absurd h (Nat.lt_irrefl 0)⟩) ?_ fun _ _ h => h
  · rintro left done buffer u hdone ⟨hready, hP, henough, hunstalled⟩
    refine Triple.mono (hstep done buffer u hdone hP hready) ?_ fun _ _ h => h.elim
    rintro r u' ⟨hmoved, hready', hP'⟩
    have hcounted : r.1 = u.1.device.transferLength (min size (total - offset) - done)
        (offset + done) := by
      rw [hmoved.count, hready.handle]
    have hle := @transferLength_le u.1.device (min size (total - offset) - done) (offset + done)
    have hone := needed_step (min size (total - offset) - done) (offset + done)
      hready.willing.moving (by omega) (by rw [hready.size]; omega)
    have hafter : u'.1.device.needed (min size (total - offset) - (done + r.1)) =
        u.1.device.afterTransfer.needed (min size (total - offset) - done - r.1) := by
      simp only [needed, hmoved.stalls, hready'.capped, afterTransfer, hready.capped, Nat.sub_sub]
    rw [← hcounted, ← hafter] at hone
    refine ⟨by omega, hready', hP', ?_, fun _ => ?_⟩
    · rw [henough, hone, Nat.add_le_add_iff_right]
    · -- the first octet moved shows that the stalls are over, or an earlier one did
      rw [hmoved.stalls]
      by_cases hzero : r.1 = 0
      · rw [hunstalled (by omega)]
      · rw [stalls_of_moved (hcounted ▸ Nat.pos_of_ne_zero hzero)]
  · rintro done buffer u hdone ⟨hready, -, henough, -⟩
    refine ⟨?_, done, rfl⟩
    have hone := needed_step (min size (total - offset) - done) (offset + done)
      hready.willing.moving (by omega) (by rw [hready.size]; omega)
    rw [henough, hone]
    exact Nat.not_succ_le_zero _
  · intro left done buffer u hover hle
    omega
  · rintro buffer u ⟨left, hready, hP, henough, hunstalled⟩
    refine ⟨.next hready (by omega) ?_ (hunstalled (by omega)), hP⟩
    rw [henough, Nat.sub_self]
    exact Nat.zero_le left

end

/-- The first of the first `n` octets that is not zero is octet `k`. -/
structure FirstNonzero (contents : List UInt8) (n k : Nat) : Prop where
  lt : k < n
  ne : contents[k]? ≠ some 0
  before : contents.take k = zeroOctets k

theorem FirstNonzero.take_ne {contents : List UInt8} {n k : Nat}
    (h : FirstNonzero contents n k) : contents.take n ≠ zeroOctets n := by
  intro htake
  have hoctet := List.getElem?_take_of_lt (l := contents) h.lt
  rw [htake, zeroOctets, List.getElem?_replicate_of_lt h.lt] at hoctet
  exact h.ne hoctet.symm

/-- The attempts were not enough for a block. -/
def Stalls (f : Fault) : Prop :=
  ∃ direction offset done length attempts, f = .zerosStalled direction offset done length attempts

section
variable {v : Volume} {d : Disk} {path : Path} {size total offset : Nat}
  {u : Bench Disk × DiskHandle} {all : List UInt8}

theorem writeBlock_within (hmax : size ≤ EraseTarget.maxBlock) (hlt : offset < total)
    (hpositive : 0 < size) (hfit : total ≤ d.data.size)
    (h : Started d path .write size total v.settings.erase.transferAttempts.toNat offset u) :
    Triple (writeBlock (v.eraseTarget Bench.onDisk) offset (min size (total - offset)) ()) u
      (fun _ => Started d path .write size total v.settings.erase.transferAttempts.toNat
        (offset + min size (total - offset)))
      (fun f _ => ¬ Affords d size total v.settings.erase.transferAttempts.toNat ∧ Stalls f) := by
  unfold writeBlock
  refine Triple.bind (Triple.mono (h.transfer (fun _ buffer _ =>
    buffer.size = min size (total - offset)) ?_ hmax hlt hpositive hfit Array.size_replicate)
    (fun _ _ h => h) ?_) fun _ _ h => Triple.pure h.1
  · intro done buffer u hdone hbuffer hready
    refine Triple.bind (Triple.mono hready.write (fun _ _ h => h) fun _ _ h => h) ?_
    rintro m u' ⟨hmoved, hready'⟩
    rw [ByteArray.size_extract, hbuffer, Nat.min_self] at hmoved
    rw [Nat.add_assoc] at hready'
    exact Triple.pure ⟨⟨hmoved.count, hmoved.stalls⟩, hready', hbuffer⟩
  · rintro f _ ⟨henough, done, rfl⟩
    exact ⟨henough, _, _, _, _, _, rfl⟩

/-- The first `done` octets of a block of `length` octets were read. -/
def Gathered (all : List UInt8) (offset length done : Nat) (buffer : ByteArray)
    (u : Bench Disk × DiskHandle) : Prop :=
  u.1.device.contents = all ∧
    buffer.data.toList = (all.drop offset).take done ++ List.replicate (length - done) 0

theorem Gathered.read {length done : Nat} {buffer : ByteArray} (hall : all.length = d.data.size)
    (h : Gathered all offset length done buffer u)
    (hready : Ready d path .read (offset + done) u) :
    Triple (readRest (v.eraseTarget Bench.onDisk) length done buffer) u
      (fun r u' => Moved r.1 u u' (length - done) ∧
        Ready d path .read (offset + (done + r.1)) u' ∧
        Gathered all offset length (done + r.1) r.2 u')
      (fun _ _ => False) := by
  obtain ⟨rfl, hbuffer⟩ := h
  refine Triple.bind (Triple.mono hready.read (fun _ _ h => h) fun _ _ h => h) ?_
  rintro ⟨m, bytes⟩ u' ⟨hmoved, hready', hbytes, hcontents⟩
  dsimp only at hmoved hready' hbytes ⊢
  rw [Nat.add_assoc] at hready'
  have hwithin := hready'.within
  have hsize : bytes.size = m := by
    have hlength := congrArg List.length hbytes
    rw [List.length_take, List.length_drop, hall] at hlength
    have htotal : bytes.data.toList.length = bytes.size := rfl
    omega
  refine Triple.pure ⟨⟨hmoved.count, hmoved.stalls⟩, hready', hcontents, ?_⟩
  have hfront : ((u.1.device.contents.drop offset).take done).length = done := by
    rw [List.length_take, List.length_drop, hall]
    omega
  have hrest : ((u.1.device.contents.drop offset).take done ++
      List.replicate (length - done) 0).drop (done + m) =
      List.replicate (length - (done + m)) 0 := by
    have hshort : ((u.1.device.contents.drop offset).take done).length ≤ done + m := by omega
    rw [List.drop_append, List.drop_eq_nil_of_le hshort, hfront, List.nil_append,
      List.drop_replicate]
    congr 1
    omega
  dsimp only
  rw [Buffer.overlay_toList, hbuffer, hsize, hbytes, List.take_left' hfront, hrest, List.take_add,
    List.drop_drop]

theorem checkBlock_within (hmax : size ≤ EraseTarget.maxBlock) (hlt : offset < total)
    (hpositive : 0 < size) (hfit : total ≤ d.data.size)
    (hall : all.length = d.data.size) (hcontents : u.1.device.contents = all)
    (hzeros : all.take offset = zeroOctets offset)
    (h : Started d path .read size total v.settings.erase.transferAttempts.toNat offset u) :
    Triple (checkBlock (v.eraseTarget Bench.onDisk) offset (min size (total - offset)) ()) u
      (fun _ u => Started d path .read size total v.settings.erase.transferAttempts.toNat
          (offset + min size (total - offset)) u ∧ u.1.device.contents = all ∧
        all.take (offset + min size (total - offset)) =
          zeroOctets (offset + min size (total - offset)))
      (fun f _ => ¬ Affords d size total v.settings.erase.transferAttempts.toNat ∧ Stalls f ∨
        ∃ k, f = .nonzero k ∧ FirstNonzero all total k) := by
  unfold checkBlock
  refine Triple.bind (Triple.mono (h.transfer (Gathered all offset (min size (total - offset)))
    (fun _ _ _ _ hP hready => hP.read hall hready) hmax hlt hpositive hfit
    ⟨hcontents, Buffer.zeros_toList⟩) (fun _ _ h => h) ?_) ?_
  · rintro f _ ⟨henough, done, rfl⟩
    exact .inl ⟨henough, _, _, _, _, _, rfl⟩
  rintro block u' ⟨hstarted, hcontents', hblock⟩
  rw [Nat.sub_self, List.replicate_zero, List.append_nil] at hblock
  have hsize : block.size = min size (total - offset) := by
    have hlength := congrArg List.length hblock
    rw [List.length_take, List.length_drop, hall] at hlength
    have htotal : block.data.toList.length = block.size := rfl
    omega
  have hfront : ∀ {m}, zeroOctets offset ++ List.replicate m 0 = zeroOctets (offset + m) :=
    List.replicate_append_replicate
  split
  · rename_i position hfirst
    obtain ⟨hposition, hne, htake⟩ := Buffer.of_firstNonzero? hfirst
    rw [hblock] at hne htake
    rw [hsize] at hposition
    refine Triple.throw (.inr ⟨_, rfl, by omega, ?_, ?_⟩)
    · rw [List.getElem?_take_of_lt hposition, List.getElem?_drop] at hne
      exact hne
    · rw [List.take_take, Nat.min_eq_left (Nat.le_of_lt hposition)] at htake
      rw [List.take_add, hzeros, htake, hfront]
  · rename_i hnone
    have hall' := Buffer.eq_of_firstNonzero? hnone
    rw [hblock, hsize] at hall'
    refine Triple.pure ⟨hstarted, hcontents', ?_⟩
    rw [List.take_add, hzeros, hall', hfront]

theorem writeBlocks_within {positive : 0 < size} (hmax : size ≤ EraseTarget.maxBlock)
    (hfit : total ≤ d.data.size)
    (h : Started d path .write size total v.settings.erase.transferAttempts.toNat 0 u) :
    Triple (Blocks.run size positive (writeBlock (v.eraseTarget Bench.onDisk)) 0 total ()) u
      (fun _ => Started d path .write size total v.settings.erase.transferAttempts.toNat total)
      (fun f _ => ¬ Affords d size total v.settings.erase.transferAttempts.toNat ∧ Stalls f) := by
  refine Triple.blocks (fun offset _ u => Started d path .write size total
    v.settings.erase.transferAttempts.toNat offset u) ?_ (Nat.zero_add total) h
  intro offset _ u hlt hu
  exact writeBlock_within hmax hlt positive hfit hu

theorem checkBlocks_within {positive : 0 < size} (hmax : size ≤ EraseTarget.maxBlock)
    (hfit : total ≤ d.data.size) (hall : all.length = d.data.size)
    (hcontents : u.1.device.contents = all)
    (h : Started d path .read size total v.settings.erase.transferAttempts.toNat 0 u) :
    Triple (Blocks.run size positive (checkBlock (v.eraseTarget Bench.onDisk)) 0 total ()) u
      (fun _ u => Started d path .read size total v.settings.erase.transferAttempts.toNat total u ∧
        u.1.device.contents = all ∧ all.take total = zeroOctets total)
      (fun f _ => ¬ Affords d size total v.settings.erase.transferAttempts.toNat ∧ Stalls f ∨
        ∃ k, f = .nonzero k ∧ FirstNonzero all total k) := by
  refine Triple.blocks (fun offset _ u => Started d path .read size total
    v.settings.erase.transferAttempts.toNat offset u ∧ u.1.device.contents = all ∧
      all.take offset = zeroOctets offset) ?_ (Nat.zero_add total) ⟨h, hcontents, rfl⟩
  rintro offset _ u hlt ⟨hu, hcontents, hzeros⟩
  exact checkBlock_within hmax hlt positive hfit hall hcontents hzeros hu

end

-- ---------------------------------------------------------------------------
-- Passes
-- ---------------------------------------------------------------------------

open PatternErase (Covers)

section
variable {v : Volume} {bytes : Option UInt64} {n : UInt64} {w : Bench Disk}

/-- How a pass over the first `n` octets of a willing disk ends. -/
theorem run_within (pass : ErasePass) (hpositive : 0 < v.settings.erase.blockSize.toNat)
    (hmax : v.settings.erase.blockSize.toNat ≤ EraseTarget.maxBlock)
    (hwilling : w.device.Willing v.identity.device) (hcovers : Covers bytes w.device.data.size n) :
    let affords := Affords w.device v.settings.erase.blockSize.toNat n.toNat
      v.settings.erase.transferAttempts.toNat
    Triple ((v.eraseTarget Bench.onDisk).run (.zero pass bytes)) w
      (fun r _ => r = ⟨.zero, n⟩ ∧ affords ∧
        (pass = .verify → w.device.contents.take n.toNat = zeroOctets n.toNat))
      (fun f _ => ¬ affords ∧ Stalls f ∨
        pass = .verify ∧ ∃ k, f = .nonzero k ∧ FirstNonzero w.device.contents n.toNat k) := by
  intro affords
  rw [EraseTarget.run_eq hpositive]
  have hdone : ∀ {mode u}, Started w.device v.identity.device mode
      v.settings.erase.blockSize.toNat n.toNat v.settings.erase.transferAttempts.toNat
      n.toNat u → affords := by
    intro mode u h
    refine h.enough.mpr ?_
    rw [Nat.sub_self, Nat.min_zero]
    exact Nat.zero_le _
  refine Triple.withHandle (J := fun u => Started w.device v.identity.device
    (EraseTarget.passMode pass) v.settings.erase.blockSize.toNat n.toNat
    v.settings.erase.transferAttempts.toNat 0 u ∧ u.1.device.data = w.device.data) ?_ ?_
  · refine Bench.openHandle_triple (Triple.mono Disk.openHandle_triple ?_ ?_)
    · rintro e _ ⟨-, rfl, rfl⟩
      exact ⟨⟨⟨rfl, ⟨hwilling.found, hwilling.moving, hwilling.sized, hwilling.flushed⟩, rfl, rfl,
        Nat.zero_le _⟩, Iff.rfl, fun h => absurd h (Nat.lt_irrefl 0)⟩, rfl⟩
    · rintro cause _ ⟨hpath, -⟩
      exact (hpath hwilling.found).elim
  rintro u ⟨hstarted, hdata⟩
  refine Triple.bind (Triple.mono (PatternErase.length_triple rfl hstarted.ready.willing.sized
    (hdata ▸ hcovers)) (fun _ _ h => h) fun _ _ h => h.elim) ?_
  rintro total u ⟨rfl, rfl⟩
  refine Triple.bind (PatternErase.requireBlock_triple hmax) ?_
  rintro _ u rfl
  cases pass with
  | overwrite =>
    refine Triple.bind (Triple.mono (writeBlocks_within hmax hcovers.le hstarted)
      (fun _ _ h => h) fun _ _ h => .inl h) ?_
    rintro _ ⟨w', h⟩ hu
    refine Triple.bind (R := fun _ _ => True) (Triple.orFault ?_) fun _ _ _ =>
      Triple.pure ⟨rfl, hdone hu, nofun⟩
    refine Bench.onDevice_triple (Triple.mono Disk.sync_triple (fun _ _ _ => trivial) ?_)
    rintro cause _ ⟨hfail, -⟩
    rw [hu.ready.willing.flushed] at hfail
    cases hfail
  | verify =>
    have hcontents : u.1.device.contents = w.device.contents := by
      rw [Disk.contents, hdata]
      rfl
    refine Triple.bind (Triple.mono (checkBlocks_within hmax hcovers.le rfl hcontents hstarted)
      (fun _ _ h => h) fun _ _ h => h.imp_right fun h => ⟨rfl, h⟩) ?_
    rintro _ u ⟨hu, -, hzeros⟩
    exact Triple.pure ⟨rfl, hdone hu, fun _ => hzeros⟩

/-- What an overwrite that succeeds makes of the disk. -/
theorem run_overwrites :
    Triple ((v.eraseTarget Bench.onDisk).run (.zero .overwrite bytes)) w
      (fun _ w' => Overwritten zeroOctets (w.device.target bytes).toNat w.device w'.device)
      (fun _ _ => True) := by
  unfold EraseTarget.run
  split
  · refine Triple.mono (EraseTarget.withDevice_reached growing_zeroOctets fun u hu =>
      EraseTarget.blocks_reached hu fun _ _ => ZeroErase.writeBlocks_progress) ?_
      fun _ _ _ => trivial
    exact fun _ _ h => h.2
  · exact Triple.throw trivial

end

theorem affords_iff {d : Disk} {size total attempts : Nat} (hpositive : 0 < size) :
    Affords d size total attempts ↔
      total = 0 ∨ d.stalls + transfers d.maxTransfer (min size total) ≤ attempts := by
  have hnone : min size total = 0 ↔ total = 0 := by omega
  rw [Affords, needed_le_iff, hnone]

theorem Stalls.kind {f : Fault} (h : Stalls f) :
    f.kind = .internalFailure ∧ f.exceedsMachine = false := by
  obtain ⟨_, _, _, _, _, rfl⟩ := h
  exact ⟨rfl, rfl⟩

/-- Passes over the first `n` octets of a disk that stalls a number of times and
then moves as much as its cap allows. The attempts for a block must do for the
stalls and for the transfers of the first block. Then an overwrite succeeds and
writes zeros over these octets, and a verification finds the first octet that
is not zero. A pass over more octets than there are never succeeds. -/
theorem succeeds_within_attempts {v : Volume} {bytes : Option UInt64} {n : UInt64}
    {w : Bench Disk} (hpositive : 0 < v.settings.erase.blockSize.toNat)
    (hmax : v.settings.erase.blockSize.toNat ≤ EraseTarget.maxBlock)
    (hwilling : w.device.Willing v.identity.device) (hcovers : Covers bytes w.device.data.size n) :
    let run := (v.eraseTarget Bench.onDisk).run
    let enough := n.toNat = 0 ∨ w.device.stalls + transfers w.device.maxTransfer
      (min v.settings.erase.blockSize.toNat n.toNat) ≤ v.settings.erase.transferAttempts.toNat
    ((∃ r w', run (.zero .overwrite bytes) w = .ok r w') ↔ enough) ∧
    (∀ r w', run (.zero .overwrite bytes) w = .ok r w' → r = ⟨.zero, n⟩ ∧
      w'.device.contents = zeroOctets n.toNat ++ w.device.contents.drop n.toNat) ∧
    (∀ f w', run (.zero .overwrite bytes) w = .error f w' →
      f.kind = .internalFailure ∧ f.exceedsMachine = false) ∧
    (enough →
      ((∃ w', run (.zero .verify bytes) w = .ok ⟨.zero, n⟩ w') ↔
        w.device.contents.take n.toNat = zeroOctets n.toNat) ∧
      (w.device.contents.take n.toNat ≠ zeroOctets n.toNat →
        ∃ k f w', FirstNonzero w.device.contents n.toNat k ∧
          run (.zero .verify bytes) w = .error f w' ∧ f.kind = .internalFailure ∧
          f.message = s!"nonzero byte at offset {k}")) ∧
    ∀ pass m r w', w.device.data.size < m.toNat → run (.zero pass (some m)) w ≠ .ok r w' := by
  intro run enough
  have hoverwrite : Triple (run (.zero .overwrite bytes)) w _ _ :=
    run_within .overwrite hpositive hmax hwilling hcovers
  have hverify : Triple (run (.zero .verify bytes)) w _ _ :=
    run_within .verify hpositive hmax hwilling hcovers
  have henough : Affords w.device _ _ _ ↔ enough := affords_iff hpositive
  refine ⟨⟨?_, fun hen => ?_⟩, fun r w' hrun => ?_, fun f w' hrun => ?_, fun hen => ?_, ?_⟩
  · rintro ⟨r, w', hrun⟩
    exact henough.mp (hoverwrite.ok hrun).2.1
  · obtain ⟨r, w', hrun, -⟩ | ⟨f, w', hrun, ⟨hshort, -⟩ | ⟨hpass, -⟩⟩ := hoverwrite.cases
    · exact ⟨r, w', hrun⟩
    · exact (hshort (henough.mpr hen)).elim
    · cases hpass
  · have hwritten : Overwritten _ _ _ _ := run_overwrites.ok hrun
    rw [hcovers.target_eq] at hwritten
    exact ⟨(hoverwrite.ok hrun).1, hwritten.contents⟩
  · obtain ⟨-, hstalls⟩ | ⟨hpass, -⟩ := hoverwrite.error hrun
    · exact hstalls.kind
    · cases hpass
  · obtain ⟨_, w', hrun, rfl, -, hzeros⟩ | ⟨f, w', hrun, ⟨hshort, -⟩ | ⟨-, k, rfl, hfirst⟩⟩ :=
      hverify.cases
    · exact ⟨⟨fun _ => hzeros rfl, fun _ => ⟨w', hrun⟩⟩, fun hne => (hne (hzeros rfl)).elim⟩
    · exact (hshort (henough.mpr hen)).elim
    · refine ⟨⟨?_, fun hzeros => (hfirst.take_ne hzeros).elim⟩,
        fun _ => ⟨k, _, w', hfirst, hrun, rfl, rfl⟩⟩
      rintro ⟨w'', hok⟩
      rw [hrun] at hok
      cases hok
  · intro pass m r w' hbeyond hrun
    exact (EraseTarget.run_beyond (.inr rfl) hbeyond).ok hrun

/-- Two stalls and a cap of three octets: blocks of eight take five attempts. -/
def reluctant (attempts : UInt32) : Managed (Bench Disk) where
  volume := { sample.volume with settings :=
    { erase := { blockSize := 8, transferAttempts := attempts } } }
  world := { device := { sample.world.device with maxTransfer := some 3, stalls := 2 } }

theorem succeeds_within_attempts_reluctant :
    (∃ r w', ((reluctant 5).volume.eraseTarget Bench.onDisk).run (.zero .overwrite none)
      (reluctant 5).world = .ok r w') ∧
    ¬ ∃ r w', ((reluctant 4).volume.eraseTarget Bench.onDisk).run (.zero .overwrite none)
      (reluctant 4).world = .ok r w' := by
  have hwilling : ∀ attempts, (reluctant attempts).world.device.Willing
      (reluctant attempts).volume.identity.device := fun _ =>
      ⟨rfl, (by decide : some 3 ≠ some 0), rfl, rfl⟩
  have hcovers : ∀ attempts, Covers none (reluctant attempts).world.device.data.size 16 :=
    fun _ => .inr ⟨rfl, rfl⟩
  obtain ⟨hfive, -⟩ := succeeds_within_attempts (v := (reluctant 5).volume) (by decide) (by decide)
    (hwilling 5) (hcovers 5)
  obtain ⟨hfour, -⟩ := succeeds_within_attempts (v := (reluctant 4).volume) (by decide) (by decide)
    (hwilling 4) (hcovers 4)
  exact ⟨hfive.mpr (by decide), fun h => absurd (hfour.mp h) (by decide)⟩

/-- No memory holds a block of every size there is. -/
theorem not_succeeds_with_every_block :
    ¬ ∀ (v : Volume) (bytes : Option UInt64) (n : UInt64) (w : Bench Disk),
      0 < v.settings.erase.blockSize.toNat → w.device.Willing v.identity.device →
      Covers bytes w.device.data.size n →
      (n.toNat = 0 ∨ w.device.stalls + transfers w.device.maxTransfer
        (min v.settings.erase.blockSize.toNat n.toNat) ≤
          v.settings.erase.transferAttempts.toNat) →
      ∃ r w', (v.eraseTarget Bench.onDisk).run (.zero .overwrite bytes) w = .ok r w' := by
  intro h
  obtain ⟨r, w', hrun⟩ := h
    { sample.volume with settings := { erase := { blockSize := 0x8000000000000000 } } } (some 16) 16
    sample.world (by decide) ⟨rfl, by decide, rfl, rfl⟩ (.inl ⟨rfl, by decide⟩) (by decide)
  cases hrun

end ZeroErase

end EmmcVault
