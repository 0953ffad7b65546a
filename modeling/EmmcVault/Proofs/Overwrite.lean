import EmmcVault.Proofs.PatternErase

/-!
# Overwrites that stop anywhere

An overwrite goes through the device from its start. Wherever it stops, after
short transfers, stalls, a failing call or at the end of the device, a front
part of the device holds what was to be written and the rest is as it was: no
octet is left out, misplaced or written beyond what was asked for.
-/

namespace EmmcVault

open Memory Pattern

/-- `expected p` are the first `p` octets of one endless stream. -/
structure Growing (expected : Nat → List UInt8) : Prop where
  length : ∀ p, (expected p).length = p
  take : ∀ {p q}, p ≤ q → (expected q).take p = expected p

namespace Growing

variable {expected : Nat → List UInt8} {k m n : Nat}

theorem append_drop (h : Growing expected) : expected k ++ (expected (k + m)).drop k =
    expected (k + m) := by
  rw [← h.take (Nat.le_add_right k m), List.take_append_drop]

/-- The front of a piece of the stream is the shorter piece. -/
theorem take_drop (h : Growing expected) (hm : m ≤ n) :
    ((expected (k + n)).drop k).take m = (expected (k + m)).drop k := by
  rw [List.take_drop, h.take (Nat.add_le_add_left hm k)]

end Growing

theorem Pattern.growing_stretch {seed : UInt32} : Growing (stretch seed 0) where
  length _ := length_stretch
  take := stretch_take

theorem Pattern.stretch_drop {seed : UInt32} {k n : Nat} :
    (stretch seed 0 (k + n)).drop k = stretch seed k n := by
  have happend := @stretch_append seed 0 k n
  rw [Nat.zero_add] at happend
  rw [← happend, List.drop_left' length_stretch]

/-- `p` zero octets. -/
def zeroOctets (p : Nat) : List UInt8 :=
  List.replicate p 0

theorem growing_zeroOctets : Growing zeroOctets where
  length _ := List.length_replicate
  take h := by rw [zeroOctets, List.take_replicate, Nat.min_eq_left h, zeroOctets]

namespace Memory.Disk

/-- Of the contents of `before`, the first `p` octets were replaced by the
expected ones. -/
structure Overwritten (expected : Nat → List UInt8) (p : Nat) (before after : Disk) : Prop where
  inside : p ≤ before.data.size
  contents : after.contents = expected p ++ before.contents.drop p
  size : after.data.size = before.data.size

/-- Some front part of the first `limit` octets was overwritten. -/
def Reached (expected : Nat → List UInt8) (limit : Nat) (before after : Disk) : Prop :=
  ∃ p, p ≤ limit ∧ Overwritten expected p before after

section
variable {expected : Nat → List UInt8} {before after : Disk} {p : Nat}

theorem Overwritten.of_contents (hg : Growing expected) (hp : p ≤ before.data.size)
    (hc : after.contents = expected p ++ before.contents.drop p) :
    Overwritten expected p before after := by
  refine ⟨hp, hc, ?_⟩
  have hbefore : before.contents.length = before.data.size := rfl
  have hafter : after.contents.length = after.data.size := rfl
  rw [← hafter, hc, List.length_append, hg.length, List.length_drop]
  omega

theorem Overwritten.of_data (hg : Growing expected) (h : after.data = before.data) :
    Overwritten expected 0 before after := by
  refine .of_contents hg (Nat.zero_le _) ?_
  rw [List.eq_nil_of_length_eq_zero (hg.length 0), Disk.contents, h]
  rfl

theorem Overwritten.reached {limit : Nat} (h : Overwritten expected p before after)
    (hp : p ≤ limit) : Reached expected limit before after :=
  ⟨p, hp, h⟩

/-- Only the data of a disk count. -/
theorem Overwritten.same {after' : Disk} (h : Overwritten expected p before after)
    (hd : after'.data = after.data) : Overwritten expected p before after' := by
  refine ⟨h.inside, ?_, ?_⟩
  · rw [Disk.contents, hd]
    exact h.contents
  · rw [hd]
    exact h.size

theorem Reached.same {after' : Disk} {limit : Nat} (h : Reached expected limit before after)
    (hd : after'.data = after.data) : Reached expected limit before after' := by
  obtain ⟨p, hp, hw⟩ := h
  exact ⟨p, hp, hw.same hd⟩

end

theorem transferLength_le {d : Disk} {requested position : Nat} :
    d.transferLength requested position ≤ min requested (d.data.size - position) := by
  unfold Disk.transferLength
  split
  · exact Nat.zero_le _
  · cases d.maxTransfer with
    | none => exact Nat.le_refl _
    | some cap => exact Nat.min_le_left _ _

end Memory.Disk

open Memory.Disk

-- ---------------------------------------------------------------------------
-- Transfers and blocks
-- ---------------------------------------------------------------------------

/-- `k` octets are overwritten and the open device goes on from there. -/
structure Progress (expected : Nat → List UInt8) (before : Disk) (k : Nat)
    (u : Bench Disk × DiskHandle) : Prop where
  handle : u.2 = ⟨.write, k⟩
  written : Overwritten expected k before u.1.device

section
variable {v : Volume} {expected : Nat → List UInt8} {before : Disk} {k n total offset length : Nat}
  {u : Bench Disk × DiskHandle}

/-- A write moves a part of what it is given, and this part lands where the
last one ended. -/
theorem Progress.write {block : ByteArray} (hg : Growing expected)
    (hblock : block.data.toList = (expected (k + n)).drop k) (h : Progress expected before k u) :
    Triple (Bench.onDisk.devices.write block) u
      (fun m u' => m ≤ n ∧ Progress expected before (k + m) u') (fun _ _ => False) := by
  obtain ⟨w, e⟩ := u
  obtain ⟨rfl, hinside, hcontents, hsize⟩ := h
  dsimp only at hcontents hsize
  have hlength : block.size = n := by
    have hlist := congrArg List.length hblock
    rw [List.length_drop, hg.length, Nat.add_sub_cancel_left] at hlist
    exact hlist
  refine Bench.onDevice_triple (Triple.mono Disk.write_triple ?_ ?_)
  · rintro m _ ⟨-, hm, rfl⟩
    dsimp only at hm ⊢
    rw [← hm]
    have hle := @transferLength_le w.device block.size k
    rw [← hm, hlength, hsize] at hle
    have hmn : m ≤ n := by omega
    refine ⟨hmn, rfl, .of_contents hg (by omega) ?_⟩
    -- the part that was moved, between what stood before it and after it
    have hpart : (block.extract 0 m).data.toList = (expected (k + m)).drop k := by
      rw [← hg.take_drop hmn, ← hblock]
      simp [List.extract_eq_take_drop]
    have hpartSize : (block.extract 0 m).size = m := by
      have hlist := congrArg List.length hpart
      rw [List.length_drop, hg.length, Nat.add_sub_cancel_left] at hlist
      exact hlist
    have hdata : w.device.data.data.toList = expected k ++ before.contents.drop k := hcontents
    have hfront : (expected k ++ before.contents.drop k).take k = expected k :=
      List.take_left' (hg.length k)
    have hrest : (expected k ++ before.contents.drop k).drop (k + m) =
        before.contents.drop (k + m) := by
      have hshort : (expected k).length ≤ k + m := by
        rw [hg.length]
        omega
      rw [List.drop_append, List.drop_eq_nil_of_le hshort, hg.length, List.drop_drop,
        List.nil_append]
      congr 1
      omega
    rw [Disk.contents, Buffer.overlay_toList, hdata, hpartSize, hfront, hrest, hpart,
      hg.append_drop]
  · rintro cause _ ⟨hmode, -⟩
    cases hmode

/-- A block of the pattern is written whole or gives the overwrite up. -/
theorem PatternErase.writeBlock_progress {seed : UInt32} {stream : PatternStream}
    (hfit : offset + length ≤ total) (hstream : stream = .after seed offset)
    (h : Progress (stretch seed 0) before offset u) :
    Triple (PatternErase.writeBlock (v.eraseTarget Bench.onDisk) offset length stream) u
      (fun stream u => stream = .after seed (offset + length) ∧
        Progress (stretch seed 0) before (offset + length) u)
      (fun _ u => Reached (stretch seed 0) total before u.1.device) := by
  subst hstream
  obtain ⟨hblock, hrest⟩ := @PatternStream.fill_after seed offset length
  unfold PatternErase.writeBlock
  generalize (PatternStream.after seed offset).fill length = filled at hblock hrest
  obtain ⟨block, rest⟩ := filled
  dsimp only at hblock hrest ⊢
  rw [← stretch_drop] at hblock
  refine Triple.bind (Triple.orFault (Triple.mono (h.write growing_stretch hblock)
    (fun _ _ h => h) fun _ _ h => h.elim)) ?_
  rintro m u' ⟨hm, h'⟩
  split
  · rename_i hwhole
    rw [hwhole] at h'
    exact Triple.pure ⟨hrest, h'⟩
  · exact Triple.throw (h'.written.reached (by omega))

/-- A block of zeros is written whole, in as many transfers as it takes, or
gives the overwrite up. -/
theorem ZeroErase.transfer_progress {attempts : UInt32} {left done : Nat}
    (hfit : offset + length ≤ total) (hdone : done ≤ length)
    (h : Progress zeroOctets before (offset + done) u) :
    Triple (ZeroErase.transfer .write offset length attempts
        (ZeroErase.writeRest (v.eraseTarget Bench.onDisk) length) left done (Buffer.zeros length)) u
      (fun _ u => Progress zeroOctets before (offset + length) u)
      (fun _ u => Reached zeroOctets total before u.1.device) := by
  refine Triple.mono (Triple.transfer (fun _ done buffer u => buffer = Buffer.zeros length ∧
    Progress zeroOctets before (offset + done) u) ?_ ?_ ?_ hdone ⟨rfl, h⟩) ?_ fun _ _ h => h
  · rintro left done _ u hlt ⟨rfl, h⟩
    have hblock : ((Buffer.zeros length).extract done length).data.toList =
        (zeroOctets (offset + done + (length - done))).drop (offset + done) := by
      simp [Buffer.zeros, Buffer.constant, zeroOctets]
    refine Triple.bind (Triple.mono (h.write growing_zeroOctets hblock)
      (fun _ _ h => h) fun _ _ h => h.elim) ?_
    rintro m u' ⟨hm, h'⟩
    rw [Nat.add_assoc] at h'
    exact Triple.pure ⟨by dsimp only; omega, rfl, h'⟩
  · rintro done _ u hlt ⟨-, h⟩
    exact h.written.reached (by omega)
  · rintro left done _ u - hle ⟨-, h⟩
    exact h.written.reached (by omega)
  · rintro _ u ⟨left, -, h⟩
    exact h

theorem PatternErase.writeBlocks_progress {seed : UInt32} {size : Nat} {positive : 0 < size}
    (h : Progress (stretch seed 0) before 0 u) :
    Triple (Blocks.run size positive (PatternErase.writeBlock (v.eraseTarget Bench.onDisk)) 0 total
        (.ofSeed seed)) u
      (fun _ u => Progress (stretch seed 0) before total u)
      (fun _ u => Reached (stretch seed 0) total before u.1.device) := by
  refine Triple.mono (Triple.blocks (fun offset stream u => stream = .after seed offset ∧
    Progress (stretch seed 0) before offset u) ?_ (Nat.zero_add total)
    ⟨PatternStream.after_zero.symm, h⟩) (fun _ _ h => h.2) fun _ _ h => h
  rintro offset stream u hlt ⟨hstream, hprogress⟩
  exact PatternErase.writeBlock_progress (by omega) hstream hprogress

theorem ZeroErase.writeBlocks_progress {size : Nat} {positive : 0 < size}
    (h : Progress zeroOctets before 0 u) :
    Triple (Blocks.run size positive (ZeroErase.writeBlock (v.eraseTarget Bench.onDisk)) 0 total ())
      u (fun _ u => Progress zeroOctets before total u)
      (fun _ u => Reached zeroOctets total before u.1.device) := by
  refine Triple.blocks (fun offset _ u => Progress zeroOctets before offset u) ?_
    (Nat.zero_add total) h
  intro offset _ u hlt hprogress
  refine Triple.bind (ZeroErase.transfer_progress (by omega) (Nat.zero_le _) hprogress) ?_
  intro _ u' h'
  exact Triple.pure h'

end

-- ---------------------------------------------------------------------------
-- Requests
-- ---------------------------------------------------------------------------

/-- How many octets an overwrite of `bytes`, or of the whole device, is to reach. -/
def Memory.Disk.target (d : Disk) (bytes : Option UInt64) : UInt64 :=
  bytes.getD d.data.size.toUInt64

theorem PatternErase.Covers.target_eq {d : Disk} {bytes : Option UInt64} {n : UInt64}
    (h : PatternErase.Covers bytes d.data.size n) : d.target bytes = n := by
  rcases h with ⟨rfl, -⟩ | ⟨rfl, hsize⟩
  · rfl
  · show d.data.size.toUInt64 = n
    rw [← hsize]
    exact UInt64.ofNat_toNat

section
variable {v : Volume} {expected : Nat → List UInt8} {w : Bench Disk} {bytes : Option UInt64}

theorem EraseTarget.length_progress {u : Bench Disk × DiskHandle}
    (h : Progress expected w.device 0 u) :
    Triple ((v.eraseTarget Bench.onDisk).length bytes) u
      (fun n u => n = w.device.target bytes ∧ Progress expected w.device 0 u)
      (fun _ u => Reached expected (w.device.target bytes).toNat w.device u.1.device) := by
  cases bytes with
  | some n => exact Triple.pure ⟨rfl, h⟩
  | none =>
    obtain ⟨w', e⟩ := u
    refine Triple.orFault (Bench.onDevice_triple (Triple.mono Disk.size_triple ?_ ?_))
    · rintro n _ ⟨rfl, rfl⟩
      refine ⟨?_, h⟩
      show w'.device.data.size.toUInt64 = w.device.data.size.toUInt64
      rw [h.written.size]
    · rintro cause _ ⟨-, rfl⟩
      exact h.written.reached (Nat.zero_le _)

/-- On the open device: its length, the blocks, which make progress, and one flush. -/
theorem EraseTarget.blocks_reached {blockSize : Nat} {flush : BackendError → Fault}
    {method : EraseMethod} {α : Type} {blocks : Nat → EStateM Fault (Bench Disk × DiskHandle) α}
    {u : Bench Disk × DiskHandle} (h : Progress expected w.device 0 u)
    (hblocks : ∀ total u, Progress expected w.device 0 u → Triple (blocks total) u
      (fun _ u => Progress expected w.device total u)
      (fun _ u => Reached expected total w.device u.1.device)) :
    Triple (do
        let total ← (v.eraseTarget Bench.onDisk).length bytes
        EraseTarget.requireBlock blockSize
        let _ ← blocks total.toNat
        Call.orFault (v.eraseTarget Bench.onDisk).devices.sync flush
        pure (⟨method, total⟩ : EraseReport)) u
      (fun report u => report = ⟨method, w.device.target bytes⟩ ∧
        Overwritten expected (w.device.target bytes).toNat w.device u.1.device)
      (fun _ u => Reached expected (w.device.target bytes).toNat w.device u.1.device) := by
  refine Triple.bind (EraseTarget.length_progress h) ?_
  rintro total u ⟨rfl, hu⟩
  refine Triple.bind (R := fun _ u => Progress expected w.device 0 u) ?_ ?_
  · unfold EraseTarget.requireBlock
    split
    · exact Triple.pure hu
    · exact Triple.throw (hu.written.reached (Nat.zero_le _))
  intro _ u hu
  refine Triple.bind (hblocks _ u hu) ?_
  rintro _ ⟨w', e⟩ hu
  refine Triple.bind (R := fun _ u => Overwritten expected (w.device.target bytes).toNat w.device
    u.1.device) (Triple.orFault ?_) ?_
  · refine Bench.onDevice_triple (Triple.mono Disk.sync_triple ?_ ?_)
    · rintro _ _ rfl
      exact hu.written.same rfl
    · rintro cause _ ⟨-, rfl⟩
      exact hu.written.reached (Nat.le_refl _)
  intro _ u hu
  exact Triple.pure ⟨rfl, hu⟩

/-- Opening and closing write nothing. -/
theorem EraseTarget.withDevice_reached {α : Type}
    {body : EStateM Fault (Bench Disk × DiskHandle) α} {Q : α → Prop} {p limit : Nat}
    (hg : Growing expected)
    (hbody : ∀ u, Progress expected w.device 0 u → Triple body u
      (fun a u => Q a ∧ Overwritten expected p w.device u.1.device)
      (fun _ u => Reached expected limit w.device u.1.device)) :
    Triple ((v.eraseTarget Bench.onDisk).withDevice .write body) w
      (fun a w' => Q a ∧ Overwritten expected p w.device w'.device)
      (fun _ w' => Reached expected limit w.device w'.device) := by
  refine Triple.withHandle (J := fun u => Progress expected w.device 0 u) ?_ ?_
  · refine Bench.openHandle_triple (Triple.mono Disk.openHandle_triple ?_ ?_)
    · rintro e _ ⟨-, rfl, rfl⟩
      exact ⟨rfl, .of_data hg rfl⟩
    · rintro cause _ ⟨-, rfl⟩
      exact (Overwritten.of_data hg rfl).reached (Nat.zero_le _)
  intro u hu
  refine Triple.mono (hbody u hu) ?_ ?_
  · rintro a u ⟨ha, hu⟩
    exact ⟨ha, hu.same rfl⟩
  · intro _ u hu
    exact hu.same rfl

/-- Every overwrite obeys the law of the front part, however it ends. -/
theorem Volume.erase_overwrites :
    Triple (v.erase Bench.onDisk (.pattern .overwrite bytes)) w
        (fun report w' => report.amount = w.device.target bytes ∧
          Overwritten (stretch v.settings.erase.patternSeed 0) (w.device.target bytes).toNat
            w.device w'.device)
        (fun _ w' => Reached (stretch v.settings.erase.patternSeed 0)
          (w.device.target bytes).toNat w.device w'.device) ∧
      Triple (v.erase Bench.onDisk (.zero .overwrite bytes)) w
        (fun report w' => report.amount = w.device.target bytes ∧
          Overwritten zeroOctets (w.device.target bytes).toNat w.device w'.device)
        (fun _ w' => Reached zeroOctets (w.device.target bytes).toNat w.device w'.device) := by
  -- a request that is refused writes nothing
  have untouched : ∀ {expected limit}, Growing expected →
      Reached expected limit w.device w.device := fun hg =>
    (Overwritten.of_data hg rfl).reached (Nat.zero_le _)
  have admitted : ∀ {request expected}, Growing expected →
      Triple ((v.eraseTarget Bench.onDisk).run request) w
        (fun report w' => report = ⟨request.method, w.device.target bytes⟩ ∧
          Overwritten expected (w.device.target bytes).toNat w.device w'.device)
        (fun _ w' => Reached expected (w.device.target bytes).toNat w.device w'.device) →
      Triple (v.erase Bench.onDisk request) w
        (fun report w' => report.amount = w.device.target bytes ∧
          Overwritten expected (w.device.target bytes).toNat w.device w'.device)
        (fun _ w' => Reached expected (w.device.target bytes).toNat w.device w'.device) := by
    intro request expected hg h
    by_cases hr : v.Refuses request
    · exact Triple.of_error (Volume.erase_refused hr) (untouched hg)
    · rw [Volume.erase_admitted hr]
      refine Triple.adaptExcept (Triple.mono h ?_ fun _ _ h => h)
      rintro _ w' ⟨rfl, h⟩
      exact ⟨rfl, h⟩
  constructor
  · refine admitted growing_stretch ?_
    unfold EraseTarget.run
    split
    · exact EraseTarget.withDevice_reached growing_stretch fun u hu =>
        EraseTarget.blocks_reached hu fun _ _ => PatternErase.writeBlocks_progress
    · exact Triple.throw (untouched growing_stretch)
  · refine admitted growing_zeroOctets ?_
    unfold EraseTarget.run
    split
    · exact EraseTarget.withDevice_reached growing_zeroOctets fun u hu =>
        EraseTarget.blocks_reached hu fun _ _ => ZeroErase.writeBlocks_progress
    · exact Triple.throw (untouched growing_zeroOctets)

end

end EmmcVault
