import EmmcVault.Linux.Backends
import EmmcVault.Proofs.ImageFile
import EmmcVault.Proofs.Overwrite

/-!
# Beyond the end of a device

An in-memory disk moves nothing beyond its end, so a pass over more octets than
it has never succeeds and leaves its size as it is. A regular file that stands
in for a card takes whatever is written at its end: an overwrite of more octets
than an image has succeeds, and makes the image as long as was asked for.
-/

namespace EmmcVault

open Text Memory Linux Pattern

variable {σ η : Type}

-- ---------------------------------------------------------------------------
-- In memory
-- ---------------------------------------------------------------------------

namespace Memory.Disk

/-- An open disk of `size` octets stands at `k`, which is not beyond its end. -/
structure Inside (size k : Nat) (u : Bench Disk × DiskHandle) : Prop where
  sized : u.1.device.data.size = size
  position : u.2.position = k
  within : k ≤ size

/-- The size is kept and the fault does not end the program. -/
def Stopped (size : Nat) (f : Fault) (w : Bench Disk) : Prop :=
  w.device.data.size = size ∧ f.exceedsMachine = false

variable {size k : Nat} {u : Bench Disk × DiskHandle}

theorem Inside.read {requested : Nat} (h : Inside size k u) :
    Triple (Bench.onDisk.devices.read requested) u
      (fun r u' => r.count ≤ requested ∧ Inside size (k + r.count) u')
      (fun _ u' => u'.1.device.data.size = size) := by
  obtain ⟨w, e⟩ := u
  obtain ⟨hsized, rfl, hwithin⟩ := h
  dsimp only at hsized hwithin
  refine Bench.onDevice_triple (Triple.mono Disk.read_triple ?_ ?_)
  · rintro _ _ ⟨-, rfl, rfl⟩
    have hmoved := @transferLength_le w.device requested e.position
    exact ⟨by dsimp only; omega, hsized, rfl, by dsimp only; omega⟩
  · rintro cause _ ⟨-, rfl⟩
    exact hsized

theorem Inside.write {block : ByteArray} (h : Inside size k u) :
    Triple (Bench.onDisk.devices.write block) u
      (fun m u' => m ≤ block.size ∧ Inside size (k + m) u')
      (fun _ u' => u'.1.device.data.size = size) := by
  obtain ⟨w, e⟩ := u
  obtain ⟨hsized, rfl, hwithin⟩ := h
  dsimp only at hsized hwithin
  refine Bench.onDevice_triple (Triple.mono Disk.write_triple ?_ ?_)
  · rintro m _ ⟨-, rfl, rfl⟩
    have hmoved := @transferLength_le w.device block.size e.position
    refine ⟨by omega, ?_, rfl, by dsimp only; omega⟩
    refine (Buffer.overlay_size ?_).trans hsized
    rw [ByteArray.size_extract]
    omega
  · rintro cause _ ⟨-, rfl⟩
    exact hsized

end Memory.Disk

open Memory.Disk

section
variable {v : Volume} {size offset length : Nat} {u : Bench Disk × DiskHandle}

theorem PatternErase.writeBlock_inside {stream : PatternStream} (h : Inside size offset u) :
    Triple (PatternErase.writeBlock (v.eraseTarget Bench.onDisk) offset length stream) u
      (fun _ u => Inside size (offset + length) u) (fun f u => Stopped size f u.1) := by
  unfold PatternErase.writeBlock
  refine Triple.bind (Triple.orFault (Triple.mono h.write (fun _ _ h => h) fun _ _ h =>
    ⟨h, rfl⟩)) ?_
  rintro m u' ⟨-, h'⟩
  split
  · rename_i hwhole
    rw [hwhole] at h'
    exact Triple.pure h'
  · exact Triple.throw ⟨h'.sized, rfl⟩

theorem PatternErase.checkBlock_inside {stream : PatternStream} (h : Inside size offset u) :
    Triple (PatternErase.checkBlock (v.eraseTarget Bench.onDisk) offset length stream) u
      (fun _ u => Inside size (offset + length) u) (fun f u => Stopped size f u.1) := by
  unfold PatternErase.checkBlock
  refine Triple.bind (Triple.orFault (Triple.mono h.read (fun _ _ h => h) fun _ _ h =>
    ⟨h, rfl⟩)) ?_
  rintro r u' ⟨-, h'⟩
  split
  · rename_i hwhole
    rw [hwhole] at h'
    split
    · exact Triple.throw ⟨h'.sized, rfl⟩
    · exact Triple.pure h'
  · exact Triple.throw ⟨h'.sized, rfl⟩

/-- Transfers that move no more than they are asked to. -/
theorem ZeroErase.transfer_inside {direction : Direction} {attempts : UInt32}
    {step : Nat → ByteArray → Call (Bench Disk × DiskHandle) (Nat × ByteArray)}
    {buffer : ByteArray} (P : ByteArray → Prop)
    (hstep : ∀ done buffer u, done < length → P buffer → Inside size (offset + done) u →
      Triple (step done buffer) u (fun r u => done + r.1 ≤ length ∧ P r.2 ∧
        Inside size (offset + (done + r.1)) u) (fun _ u => u.1.device.data.size = size))
    (hlength : length ≤ EraseTarget.maxBlock) (hbuffer : P buffer) (h : Inside size offset u) :
    Triple (ZeroErase.transfer direction offset length attempts step attempts.toNat 0 buffer) u
      (fun _ u => Inside size (offset + length) u) (fun f u => Stopped size f u.1) := by
  have hcount : EraseTarget.maxBlock ≤ ZeroErase.maxCount := by decide
  refine Triple.mono (Triple.transfer (fun _ done buffer u => P buffer ∧
    Inside size (offset + done) u) ?_ ?_ ?_ (Nat.zero_le length) ⟨hbuffer, h⟩) ?_ fun _ _ h => h
  · rintro left done buffer u hlt ⟨hbuffer, hu⟩
    exact Triple.mono (hstep done buffer u hlt hbuffer hu) (fun _ _ h => h) fun _ _ h => ⟨h, rfl⟩
  · rintro done buffer u hlt ⟨-, hu⟩
    exact ⟨hu.sized, rfl⟩
  · intro left done buffer u hover hle
    omega
  · rintro _ u ⟨left, -, hu⟩
    exact hu

theorem ZeroErase.writeBlock_inside {a : Unit} (hlength : length ≤ EraseTarget.maxBlock)
    (h : Inside size offset u) :
    Triple (ZeroErase.writeBlock (v.eraseTarget Bench.onDisk) offset length a) u
      (fun _ u => Inside size (offset + length) u) (fun f u => Stopped size f u.1) := by
  unfold ZeroErase.writeBlock
  refine Triple.bind (ZeroErase.transfer_inside (fun buffer => buffer.size = length) ?_ hlength
    Array.size_replicate h) fun _ _ h => Triple.pure h
  intro done buffer u hlt hbuffer hu
  refine Triple.bind hu.write ?_
  rintro m u' ⟨hm, hu'⟩
  rw [ByteArray.size_extract, hbuffer, Nat.min_self] at hm
  rw [Nat.add_assoc] at hu'
  exact Triple.pure ⟨by dsimp only; omega, hbuffer, hu'⟩

theorem ZeroErase.checkBlock_inside {a : Unit} (hlength : length ≤ EraseTarget.maxBlock)
    (h : Inside size offset u) :
    Triple (ZeroErase.checkBlock (v.eraseTarget Bench.onDisk) offset length a) u
      (fun _ u => Inside size (offset + length) u) (fun f u => Stopped size f u.1) := by
  unfold ZeroErase.checkBlock
  refine Triple.bind (ZeroErase.transfer_inside (fun _ => True) ?_ hlength trivial h) ?_
  · intro done buffer u hlt _ hu
    refine Triple.bind hu.read ?_
    rintro r u' ⟨hm, hu'⟩
    rw [Nat.add_assoc] at hu'
    exact Triple.pure ⟨by dsimp only; omega, trivial, hu'⟩
  · intro _ u hu
    split
    · exact Triple.throw ⟨hu.sized, rfl⟩
    · exact Triple.pure hu

end

section
variable {v : Volume} {w : Bench Disk} {n : UInt64}

/-- A pass of which the blocks stay inside the disk does not get beyond its end. -/
theorem EraseTarget.blocks_inside {α : Type} {size : Nat} {positive : 0 < size}
    {step : (offset length : Nat) → α → EStateM Fault (Bench Disk × DiskHandle) α} {a : α}
    {u : Bench Disk × DiskHandle} {Q : α → Bench Disk × DiskHandle → Prop}
    (hn : w.device.data.size < n.toNat) (hu : Inside w.device.data.size 0 u)
    (hstep : ∀ offset length a u, length ≤ size → Inside w.device.data.size offset u →
      Triple (step offset length a) u (fun _ u => Inside w.device.data.size (offset + length) u)
        (fun f u => Stopped w.device.data.size f u.1)) :
    Triple (Blocks.run size positive step 0 n.toNat a) u Q
      (fun f u => Stopped w.device.data.size f u.1) := by
  -- behind the last block the disk would stand at `n`, which is not inside it
  refine Triple.mono (Triple.blocks (fun offset _ u => Inside w.device.data.size offset u)
    (fun offset a u _ hu => hstep offset _ a u (Nat.min_le_left _ _) hu) (Nat.zero_add n.toNat) hu)
    ?_ fun _ _ h => h
  intro a u hu
  exact absurd hu.within (Nat.not_le_of_lt hn)

/-- A body that never gets through, on a disk that is opened for it. A block
that no memory holds ends it before its first transfer. -/
theorem EraseTarget.withDevice_inside {mode : OpenMode}
    {body : EStateM Fault (Bench Disk × DiskHandle) EraseReport}
    (hbody : ∀ u, Inside w.device.data.size 0 u → v.settings.erase.blockSize.toNat ≤ maxBlock →
      Triple body u (fun _ _ => False) (fun f u => Stopped w.device.data.size f u.1)) :
    Triple ((v.eraseTarget Bench.onDisk).withDevice mode do
        EraseTarget.requireBlock v.settings.erase.blockSize.toNat
        body) w (fun _ _ => False)
      (fun f w' => w'.device.data.size = w.device.data.size ∧
        (v.settings.erase.blockSize.toNat ≤ maxBlock → f.exceedsMachine = false)) := by
  refine Triple.withHandle (J := Inside w.device.data.size 0) ?_ ?_
  · refine Bench.openHandle_triple (Triple.mono Disk.openHandle_triple ?_ ?_)
    · rintro e _ ⟨-, rfl, rfl⟩
      exact ⟨rfl, rfl, Nat.zero_le _⟩
    · rintro cause _ ⟨-, rfl⟩
      exact ⟨rfl, fun _ => rfl⟩
  intro u hu
  by_cases hmax : v.settings.erase.blockSize.toNat ≤ maxBlock
  · refine Triple.bind (PatternErase.requireBlock_triple hmax) ?_
    rintro _ u rfl
    exact Triple.mono (hbody u hu hmax) (fun _ _ h => h) fun _ _ h => ⟨h.1, fun _ => h.2⟩
  · refine Triple.bind (R := fun _ _ => False) ?_ fun _ _ h => h.elim
    rw [requireBlock, if_neg hmax]
    exact Triple.throw ⟨hu.sized, fun hmax' => (hmax hmax').elim⟩

/-- A pass over more octets than a disk has fails and leaves the size of the
disk alone. -/
theorem EraseTarget.run_beyond {request : EraseRequest} {pass : ErasePass}
    (hrequest : request = .pattern pass (some n) ∨ request = .zero pass (some n))
    (hn : w.device.data.size < n.toNat) :
    Triple ((v.eraseTarget Bench.onDisk).run request) w (fun _ _ => False)
      (fun f w' => w'.device.data.size = w.device.data.size ∧
        (v.settings.erase.blockSize.toNat ≤ EraseTarget.maxBlock → f.exceedsMachine = false)) := by
  unfold EraseTarget.run
  split
  case isFalse =>
    rcases hrequest with rfl | rfl <;> exact Triple.throw ⟨rfl, fun _ => rfl⟩
  rcases hrequest with rfl | rfl <;> cases pass
  · refine withDevice_inside fun u hu _ => Triple.bind (R := fun _ _ => False)
      (EraseTarget.blocks_inside hn hu ?_) fun _ _ h => h.elim
    exact fun _ _ _ _ _ => PatternErase.writeBlock_inside
  · refine withDevice_inside fun u hu _ => Triple.bind (R := fun _ _ => False)
      (EraseTarget.blocks_inside hn hu ?_) fun _ _ h => h.elim
    exact fun _ _ _ _ _ => PatternErase.checkBlock_inside
  · refine withDevice_inside fun u hu hmax => Triple.bind (R := fun _ _ => False)
      (EraseTarget.blocks_inside hn hu ?_) fun _ _ h => h.elim
    exact fun _ _ _ _ hle => ZeroErase.writeBlock_inside (Nat.le_trans hle hmax)
  · refine withDevice_inside fun u hu hmax => Triple.bind (R := fun _ _ => False)
      (EraseTarget.blocks_inside hn hu ?_) fun _ _ h => h.elim
    exact fun _ _ _ _ hle => ZeroErase.checkBlock_inside (Nat.le_trans hle hmax)

end

-- ---------------------------------------------------------------------------
-- On a device that grows
-- ---------------------------------------------------------------------------

/-- What is written from within the content of the device on, or from its end
on, is taken in full up to `room` octets, and makes the content as long as that
takes. -/
def Store.Grows (k : Store σ η) (d : BlockDevices σ η) (room : Nat) : Prop :=
  ∀ {u content mode position} bytes, k.opened u content mode position → mode.writable = true →
    position ≤ content.size → position + bytes.size ≤ room →
    ∃ u', d.write bytes u = .ok bytes.size u' ∧
      k.opened u' (Buffer.overlay content position bytes) mode (position + bytes.size)

/-- An overwrite of `n` octets, and what it writes. -/
inductive EraseRequest.Overwrites (seed : UInt32) (n : UInt64) :
    EraseRequest → (Nat → List UInt8) → Prop where
  | pattern : Overwrites seed n (.pattern .overwrite (some n)) (stretch seed 0)
  | zero : Overwrites seed n (.zero .overwrite (some n)) zeroOctets

namespace EraseRequest.Overwrites

variable {seed : UInt32} {n : UInt64} {request : EraseRequest} {expected : Nat → List UInt8}

theorem growing (h : request.Overwrites seed n expected) : Growing expected := by
  cases h with
  | pattern => exact growing_stretch
  | zero => exact growing_zeroOctets

theorem request_eq (h : request.Overwrites seed n expected) :
    request = .pattern .overwrite (some n) ∨ request = .zero .overwrite (some n) := by
  cases h with
  | pattern => exact .inl rfl
  | zero => exact .inr rfl

end EraseRequest.Overwrites

/-- The first `p` octets were written over the content `old`, and the open
device goes on from there. -/
def Store.Covered (k : Store σ η) (expected : Nat → List UInt8) (old : ByteArray) (p : Nat)
    (u : σ × η) : Prop :=
  ∃ content, k.opened u content .write p ∧
    content.data.toList = expected p ++ old.data.toList.drop p

section
variable {k : Store σ η} {room : Nat} {expected : Nat → List UInt8} {old : ByteArray}
  {offset length : Nat} {u : σ × η} {b : Backends σ η} {v : Volume}

theorem Store.Covered.write {block : ByteArray} (grows : k.Grows b.devices room)
    (hg : Growing expected) (hblock : block.data.toList = (expected (offset + length)).drop offset)
    (hroom : offset + length ≤ room) (h : k.Covered expected old offset u) :
    Triple (b.devices.write block) u
      (fun moved u => moved = length ∧ k.Covered expected old (offset + length) u)
      (fun _ _ => False) := by
  obtain ⟨content, hopened, hcontent⟩ := h
  have hsize : block.size = length := by
    have hlength := congrArg List.length hblock
    rw [List.length_drop, hg.length, Nat.add_sub_cancel_left] at hlength
    exact hlength
  have hinside : offset ≤ content.size := by
    have hlength := congrArg List.length hcontent
    rw [List.length_append, hg.length] at hlength
    have htotal : content.data.toList.length = content.size := rfl
    omega
  obtain ⟨u', hwrite, hopened'⟩ := grows block hopened rfl hinside (by omega)
  rw [hsize] at hwrite hopened'
  refine Triple.of_ok hwrite ⟨rfl, _, hopened', ?_⟩
  have hrest : (expected offset ++ old.data.toList.drop offset).drop (offset + length) =
      old.data.toList.drop (offset + length) := by
    rw [List.drop_append, List.drop_eq_nil_of_le (by rw [hg.length]; omega), hg.length,
      List.drop_drop, List.nil_append, Nat.add_sub_cancel_left, Nat.add_comm]
  rw [Buffer.overlay_toList, hcontent, hsize, List.take_left' (hg.length offset), hblock,
    hg.append_drop, hrest]

theorem PatternErase.writeBlock_covered {seed : UInt32} {stream : PatternStream}
    (grows : k.Grows b.devices room) (hroom : offset + length ≤ room)
    (hstream : stream = .after seed offset) (h : k.Covered (stretch seed 0) old offset u) :
    Triple (PatternErase.writeBlock (v.eraseTarget b) offset length stream) u
      (fun stream u => stream = .after seed (offset + length) ∧
        k.Covered (stretch seed 0) old (offset + length) u) (fun _ _ => False) := by
  subst hstream
  obtain ⟨hblock, hrest⟩ := @PatternStream.fill_after seed offset length
  unfold PatternErase.writeBlock
  generalize (PatternStream.after seed offset).fill length = filled at hblock hrest
  obtain ⟨block, rest⟩ := filled
  dsimp only at hblock hrest ⊢
  rw [← stretch_drop] at hblock
  refine Triple.bind (Triple.orFault (Triple.mono (h.write grows growing_stretch hblock hroom)
    (fun _ _ h => h) fun _ _ h => h)) ?_
  rintro _ u' ⟨rfl, h'⟩
  rw [if_pos rfl]
  exact Triple.pure ⟨hrest, h'⟩

/-- One transfer does for a block, if one is allowed. -/
theorem ZeroErase.writeBlock_covered {a : Unit} (grows : k.Grows b.devices room)
    (hroom : offset + length ≤ room) (hlength : length ≤ EraseTarget.maxBlock)
    (hattempts : 0 < v.settings.erase.transferAttempts.toNat)
    (h : k.Covered zeroOctets old offset u) :
    Triple (ZeroErase.writeBlock (v.eraseTarget b) offset length a) u
      (fun _ u => k.Covered zeroOctets old (offset + length) u) (fun _ _ => False) := by
  have hcount : EraseTarget.maxBlock ≤ ZeroErase.maxCount := by decide
  unfold ZeroErase.writeBlock
  refine Triple.bind (Triple.transfer (fun left done buffer u => buffer = Buffer.zeros length ∧
    (done < length → done = 0 ∧ 0 < left) ∧ k.Covered zeroOctets old (offset + done) u)
    ?_ ?_ ?_ (Nat.zero_le length) ⟨rfl, fun _ => ⟨rfl, hattempts⟩, h⟩) ?_
  · rintro left done _ u hlt ⟨rfl, hfirst, hu⟩
    obtain ⟨rfl, -⟩ := hfirst hlt
    have hblock : ((Buffer.zeros length).extract 0 length).data.toList =
        (zeroOctets (offset + length)).drop offset := by
      simp [Buffer.zeros, Buffer.constant, zeroOctets]
    refine Triple.bind (Triple.mono (hu.write grows growing_zeroOctets hblock hroom)
      (fun _ _ h => h) fun _ _ h => h.elim) ?_
    rintro _ u' ⟨rfl, hu'⟩
    refine Triple.pure ?_
    dsimp only
    rw [Nat.zero_add]
    exact ⟨Nat.le_refl _, rfl, fun h => absurd h (Nat.lt_irrefl _), hu'⟩
  · rintro done buffer u hlt ⟨-, hfirst, -⟩
    exact Nat.lt_irrefl 0 (hfirst hlt).2
  · rintro left done buffer u hover hle -
    omega
  · rintro _ u ⟨left, -, -, hu⟩
    exact Triple.pure hu

/-- Blocks that go through, with the flush behind them, on a device that is
opened for them. -/
theorem EraseTarget.withDevice_covered {s : σ} {n : UInt64} {method : EraseMethod}
    {flush : BackendError → Fault} {α : Type} {blocks : EStateM Fault (σ × η) α}
    (laws : k.Lawful b.devices v.identity.device) (hg : Growing expected)
    (hmax : v.settings.erase.blockSize.toNat ≤ EraseTarget.maxBlock) (hs : k.holds s old)
    (hblocks : ∀ u, k.Covered expected old 0 u →
      Triple blocks u (fun _ u => k.Covered expected old n.toNat u) (fun _ _ => False)) :
    Triple ((v.eraseTarget b).withDevice .write do
        EraseTarget.requireBlock v.settings.erase.blockSize.toNat
        let _ ← blocks
        Call.orFault b.devices.sync flush
        pure (⟨method, n⟩ : EraseReport)) s
      (fun report s' => report = ⟨method, n⟩ ∧ ∃ content, k.holds s' content ∧
        content.data.toList = expected n.toNat ++ old.data.toList.drop n.toNat)
      (fun _ _ => False) := by
  have hstart : expected 0 = [] := List.length_eq_zero_iff.mp (hg.length 0)
  obtain ⟨e, t, hopen, hopened⟩ := laws.openHandle .write hs
  refine Triple.withHandle (J := k.Covered expected old 0)
    (Triple.of_ok hopen ⟨old, hopened, by rw [hstart]; rfl⟩) fun u hu => ?_
  refine Triple.bind (PatternErase.requireBlock_triple hmax) ?_
  rintro _ u rfl
  refine Triple.bind (hblocks u hu) ?_
  rintro _ u ⟨content, hopened, hcontent⟩
  obtain ⟨u', hsync, hopened'⟩ := laws.sync hopened
  exact Triple.bind (Triple.orFault (Triple.of_ok hsync hopened')) fun _ u hu =>
    Triple.pure ⟨rfl, content, laws.close hu, hcontent⟩

/-- An overwrite of a device that grows succeeds, wherever the device ended. -/
theorem EraseTarget.run_grown {s : σ} {n : UInt64} {request : EraseRequest}
    (laws : k.Lawful b.devices v.identity.device) (grows : k.Grows b.devices room)
    (hrequest : request.Overwrites v.settings.erase.patternSeed n expected)
    (hpositive : 0 < v.settings.erase.blockSize.toNat)
    (hmax : v.settings.erase.blockSize.toNat ≤ EraseTarget.maxBlock)
    (hattempts : 0 < v.settings.erase.transferAttempts.toNat) (hs : k.holds s old)
    (hroom : n.toNat ≤ room) :
    Triple ((v.eraseTarget b).run request) s
      (fun report s' => report = ⟨request.method, n⟩ ∧ ∃ content, k.holds s' content ∧
        content.data.toList = expected n.toNat ++ old.data.toList.drop n.toNat)
      (fun _ _ => False) := by
  rw [EraseTarget.run_eq hpositive]
  cases hrequest with
  | pattern =>
    refine withDevice_covered laws growing_stretch hmax hs fun u hu => ?_
    refine Triple.mono (Triple.blocks (fun offset stream u =>
      stream = .after v.settings.erase.patternSeed offset ∧
        k.Covered (stretch v.settings.erase.patternSeed 0) old offset u) ?_ (Nat.zero_add n.toNat)
      ⟨PatternStream.after_zero.symm, hu⟩) (fun _ _ h => h.2) fun _ _ h => h
    rintro offset stream u hlt ⟨hstream, hu⟩
    exact PatternErase.writeBlock_covered grows (by omega) hstream hu
  | zero =>
    refine withDevice_covered laws growing_zeroOctets hmax hs fun u hu => ?_
    refine Triple.blocks (fun offset _ u => k.Covered zeroOctets old offset u) ?_
      (Nat.zero_add n.toNat) hu
    intro offset a u hlt hu
    exact ZeroErase.writeBlock_covered grows (by omega) (Nat.le_trans (Nat.min_le_left _ _) hmax)
      hattempts hu

end

-- ---------------------------------------------------------------------------
-- Image files
-- ---------------------------------------------------------------------------

/-- An image file on a filesystem with room for `room` octets of it. -/
structure Linux.Host.GrowingImage (h : Host σ η) (k : Store σ η) (path : Path) (room : Nat) : Prop
    extends h.Image k path where
  grow : ∀ {u content mode position} bytes, k.opened u content mode position →
    mode.writable = true → position ≤ content.size → position + bytes.size ≤ room →
    ∃ u', h.write bytes u = .ok bytes.size u' ∧
      k.opened u' (Buffer.overlay content position bytes) mode (position + bytes.size)

theorem Linux.Host.GrowingImage.grows {h : Host σ η} {k : Store σ η} {path : Path} {room : Nat}
    (image : h.GrowingImage k path room) : (DeviceHandle.store k).Grows h.blockDevices room := by
  rintro ⟨s, e⟩ content mode position bytes ⟨hregular, ho⟩ hmode hinside hroom
  obtain ⟨u', hx, ho'⟩ := image.grow bytes ho hmode hinside hroom
  exact ⟨_, Host.onFile_ok hx, hregular, ho'⟩

/-- The machine in memory has room for any file. -/
theorem Linux.Sandbox.growingImage_host {path : Path} (room : Nat) :
    host.GrowingImage (image path) path room where
  toImage := image_host
  grow bytes ho hmode _ _ := image_write bytes ho hmode

-- the backends of a system keep staged headers beside its files

/-- The files of the world, whatever is staged beside them. -/
def Linux.Session.store (k : Store σ η) : Store (Session σ) η where
  holds s := k.holds s.world
  opened u := k.opened (u.1.world, u.2)

section
variable {k : Store σ η} {d : BlockDevices σ η} {path : Path}

theorem Linux.Session.onDevice_ok {ε α : Type} {call : EStateM ε (σ × η) α} {s : Session σ} {e : η}
    {a : α} {u : σ × η} (h : call (s.world, e) = .ok a u) :
    Session.onDevice call (s, e) = .ok a ({ s with world := u.1 }, u.2) := by
  simp only [Session.onDevice, h]

theorem Linux.Session.store_lawful (laws : k.Lawful d path) :
    (Session.store k).Lawful (Session.devices d) path where
  openHandle := by
    intro s content mode hs
    obtain ⟨e, t, hx, ho⟩ := laws.openHandle mode hs
    refine ⟨e, { s with world := t }, ?_, ho⟩
    simp only [Session.devices, Session.onWorld, hx]
  read length ho hmode hfit := by
    obtain ⟨u', hx, ho'⟩ := laws.read length ho hmode hfit
    exact ⟨_, onDevice_ok hx, ho'⟩
  write bytes ho hmode hfit := by
    obtain ⟨u', hx, ho'⟩ := laws.write bytes ho hmode hfit
    exact ⟨_, onDevice_ok hx, ho'⟩
  sync ho := by
    obtain ⟨u', hx, ho'⟩ := laws.sync ho
    exact ⟨_, onDevice_ok hx, ho'⟩
  size ho := by
    obtain ⟨u', hx, ho'⟩ := laws.size ho
    exact ⟨_, onDevice_ok hx, ho'⟩
  command := by
    rintro ⟨s, e⟩ content mode position c data ho
    obtain ⟨cause, u', hx, ho'⟩ := laws.command c data ho
    refine ⟨cause, ({ s with world := u'.1 }, u'.2), ?_, ho'⟩
    simp only [Session.devices, Session.onDevice, hx]
  close ho := laws.close ho

theorem Linux.Session.store_grows {room : Nat} (grows : k.Grows d room) :
    (Session.store k).Grows (Session.devices d) room := by
  intro u content mode position bytes ho hmode hinside hroom
  obtain ⟨u', hx, ho'⟩ := grows bytes ho hmode hinside hroom
  exact ⟨_, onDevice_ok hx, ho'⟩

end

/-- An overwrite of more octets than a device has. In memory it fails and
leaves the size of the disk alone. An image file takes it, and is as long
afterwards as was asked for. -/
theorem EraseTarget.overwrite_beyond_end {v : Volume} {n : UInt64} {request : EraseRequest}
    {expected : Nat → List UInt8}
    (hrequest : request.Overwrites v.settings.erase.patternSeed n expected) :
    (∀ w : Bench Disk, w.device.data.size < n.toNat →
      ∃ f w', (v.eraseTarget Bench.onDisk).run request w = .error f w' ∧
        w'.device.data.size = w.device.data.size ∧
        (v.settings.erase.blockSize.toNat ≤ maxBlock → f.exceedsMachine = false)) ∧
    (0 < v.settings.erase.blockSize.toNat → v.settings.erase.blockSize.toNat ≤ maxBlock →
      0 < v.settings.erase.transferAttempts.toNat →
      ∀ {σ η : Type} {h : Host σ η} {k : Store σ η} {room : Nat} {s : Session σ}
        {content : ByteArray} (program : String),
        h.GrowingImage k v.identity.device room → k.holds s.world content →
        content.size < n.toNat → n.toNat ≤ room →
        ∃ s' content', (v.eraseTarget (h.backendsUsing program)).run request s =
            .ok ⟨request.method, n⟩ s' ∧
          k.holds s'.world content' ∧ content'.data.toList = expected n.toNat ∧
          content'.size = n.toNat) := by
  constructor
  · intro w hn
    have hbeyond : Triple ((v.eraseTarget Bench.onDisk).run request) w _ _ :=
      EraseTarget.run_beyond hrequest.request_eq hn
    obtain ⟨_, _, -, hfalse⟩ | ⟨f, w', hrun, hsized, hfault⟩ := hbeyond.cases
    · exact hfalse.elim
    · exact ⟨f, w', hrun, hsized, hfault⟩
  · intro hpositive hmax hattempts σ η h k room s content program image hs hn hroom
    have hgrown : Triple ((v.eraseTarget (h.backendsUsing program)).run request) s _ _ :=
      EraseTarget.run_grown (Session.store_lawful image.lawful) (Session.store_grows image.grows)
        hrequest hpositive hmax hattempts hs hroom
    obtain ⟨_, s', hrun, rfl, content', hs', hcontent⟩ | ⟨_, _, -, hfalse⟩ := hgrown.cases
    · have hnone : content.data.toList.drop n.toNat = [] :=
        List.drop_eq_nil_of_le (Nat.le_of_lt hn)
      rw [hnone, List.append_nil] at hcontent
      refine ⟨s', content', hrun, hs', hcontent, ?_⟩
      rw [← hrequest.growing.length n.toNat, ← hcontent]
      rfl
    · exact hfalse.elim

/-- An image of sixteen octets at the place of the device. -/
def smallImage : Sandbox where
  tree := ⟨[([Utf8.encode "dev"], .directory),
    ([Utf8.encode "dev", Utf8.encode "mmcblk0p5"], .file ⟨sample.world.device.data, 0o644⟩)]⟩

theorem smallImage_holds :
    (Sandbox.image sample.volume.identity.device).holds smallImage sample.world.device.data :=
  ⟨_, _, rfl⟩

/-- Twenty octets over sixteen. -/
theorem EraseTarget.overwrite_beyond_end_smallImage :
    let request : EraseRequest := .pattern .overwrite (some 20)
    (∃ f w', (sample.volume.eraseTarget Bench.onDisk).run request sample.world = .error f w' ∧
      w'.device.data.size = 16) ∧
    ∃ s' content', (sample.volume.eraseTarget (Sandbox.host.backendsUsing "cryptsetup")).run request
        { world := smallImage } = .ok ⟨.pattern, 20⟩ s' ∧
      (Sandbox.image sample.volume.identity.device).holds s'.world content' ∧
      content'.size = 20 := by
  obtain ⟨hmemory, himage⟩ := overwrite_beyond_end (v := sample.volume) (n := 20) .pattern
  obtain ⟨f, w', hrun, hsized, -⟩ := hmemory sample.world (by decide)
  obtain ⟨s', content', hrun', hs', -, hsize⟩ := himage (by decide) (by decide) (by decide)
    (s := { world := smallImage }) "cryptsetup" (Sandbox.growingImage_host 20) smallImage_holds
    (by decide) (by decide)
  exact ⟨⟨f, w', hrun, hsized⟩, s', content', hrun', hs', hsize⟩

/-- An overwrite that goes beyond the end of an image is not always refused. -/
theorem EraseTarget.not_overwrite_refused_beyond_end :
    ¬ ∀ (v : Volume) (n : UInt64) (request : EraseRequest) (expected : Nat → List UInt8)
      (h : Host Sandbox Sandbox.FileHandle) (k : Store Sandbox Sandbox.FileHandle)
      (s : Session Sandbox) (content : ByteArray),
      request.Overwrites v.settings.erase.patternSeed n expected →
      0 < v.settings.erase.blockSize.toNat → 0 < v.settings.erase.transferAttempts.toNat →
      h.Image k v.identity.device → k.holds s.world content → content.size < n.toNat →
        ∃ f s', (v.eraseTarget (h.backendsUsing "cryptsetup")).run request s = .error f s' ∧
          ∃ content', k.holds s'.world content' ∧ content'.size = content.size := by
  intro h
  obtain ⟨f, s', hrun, -⟩ := h sample.volume 20 (.zero .overwrite (some 20)) zeroOctets
    Sandbox.host (Sandbox.image sample.volume.identity.device) { world := smallImage }
    sample.world.device.data .zero (by decide) (by decide) Sandbox.image_host smallImage_holds
    (by decide)
  have hgrown : Triple ((sample.volume.eraseTarget (Sandbox.host.backendsUsing "cryptsetup")).run
      (.zero .overwrite (some 20))) { world := smallImage } _ _ :=
    EraseTarget.run_grown (Session.store_lawful Sandbox.image_host.lawful)
      (Session.store_grows (Sandbox.growingImage_host 20).grows) .zero (by decide)
      (by decide) (by decide) smallImage_holds (by decide)
  exact hgrown.error hrun

end EmmcVault
