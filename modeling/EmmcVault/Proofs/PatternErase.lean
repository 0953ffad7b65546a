import EmmcVault.Erase.Engine
import EmmcVault.Proofs.Bench
import EmmcVault.Proofs.Buffer
import EmmcVault.Proofs.Disk
import EmmcVault.Proofs.History
import EmmcVault.Proofs.PatternStream

/-!
# Pattern overwrite and its verification

On a disk that neither fails nor moves less than it is asked to, an overwrite
puts the start of the pattern stream in place of the start of the data, and a
verification finds the first octet that is not the stream's. Neither depends on
how the data are cut into blocks.
-/

namespace EmmcVault

open Memory Pattern

namespace Memory.Disk

def contents (d : Disk) : List UInt8 :=
  d.data.data.toList

/-- The device at `path`, moving all that is asked for and failing nothing. -/
structure Sound (d : Disk) (path : Path) : Prop where
  found : path.key = d.path.key
  uncapped : d.maxTransfer = none
  unstalled : d.stalls = 0
  sized : d.failSize = false
  flushed : d.failSync = false

theorem Sound.transferLength {d : Disk} {path : Path} {requested position : Nat}
    (h : d.Sound path) (hr : position + requested ≤ d.contents.length) :
    d.transferLength requested position = requested := by
  have hsize : d.contents.length = d.data.size := rfl
  simp only [Disk.transferLength, h.unstalled, h.uncapped, Nat.lt_irrefl, if_false]
  omega

/-- Moving data leaves a sound disk sound. -/
theorem Sound.moved {d : Disk} {path : Path} (h : d.Sound path) (data : ByteArray) :
    { d.afterTransfer with data }.Sound path where
  found := h.found
  uncapped := h.uncapped
  unstalled := by simp [afterTransfer, h.unstalled]
  sized := h.sized
  flushed := h.flushed

/-- The counters of a disk do not matter. -/
theorem Sound.counted {d : Disk} {path : Path} (h : d.Sound path) {syncs openHandles opens : Nat} :
    { d with syncs, openHandles, opens }.Sound path :=
  ⟨h.found, h.uncapped, h.unstalled, h.sized, h.flushed⟩

end Memory.Disk

namespace PatternErase

/-- The erase target of a volume on a disk, with blocks of another size. -/
def target (v : Volume) (blockSize : UInt64) : EraseTarget (Bench Disk) DiskHandle :=
  { v.eraseTarget Bench.onDisk with settings := { v.settings.erase with blockSize } }

/-- A request for `bytes` of a device of `size` octets means its first `n`. -/
def Covers (bytes : Option UInt64) (size : Nat) (n : UInt64) : Prop :=
  bytes = some n ∧ n.toNat ≤ size ∨ bytes = none ∧ n.toNat = size

theorem Covers.le {bytes : Option UInt64} {size : Nat} {n : UInt64} (h : Covers bytes size n) :
    n.toNat ≤ size := by
  rcases h with ⟨-, h⟩ | ⟨-, h⟩
  · exact h
  · exact Nat.le_of_eq h

/-- The first of the first `n` octets that is not the stream's is octet `k`. -/
structure FirstMismatch (seed : UInt32) (contents : List UInt8) (n k : Nat) : Prop where
  lt : k < n
  ne : contents[k]? ≠ some (octetAt seed k)
  before : contents.take k = stretch seed 0 k

section
variable {seed : UInt32} {contents : List UInt8} {n k j : Nat}

theorem getElem?_of_take (h : contents.take n = stretch seed 0 n) (hk : k < n) :
    contents[k]? = some (octetAt seed k) := by
  have hstretch := @stretch_getElem? seed 0 n k hk
  rw [← h, List.getElem?_take_of_lt hk, Nat.zero_add] at hstretch
  exact hstretch

theorem FirstMismatch.take_ne (h : FirstMismatch seed contents n k) :
    contents.take n ≠ stretch seed 0 n := by
  intro htake
  exact h.ne (getElem?_of_take htake h.lt)

theorem FirstMismatch.unique (h : FirstMismatch seed contents n k)
    (h' : FirstMismatch seed contents n j) : k = j := by
  rcases Nat.lt_trichotomy k j with hlt | heq | hgt
  · exact (h.ne (getElem?_of_take h'.before hlt)).elim
  · exact heq
  · exact (h'.ne (getElem?_of_take h.before hgt)).elim

end

-- ---------------------------------------------------------------------------
-- Blocks
-- ---------------------------------------------------------------------------

section
variable {v : Volume} {blockSize : UInt64} {seed : UInt32} {path : Path} {old : List UInt8}
  {offset length : Nat} {stream : PatternStream} {u : Bench Disk × DiskHandle}

/-- Of the octets `old`, the first `k` have been overwritten. -/
structure Written (seed : UInt32) (path : Path) (old : List UInt8) (k : Nat)
    (stream : PatternStream) (u : Bench Disk × DiskHandle) : Prop where
  stream : stream = .after seed k
  handle : u.2 = ⟨.write, k⟩
  sound : u.1.device.Sound path
  contents : u.1.device.contents = stretch seed 0 k ++ old.drop k

theorem writeBlock_triple (hfit : offset + length ≤ old.length)
    (h : Written seed path old offset stream u) :
    Triple (writeBlock (target v blockSize) offset length stream) u
      (Written seed path old (offset + length)) (fun _ _ => False) := by
  obtain ⟨w, e⟩ := u
  obtain ⟨rfl, rfl, hsound, hcontents⟩ := h
  obtain ⟨hblock, hstream⟩ := @PatternStream.fill_after seed offset length
  unfold writeBlock
  generalize (PatternStream.after seed offset).fill length = filled at hblock hstream
  obtain ⟨block, rest⟩ := filled
  dsimp only at hblock hstream hsound hcontents ⊢
  have hsize : block.size = length := by
    have hlength := congrArg List.length hblock
    rw [length_stretch] at hlength
    exact hlength
  have hmoved : w.device.transferLength block.size offset = length := by
    rw [hsize]
    refine hsound.transferLength ?_
    rw [hcontents, List.length_append, length_stretch, List.length_drop]
    omega
  refine Triple.bind (R := fun n u => n = length ∧
    Written seed path old (offset + length) rest u) (Triple.orFault ?_) ?_
  · refine Bench.onDevice_triple (Triple.mono Disk.write_triple ?_ ?_)
    · rintro n _ ⟨-, rfl, rfl⟩
      rw [hmoved]
      refine ⟨rfl, hstream, rfl, hsound.moved _, ?_⟩
      have hwhole : block.extract 0 length = block := by
        rw [← hsize]
        exact ByteArray.extract_zero_size
      have hdata : w.device.data.data.toList = stretch seed 0 offset ++ old.drop offset := hcontents
      have htail : (stretch seed 0 offset ++ old.drop offset).drop (offset + length) =
          old.drop (offset + length) := by
        simp [List.drop_append, List.drop_drop, length_stretch, List.drop_eq_nil_of_le]
      have hjoin := @stretch_append seed 0 offset length
      rw [Nat.zero_add] at hjoin
      show (Buffer.overlay _ _ _).data.toList = _
      rw [hwhole, Buffer.overlay_toList, hdata, hblock, hsize, List.take_left' length_stretch,
        htail, hjoin]
    · rintro cause _ ⟨hmode, -⟩
      cases hmode
  · rintro n u' ⟨rfl, hw⟩
    rw [if_pos rfl]
    exact Triple.pure hw

/-- The octets `all` are there, and the first `k` are the stream's. -/
structure Checked (seed : UInt32) (path : Path) (all : List UInt8) (k : Nat)
    (stream : PatternStream) (u : Bench Disk × DiskHandle) : Prop where
  stream : stream = .after seed k
  handle : u.2 = ⟨.read, k⟩
  sound : u.1.device.Sound path
  contents : u.1.device.contents = all
  agree : all.take k = stretch seed 0 k

theorem checkBlock_triple {all : List UInt8} {n : Nat} (hfit : offset + length ≤ n)
    (hn : n ≤ all.length) (h : Checked seed path all offset stream u) :
    Triple (checkBlock (target v blockSize) offset length stream) u
      (Checked seed path all (offset + length))
      (fun f _ => ∃ k, f = .patternMismatch k ∧ FirstMismatch seed all n k) := by
  obtain ⟨w, e⟩ := u
  obtain ⟨rfl, rfl, hsound, rfl, hagree⟩ := h
  obtain ⟨hblock, hstream⟩ := @PatternStream.fill_after seed offset length
  unfold checkBlock
  generalize (PatternStream.after seed offset).fill length = filled at hblock hstream
  obtain ⟨expected, rest⟩ := filled
  dsimp only at hblock hstream hsound hagree hn ⊢
  have hmoved : w.device.transferLength length offset = length :=
    hsound.transferLength (by omega)
  have hjoin : ∀ m,
      stretch seed 0 offset ++ stretch seed offset m = stretch seed 0 (offset + m) := by
    intro m
    have happend := @stretch_append seed 0 offset m
    rwa [Nat.zero_add] at happend
  refine Triple.bind (R := fun r u => r.count = length ∧
    r.bytes.toList = (w.device.contents.drop offset).take length ∧
    u.2 = ⟨.read, offset + length⟩ ∧ u.1.device.Sound path ∧
    u.1.device.contents = w.device.contents) (Triple.orFault ?_) ?_
  · refine Bench.onDevice_triple (Triple.mono Disk.read_triple ?_ ?_)
    · rintro r _ ⟨-, rfl, rfl⟩
      rw [hmoved]
      refine ⟨rfl, ?_, rfl, hsound.moved w.device.data, rfl⟩
      rw [Buffer.toList_eq]
      simp [Disk.contents, List.extract_eq_take_drop]
    · rintro cause _ ⟨hmode, -⟩
      cases hmode
  rintro ⟨count, actual⟩ u' ⟨hcount, hactual, hhandle, hsound', hcontents⟩
  dsimp only at hcount hactual ⊢
  subst hcount
  rw [if_pos rfl]
  rw [Buffer.toList_eq, hblock, hactual]
  -- the block as part of all octets
  have hlength : (stretch seed offset count).length =
      ((w.device.contents.drop offset).take count).length := by
    rw [length_stretch, List.length_take, List.length_drop]
    omega
  cases hdiff : Buffer.firstDifference? (stretch seed offset count)
      ((w.device.contents.drop offset).take count) with
  | none =>
    have hsame := Buffer.eq_of_firstDifference? hlength hdiff
    refine Triple.pure ⟨hstream, hhandle, hsound', hcontents, ?_⟩
    rw [List.take_add, hagree, hsame, hjoin]
  | some position =>
    obtain ⟨hlt, hne, htake⟩ := Buffer.of_firstDifference? hdiff
    rw [length_stretch] at hlt
    refine Triple.throw ⟨offset + position, rfl, by omega, ?_, ?_⟩
    · rw [stretch_getElem? hlt, List.getElem?_take_of_lt hlt, List.getElem?_drop] at hne
      exact hne
    · rw [List.take_take, Nat.min_eq_left (Nat.le_of_lt hlt)] at htake
      rw [List.take_add, hagree, htake, stretch_take (Nat.le_of_lt hlt), hjoin]

-- the blocks may be of any size: each starts where the one before it ended

theorem writeBlocks_triple {size n : Nat} {positive : 0 < size} (hn : n ≤ old.length)
    (h : Written seed path old 0 stream u) :
    Triple (Blocks.run size positive (writeBlock (target v blockSize)) 0 n stream) u
      (Written seed path old n) (fun _ _ => False) := by
  refine Triple.blocks (Written seed path old) ?_ (Nat.zero_add n) h
  intro offset stream u hlt hw
  exact writeBlock_triple (by omega) hw

theorem checkBlocks_triple {all : List UInt8} {size n : Nat} {positive : 0 < size}
    (hn : n ≤ all.length) (h : Checked seed path all 0 stream u) :
    Triple (Blocks.run size positive (checkBlock (target v blockSize)) 0 n stream) u
      (Checked seed path all n)
      (fun f _ => ∃ k, f = .patternMismatch k ∧ FirstMismatch seed all n k) := by
  refine Triple.blocks (Checked seed path all) ?_ (Nat.zero_add n) h
  intro offset stream u hlt hc
  exact checkBlock_triple (by omega) hn hc

end

-- ---------------------------------------------------------------------------
-- Passes
-- ---------------------------------------------------------------------------

/-- What a pass over the first `n` octets makes of the contents, and what it
tells of them. -/
def Passed (seed : UInt32) (n : Nat) (before after : List UInt8) : ErasePass → Prop
  | .overwrite => after = stretch seed 0 n ++ before.drop n
  | .verify => after = before ∧ before.take n = stretch seed 0 n

section
variable {v : Volume} {blockSize : UInt64} {bytes : Option UInt64} {n : UInt64} {w : Bench Disk}

theorem length_triple {t : EraseTarget (Bench Disk) DiskHandle} {u : Bench Disk × DiskHandle}
    (ht : t.devices = Bench.onDisk.devices) (hsized : u.1.device.failSize = false)
    (hcovers : Covers bytes u.1.device.data.size n) :
    Triple (t.length bytes) u (fun total u' => total = n ∧ u' = u) (fun _ _ => False) := by
  rcases hcovers with ⟨rfl, -⟩ | ⟨rfl, hsize⟩
  · exact Triple.pure ⟨rfl, rfl⟩
  · refine Triple.orFault ?_
    rw [ht]
    refine Bench.onDevice_triple (Triple.mono Disk.size_triple ?_ ?_)
    · rintro total _ ⟨rfl, rfl⟩
      refine ⟨?_, rfl⟩
      rw [← hsize]
      exact UInt64.ofNat_toNat
    · rintro cause _ ⟨hfail, -⟩
      rw [hsized] at hfail
      cases hfail

theorem requireBlock_triple {τ : Type} {size : Nat} {t : τ} {E : Fault → τ → Prop}
    (hmax : size ≤ EraseTarget.maxBlock) :
    Triple (EraseTarget.requireBlock size) t (fun _ t' => t' = t) E :=
  Triple.of_ok (by rw [EraseTarget.requireBlock, if_pos hmax]; rfl) rfl

theorem run_triple (pass : ErasePass) (hpositive : 0 < blockSize.toNat)
    (hmax : blockSize.toNat ≤ EraseTarget.maxBlock)
    (hsound : w.device.Sound v.identity.device) (hcovers : Covers bytes w.device.data.size n) :
    Triple ((target v blockSize).run (.pattern pass bytes)) w
      (fun r w' => r = ⟨.pattern, n⟩ ∧ w'.device.Sound v.identity.device ∧
        Passed v.settings.erase.patternSeed n.toNat w.device.contents w'.device.contents pass)
      (fun f _ => pass = .verify ∧ ∃ k, f = .patternMismatch k ∧
        FirstMismatch v.settings.erase.patternSeed w.device.contents n.toNat k) := by
  rw [EraseTarget.run_eq hpositive]
  refine Triple.withHandle (J := fun u => u.2 = ⟨EraseTarget.passMode pass, 0⟩ ∧
    u.1.device.Sound v.identity.device ∧ u.1.device.data = w.device.data) ?_ ?_
  · refine Bench.openHandle_triple (Triple.mono Disk.openHandle_triple ?_ ?_)
    · rintro h _ ⟨-, rfl, rfl⟩
      exact ⟨rfl, hsound.counted, rfl⟩
    · rintro cause _ ⟨hpath, -⟩
      exact (hpath hsound.found).elim
  rintro u ⟨hhandle, hopen, hdata⟩
  have hcontents : u.1.device.contents = w.device.contents := by
    rw [Disk.contents, hdata]
    rfl
  have hfit : n.toNat ≤ w.device.contents.length := hcovers.le
  refine Triple.bind (Triple.mono (length_triple rfl hopen.sized (hdata ▸ hcovers)) (fun _ _ h => h)
    fun _ _ h => h.elim) ?_
  rintro total u ⟨rfl, rfl⟩
  refine Triple.bind (requireBlock_triple hmax) ?_
  rintro _ u rfl
  cases pass with
  | overwrite =>
    have hstart : Written v.settings.erase.patternSeed v.identity.device w.device.contents 0
        (.ofSeed v.settings.erase.patternSeed) u :=
      ⟨PatternStream.after_zero, hhandle, hopen, hcontents⟩
    refine Triple.bind (Triple.mono (writeBlocks_triple hfit hstart) (fun _ _ h => h)
      fun _ _ h => h.elim) ?_
    rintro stream ⟨w', h⟩ ⟨-, -, hsound', hwritten⟩
    refine Triple.bind (R := fun _ u => u.1.device.Sound v.identity.device ∧
      u.1.device.contents = w'.device.contents) (Triple.orFault ?_) ?_
    · refine Bench.onDevice_triple (Triple.mono Disk.sync_triple ?_ ?_)
      · rintro _ _ rfl
        exact ⟨hsound'.counted, rfl⟩
      · rintro cause _ ⟨hfail, -⟩
        rw [hsound'.flushed] at hfail
        cases hfail
    · rintro _ u ⟨hsynced, hkept⟩
      exact Triple.pure ⟨rfl, hsynced.counted, hkept.trans hwritten⟩
  | verify =>
    have hstart : Checked v.settings.erase.patternSeed v.identity.device w.device.contents 0
        (.ofSeed v.settings.erase.patternSeed) u :=
      ⟨PatternStream.after_zero, hhandle, hopen, hcontents, rfl⟩
    refine Triple.bind (Triple.mono (checkBlocks_triple hfit hstart) (fun _ _ h => h)
      fun _ _ h => ⟨rfl, h⟩) ?_
    rintro stream u ⟨-, -, hsound', hkept, hagree⟩
    exact Triple.pure ⟨rfl, hsound'.counted, hkept, hagree⟩

end

/-- The run fails, and says that the first mismatch is octet `k`. -/
def Reports (r : EStateM.Result Fault (Bench Disk) EraseReport) (k : Nat) : Prop :=
  ∃ f w, r = .error f w ∧ f.kind = .eraseError ∧ f.message = s!"pattern mismatch at byte {k}"

section
variable {v : Volume} {blockSize : UInt64} {bytes : Option UInt64} {n : UInt64} {w : Bench Disk}

theorem overwrite_run (hpositive : 0 < blockSize.toNat)
    (hmax : blockSize.toNat ≤ EraseTarget.maxBlock)
    (hsound : w.device.Sound v.identity.device) (hcovers : Covers bytes w.device.data.size n) :
    ∃ w₁, (target v blockSize).run (.pattern .overwrite bytes) w = .ok ⟨.pattern, n⟩ w₁ ∧
      w₁.device.Sound v.identity.device ∧
      w₁.device.contents =
        stretch v.settings.erase.patternSeed 0 n.toNat ++ w.device.contents.drop n.toNat := by
  have htriple := run_triple .overwrite hpositive hmax hsound hcovers
  rcases htriple.cases with ⟨_, w₁, hrun, rfl, hsound', hpassed⟩ | ⟨_, _, _, hpass, -⟩
  · exact ⟨w₁, hrun, hsound', hpassed⟩
  · cases hpass

theorem verify_run (hpositive : 0 < blockSize.toNat) (hmax : blockSize.toNat ≤ EraseTarget.maxBlock)
    (hsound : w.device.Sound v.identity.device) (hcovers : Covers bytes w.device.data.size n) :
    (∃ w₁, (target v blockSize).run (.pattern .verify bytes) w = .ok ⟨.pattern, n⟩ w₁ ∧
      w.device.contents.take n.toNat = stretch v.settings.erase.patternSeed 0 n.toNat) ∨
    ∃ k, FirstMismatch v.settings.erase.patternSeed w.device.contents n.toNat k ∧
      Reports ((target v blockSize).run (.pattern .verify bytes) w) k := by
  have htriple := run_triple .verify hpositive hmax hsound hcovers
  rcases htriple.cases with ⟨_, w₁, hrun, rfl, -, -, hagree⟩ | ⟨_, w₁, hrun, -, k, rfl, hfirst⟩
  · exact .inl ⟨w₁, hrun, hagree⟩
  · exact .inr ⟨k, hfirst, _, w₁, hrun, rfl, rfl⟩

end

/-- One octet changed after an overwrite is the first mismatch. -/
theorem firstMismatch_set {seed : UInt32} {rest : List UInt8} {n k : Nat} {x : UInt8} (hk : k < n)
    (hx : x ≠ octetAt seed k) :
    FirstMismatch seed ((stretch seed 0 n ++ rest).set k x) n k where
  lt := hk
  ne := by
    have hlength : k < (stretch seed 0 n ++ rest).length := by
      rw [List.length_append, length_stretch]
      omega
    rw [List.getElem?_set_self hlength]
    simpa using hx
  before := by
    have htake : (stretch seed 0 n ++ rest).take k = stretch seed 0 k := by
      rw [List.take_append_of_le_length (by rw [length_stretch]; omega), stretch_take (by omega)]
    rw [List.take_set_of_le (Nat.le_refl k), htake]

/-- An overwrite in blocks of one size, and verifications of any contents in
blocks of another. -/
theorem overwrite_then_verify {v : Volume} {size size' : UInt64} {bytes : Option UInt64}
    {n : UInt64} {w : Bench Disk} (hsize : 0 < size.toNat ∧ size.toNat ≤ EraseTarget.maxBlock)
    (hsize' : 0 < size'.toNat ∧ size'.toNat ≤ EraseTarget.maxBlock)
    (hsound : w.device.Sound v.identity.device) (hcovers : Covers bytes w.device.data.size n) :
    ∃ w₁, (target v size).run (.pattern .overwrite bytes) w = .ok ⟨.pattern, n⟩ w₁ ∧
      w₁.device.Sound v.identity.device ∧
      w₁.device.contents =
        stretch v.settings.erase.patternSeed 0 n.toNat ++ w.device.contents.drop n.toNat ∧
      ∀ w₂ : Bench Disk, w₂.device.Sound v.identity.device → Covers bytes w₂.device.data.size n →
        ((∃ w₃, (target v size').run (.pattern .verify bytes) w₂ = .ok ⟨.pattern, n⟩ w₃) ↔
          w₂.device.contents.take n.toNat = stretch v.settings.erase.patternSeed 0 n.toNat) ∧
        (w₂.device.contents.take n.toNat ≠ stretch v.settings.erase.patternSeed 0 n.toNat →
          ∃ k, FirstMismatch v.settings.erase.patternSeed w₂.device.contents n.toNat k ∧
            Reports ((target v size').run (.pattern .verify bytes) w₂) k) ∧
        ∀ k x, k < n.toNat → x ≠ octetAt v.settings.erase.patternSeed k →
          w₂.device.contents = w₁.device.contents.set k x →
          Reports ((target v size').run (.pattern .verify bytes) w₂) k := by
  obtain ⟨w₁, hrun, hsound₁, hcontents⟩ := overwrite_run hsize.1 hsize.2 hsound hcovers
  refine ⟨w₁, hrun, hsound₁, hcontents, fun w₂ hsound₂ hcovers₂ => ?_⟩
  rcases verify_run hsize'.1 hsize'.2 hsound₂ hcovers₂ with ⟨w₃, hok, hagree⟩ | ⟨k, hfirst, hreport⟩
  · refine ⟨⟨fun _ => hagree, fun _ => ⟨w₃, hok⟩⟩, fun hne => (hne hagree).elim, ?_⟩
    intro k x hk hx hset
    rw [hset, hcontents] at hagree
    exact ((firstMismatch_set hk hx).take_ne hagree).elim
  · refine ⟨⟨?_, fun hagree => (hfirst.take_ne hagree).elim⟩, fun _ => ⟨k, hfirst, hreport⟩, ?_⟩
    · rintro ⟨w₃, hok⟩
      obtain ⟨f, w₄, herror, -⟩ := hreport
      rw [hok] at herror
      cases herror
    · intro j x hj hx hset
      rw [hset, hcontents] at hfirst
      rw [← hfirst.unique (firstMismatch_set hj hx)]
      exact hreport

/-- Blocks of three octets are written and blocks of five read. -/
theorem overwrite_then_verify_sample :
    sample.world.device.Sound sample.volume.identity.device ∧
      Covers none sample.world.device.data.size 16 ∧
      ∃ w₁, (target sample.volume 3).run (.pattern .overwrite none) sample.world =
          .ok ⟨.pattern, 16⟩ w₁ ∧
        ∀ w₂ : Bench Disk, w₂.device.Sound sample.volume.identity.device →
          Covers none w₂.device.data.size 16 → ∀ k x, k < 16 →
          x ≠ octetAt sample.volume.settings.erase.patternSeed k →
          w₂.device.contents = w₁.device.contents.set k x →
          Reports ((target sample.volume 5).run (.pattern .verify none) w₂) k := by
  have hsound : sample.world.device.Sound sample.volume.identity.device :=
    ⟨rfl, rfl, rfl, rfl, rfl⟩
  have hcovers : Covers none sample.world.device.data.size 16 := .inr ⟨rfl, rfl⟩
  have hsize : 0 < (3 : UInt64).toNat ∧ (3 : UInt64).toNat ≤ EraseTarget.maxBlock := by decide
  have hsize' : 0 < (5 : UInt64).toNat ∧ (5 : UInt64).toNat ≤ EraseTarget.maxBlock := by decide
  obtain ⟨w₁, hrun, -, -, hverify⟩ := overwrite_then_verify hsize hsize' hsound hcovers
  exact ⟨hsound, hcovers, w₁, hrun, fun w₂ hsound₂ hcovers₂ => (hverify w₂ hsound₂ hcovers₂).2.2⟩

/-- No memory holds a block of every size there is. -/
theorem not_overwrite_every_size :
    ¬ ∀ (v : Volume) (size : UInt64) (bytes : Option UInt64) (n : UInt64) (w : Bench Disk),
      0 < size.toNat → w.device.Sound v.identity.device → Covers bytes w.device.data.size n →
        ∃ w₁, (target v size).run (.pattern .overwrite bytes) w = .ok ⟨.pattern, n⟩ w₁ := by
  intro h
  obtain ⟨w₁, hrun⟩ := h sample.volume 0x8000000000000000 none 16 sample.world (by decide)
    ⟨rfl, rfl, rfl, rfl, rfl⟩ (.inr ⟨rfl, rfl⟩)
  cases hrun

end PatternErase

end EmmcVault
