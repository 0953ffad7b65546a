import EmmcVault.Linux.BlockDevice
import EmmcVault.Linux.Sandbox.Host
import EmmcVault.Proofs.InStep
import EmmcVault.Proofs.PatternErase
import EmmcVault.Proofs.SandboxTree

/-!
# An image file stands in for a card

A regular file that the kernel reads and writes in full is a plain store, and
so is an in-memory disk that is no card and fails nothing. Therefore whatever
is erased or enabled through a volume, the one cannot be told from the other.
-/

namespace EmmcVault

open Text

variable {κ σ η : Type}

-- ---------------------------------------------------------------------------
-- The two stores
-- ---------------------------------------------------------------------------

namespace Memory.Disk

/-- The device at `path`, moving all that is asked for and failing nothing, and
no card. -/
structure Plain (d : Disk) (path : Path) : Prop extends d.Sound path where
  cardless : d.register = none

def store (path : Path) : Store Disk DiskHandle where
  holds d content := d.Plain path ∧ d.data = content
  opened u content mode position := u.1.Plain path ∧ u.1.data = content ∧ u.2 = ⟨mode, position⟩

theorem Plain.moved {d : Disk} {path : Path} (h : d.Plain path) (data : ByteArray) :
    { d.afterTransfer with data }.Plain path :=
  ⟨h.toSound.moved data, h.cardless⟩

/-- The counters of a disk do not matter. -/
theorem Plain.counted {d : Disk} {path : Path} (h : d.Plain path) {syncs openHandles opens : Nat}
    {commands : List Mmc.Command} : { d with syncs, commands, openHandles, opens }.Plain path :=
  ⟨⟨h.found, h.uncapped, h.unstalled, h.sized, h.flushed⟩, h.cardless⟩

theorem store_lawful {path : Path} : (store path).Lawful devices path where
  openHandle := by
    rintro d _ mode ⟨hplain, rfl⟩
    exact ⟨⟨mode, 0⟩, _, if_pos hplain.found, hplain.counted, rfl, rfl⟩
  read := by
    rintro ⟨d, h⟩ _ mode position length ⟨hplain, rfl, rfl⟩ hmode hfit
    dsimp only at hplain hfit
    have hmoved : d.transferLength length position = length := hplain.transferLength hfit
    have hends : Triple (read length) (d, ⟨mode, position⟩) _ _ := read_triple
    obtain ⟨_, _, hx, -, rfl, rfl⟩ | ⟨_, _, -, hunreadable, -⟩ := hends.cases
    · simp only [hmoved] at hx
      exact ⟨_, hx, hplain.moved d.data, rfl, rfl⟩
    · exact absurd hmode (by simp [hunreadable])
  write := by
    rintro ⟨d, h⟩ _ mode position bytes ⟨hplain, rfl, rfl⟩ hmode hfit
    dsimp only at hplain hfit
    have hmoved : d.transferLength bytes.size position = bytes.size := hplain.transferLength hfit
    have hends : Triple (write bytes) (d, ⟨mode, position⟩) _ _ := write_triple
    obtain ⟨_, _, hx, -, rfl, rfl⟩ | ⟨_, _, -, hunwritable, -⟩ := hends.cases
    · simp only [hmoved, ByteArray.extract_zero_size] at hx
      exact ⟨_, hx, hplain.moved _, rfl, rfl⟩
    · exact absurd hmode (by simp [hunwritable])
  sync := by
    rintro ⟨d, h⟩ _ mode position ⟨hplain, rfl, rfl⟩
    dsimp only at hplain
    exact ⟨_, if_neg (by simp [hplain.flushed]), hplain.counted, rfl, rfl⟩
  size := by
    rintro ⟨d, h⟩ _ mode position ⟨hplain, rfl, rfl⟩
    dsimp only at hplain
    exact ⟨_, if_neg (by simp [hplain.sized]), hplain, rfl, rfl⟩
  command := by
    rintro ⟨d, h⟩ _ mode position c data ⟨hplain, rfl, rfl⟩
    dsimp only at hplain
    have hends : Triple (command c data) (d, ⟨mode, position⟩) _ _ := command_triple
    obtain ⟨_, _, -, -, register, hr, -⟩ | ⟨cause, _, hx, -, rfl⟩ := hends.cases
    · exact absurd hr (by simp [hplain.cardless])
    · exact ⟨cause, _, hx, hplain.counted, rfl, rfl⟩
  close := by
    rintro ⟨d, h⟩ _ mode position ⟨hplain, rfl, rfl⟩
    exact ⟨hplain.counted, rfl⟩

end Memory.Disk

namespace Linux

-- ---------------------------------------------------------------------------
-- Regular files
-- ---------------------------------------------------------------------------

/-- The file at `path` is a regular one, which the kernel opens, reads and
writes in full within its length, and tells the length of. -/
structure Host.Image (h : Host σ η) (k : Store σ η) (path : Path) : Prop where
  openFile : ∀ {s content} mode, k.holds s content →
    ∃ e t, h.openFile path mode s = .ok e t ∧ k.opened (t, e) content mode 0
  isRegular : ∀ {u content mode position}, k.opened u content mode position → h.isRegular u = true
  read : ∀ {u content mode position} length, k.opened u content mode position →
    mode.readable = true → position + length ≤ content.size →
    ∃ u', h.read length u = .ok (content.extract position (position + length)) u' ∧
      k.opened u' content mode (position + length)
  write : ∀ {u content mode position} bytes, k.opened u content mode position →
    mode.writable = true → position + bytes.size ≤ content.size →
    ∃ u', h.write bytes u = .ok bytes.size u' ∧
      k.opened u' (Buffer.overlay content position bytes) mode (position + bytes.size)
  sync : ∀ {u content mode position}, k.opened u content mode position →
    ∃ u', h.sync u = .ok () u' ∧ k.opened u' content mode position
  length : ∀ {u content mode position}, k.opened u content mode position →
    ∃ u', h.length u = .ok content.size.toUInt64 u' ∧ k.opened u' content mode position
  close : ∀ {u content mode position}, k.opened u content mode position →
    k.holds (h.close u) content

/-- A file opened as a device. -/
def DeviceHandle.store (k : Store σ η) : Store σ (DeviceHandle η) where
  holds := k.holds
  opened u content mode position :=
    u.2.regular = true ∧ k.opened (u.1, u.2.file) content mode position

theorem Host.onFile_ok {ε α : Type} {call : EStateM ε (σ × η) α} {fault : ε → BackendError}
    {s : σ} {e : DeviceHandle η} {a : α} {u : σ × η} (h : call (s, e.file) = .ok a u) :
    onFile call fault (s, e) = .ok a (u.1, { e with file := u.2 }) := by
  simp only [onFile, h]

theorem Host.Image.lawful {h : Host σ η} {k : Store σ η} {path : Path} (image : h.Image k path) :
    (DeviceHandle.store k).Lawful h.blockDevices path where
  openHandle := by
    intro s content mode hs
    obtain ⟨e, t, hx, ho⟩ := image.openFile mode hs
    refine ⟨⟨path, h.isRegular (t, e), e⟩, t, ?_, image.isRegular ho, ho⟩
    simp only [Host.blockDevices, Host.openDevice, hx]
  read := by
    rintro ⟨s, e⟩ content mode position length ⟨hregular, ho⟩ hmode hfit
    obtain ⟨u', hx, ho'⟩ := image.read length ho hmode hfit
    have hsize : (content.extract position (position + length)).size = length := by
      rw [ByteArray.size_extract, Nat.min_eq_left hfit, Nat.add_sub_cancel_left]
    have hfile : onFile (h.read length) (.io "read") (s, e) = .ok _ _ := onFile_ok hx
    refine ⟨(u'.1, { e with file := u'.2 }), ?_, hregular, ho'⟩
    show EStateM.bind (onFile (h.read length) (.io "read")) _ (s, e) = _
    rw [EStateM.bind, hfile]
    dsimp only
    rw [hsize]
    rfl
  write := by
    rintro ⟨s, e⟩ content mode position bytes ⟨hregular, ho⟩ hmode hfit
    obtain ⟨u', hx, ho'⟩ := image.write bytes ho hmode hfit
    exact ⟨_, onFile_ok hx, hregular, ho'⟩
  sync := by
    rintro ⟨s, e⟩ content mode position ⟨hregular, ho⟩
    obtain ⟨u', hx, ho'⟩ := image.sync ho
    exact ⟨_, onFile_ok hx, hregular, ho'⟩
  size := by
    rintro ⟨s, e⟩ content mode position ⟨hregular, ho⟩
    obtain ⟨u', hx, ho'⟩ := image.length ho
    refine ⟨(u'.1, { e with file := u'.2 }), ?_, hregular, ho'⟩
    show (if e.regular = true then onFile h.length (.io "size_bytes") else _) (s, e) = _
    rw [if_pos hregular]
    exact onFile_ok hx
  command := by
    rintro ⟨s, e⟩ content mode position c data ⟨hregular, ho⟩
    refine ⟨.failed "mmc_command" s!"{e.path} is not an MMC device", (s, e), ?_, hregular, ho⟩
    show (ite (e.regular = true) (throw _) _ : Call (σ × DeviceHandle η) ByteArray) (s, e) = _
    rw [if_pos hregular]
    rfl
  close := by
    rintro ⟨s, e⟩ content mode position ⟨-, ho⟩
    exact image.close ho

namespace Sandbox

def image (path : Path) : Store Sandbox FileHandle where
  holds s content := ∃ place permissions,
    find s.tree s.current path = .ok (place, .file ⟨content, permissions⟩)
  opened u content mode position :=
    (∃ permissions, find u.1.tree u.1.current path = .ok (u.2.place, .file ⟨content, permissions⟩)) ∧
      u.2.mode = mode ∧ u.2.position = position

theorem content_of_find {s : Sandbox} {e : FileHandle} {path : Path} {f : File}
    (h : find s.tree s.current path = .ok (e.place, .file f)) :
    Sandbox.content s e = f.content := by
  simp [Sandbox.content, Tree.file?, (find_file_iff.mp h).2]

/-- A write is taken in full, also at the end of a file and across it. -/
theorem image_write {path : Path} {u : Sandbox × FileHandle} {content : ByteArray}
    {mode : OpenMode} {position : Nat} (bytes : ByteArray)
    (ho : (image path).opened u content mode position) (hmode : mode.writable = true) :
    ∃ u', host.write bytes u = .ok bytes.size u' ∧
      (image path).opened u' (Buffer.overlay content position bytes) mode
        (position + bytes.size) := by
  obtain ⟨s, e⟩ := u
  obtain ⟨⟨permissions, hfind⟩, rfl, rfl⟩ := ho
  have hbytes : Sandbox.content s e = content := content_of_find hfind
  refine ⟨({ s with tree := s.tree.setContent e.place (Buffer.overlay content e.position bytes) },
    { e with position := e.position + bytes.size }), ?_,
    ⟨permissions, find_setContent hfind⟩, rfl, rfl⟩
  simp [host, write, hmode, hbytes]

/-- The machine in memory does what is asked of a kernel. -/
theorem image_host {path : Path} : host.Image (image path) path where
  openFile := by
    rintro s content mode ⟨place, permissions, hfind⟩
    refine ⟨{ place, mode }, s, ?_, ⟨permissions, hfind⟩, rfl, rfl⟩
    simp [host, openFile, onTree, hfind, bind, Except.bind]
    rfl
  isRegular := by
    rintro ⟨s, e⟩ content mode position ⟨⟨permissions, hfind⟩, -⟩
    simp [host, isRegular, Tree.file?, (find_file_iff.mp hfind).2]
  read := by
    rintro ⟨s, e⟩ content mode position length ⟨⟨permissions, hfind⟩, rfl, rfl⟩ hmode hfit
    have hbytes : Sandbox.content s e = content := content_of_find hfind
    have hfile : s.tree.isDirectory e.place = false := by
      simp [Tree.isDirectory, (find_file_iff.mp hfind).2]
    have hsize : (content.extract e.position (e.position + length)).size = length := by
      rw [ByteArray.size_extract, Nat.min_eq_left hfit, Nat.add_sub_cancel_left]
    refine ⟨(s, { e with position := e.position + length }), ?_, ⟨permissions, hfind⟩, rfl, rfl⟩
    simp [host, read, hmode, hfile, hbytes, hsize]
  write bytes ho hmode _ := image_write bytes ho hmode
  sync := by
    rintro ⟨s, e⟩ content mode position ⟨⟨permissions, hfind⟩, rfl, rfl⟩
    have hnode := (find_file_iff.mp hfind).2
    refine ⟨(s, e), ?_, ⟨permissions, hfind⟩, rfl, rfl⟩
    simp [host, sync, hnode]
  length := by
    rintro ⟨s, e⟩ content mode position ⟨⟨permissions, hfind⟩, rfl, rfl⟩
    have hbytes : Sandbox.content s e = content := content_of_find hfind
    refine ⟨(s, e), ?_, ⟨permissions, hfind⟩, rfl, rfl⟩
    simp [host, Sandbox.length, hbytes]
  close := by
    rintro ⟨s, e⟩ content mode position ⟨⟨permissions, hfind⟩, -⟩
    have hclosed : (close (s, e)).tree = s.tree ∧ (close (s, e)).current = s.current := by
      by_cases hlock : e.holdsLock = true <;> simp [close, hlock]
    refine ⟨e.place, permissions, ?_⟩
    show find (close (s, e)).tree (close (s, e)).current path = _
    rw [hclosed.1, hclosed.2]
    exact hfind

end Sandbox

end Linux

-- ---------------------------------------------------------------------------
-- Operations on both
-- ---------------------------------------------------------------------------

/-- What can be told of an outcome: the answer, or the kind of the failure and
whether it ends the program. -/
def Operation.seen (outcome : Except Failure Operation.Answer) :
    Except (ErrorKind × Bool) Operation.Answer :=
  outcome.mapError fun f => (f.kind, f.fault.exceedsMachine)

/-- An erase of no more than `n` bytes, or the enabling of background
operations. -/
def Operation.Within (n : Nat) : Operation → Prop
  | .erase request => ∀ m, request.bytes? = some m → m.toNat ≤ n
  | .enableBkops => True
  | _ => False

section
variable {σ' η' : Type} {k : Store σ η} {k' : Store σ' η'} {d : BlockDevices σ η}
  {d' : BlockDevices σ' η'} {v : Volume} {n : Nat} {w : κ × σ} {w' : κ × σ'}
  (crypto : CryptoBackend κ) (f : FilesystemBackend κ)

theorem Operation.run_inStep (laws : k.Lawful d v.identity.device)
    (laws' : k'.Lawful d' v.identity.device) {operation : Operation} (ho : operation.Within n)
    (hw : Stored k k' n w w') :
    InStep (operation.run (Beside.backends crypto f d) v)
      (operation.run (Beside.backends crypto f d') v) w w'
      (fun r t t' => r.2 = v ∧ Stored k k' n t t')
      fun e e' t t' => e.fault.Alike e'.fault ∧ Stored k k' n t t' := by
  rw [Operation.run_eq, Operation.run_eq]
  cases operation with
  | erase request =>
    exact InStep.bind (Volume.erase_inStep laws laws' rfl hw ho) fun _ t t' ht =>
      InStep.pure ⟨rfl, ht⟩
  | enableBkops =>
    exact InStep.bind (Volume.enableBkops_inStep laws laws' rfl hw) fun _ t t' ht =>
      InStep.pure ⟨rfl, ht⟩
  | _ => cases ho

theorem Managed.perform_inStep (laws : k.Lawful d v.identity.device)
    (laws' : k'.Lawful d' v.identity.device) {operation : Operation} (ho : operation.Within n)
    (hw : Stored k k' n w w') :
    ∃ o o' t t', (Managed.mk v w).perform (Beside.backends crypto f d) operation = (o, ⟨v, t⟩) ∧
      (Managed.mk v w').perform (Beside.backends crypto f d') operation = (o', ⟨v, t'⟩) ∧
      Operation.seen o' = Operation.seen o ∧ Stored k k' n t t' := by
  have hends : InStep (operation.run (Beside.backends crypto f d) v)
    (operation.run (Beside.backends crypto f d') v) w w' _ _ :=
    Operation.run_inStep crypto f laws laws' ho hw
  obtain ⟨⟨answer, v'⟩, t, t', hx, hx', hv, ht⟩ | ⟨e, e', t, t', hx, hx', ha, ht⟩ := hends.cases
  · obtain rfl : v' = v := hv
    refine ⟨.ok answer, .ok answer, t, t', ?_, ?_, rfl, ht⟩
    · simp only [Managed.perform_eq, hx]
    · simp only [Managed.perform_eq, hx']
  · refine ⟨.error e, .error e', t, t', ?_, ?_, ?_, ht⟩
    · simp only [Managed.perform_eq, hx]
    · simp only [Managed.perform_eq, hx']
    · show Except.error (e'.fault.kind, _) = Except.error (e.fault.kind, _)
      rw [ha.kind, ha.exceedsMachine]

/-- Two plain stores with the same content cannot be told apart. -/
theorem Managed.performAll_inStep (laws : k.Lawful d v.identity.device)
    (laws' : k'.Lawful d' v.identity.device) {operations : List Operation}
    (ho : ∀ operation ∈ operations, operation.Within n) (hw : Stored k k' n w w') :
    ∃ os os' t t',
      (Managed.mk v w).performAll (Beside.backends crypto f d) operations = (os, ⟨v, t⟩) ∧
      (Managed.mk v w').performAll (Beside.backends crypto f d') operations = (os', ⟨v, t'⟩) ∧
      os'.map Operation.seen = os.map Operation.seen ∧ Stored k k' n t t' := by
  induction operations generalizing w w' with
  | nil => exact ⟨[], [], w, w', rfl, rfl, rfl, hw⟩
  | cons operation rest ih =>
    obtain ⟨hoperation, hrest⟩ := List.forall_mem_cons.mp ho
    obtain ⟨o, o', t, t', hx, hx', hseen, ht⟩ :=
      Managed.perform_inStep crypto f laws laws' hoperation hw
    obtain ⟨os, os', t₁, t₁', hxs, hxs', hseens, ht₁⟩ := ih hrest ht
    refine ⟨o :: os, o' :: os', t₁, t₁', ?_, ?_, ?_, ht₁⟩
    · simp only [Managed.performAll, hx, hxs]
    · simp only [Managed.performAll, hx', hxs']
    · rw [List.map_cons, List.map_cons, hseen, hseens]

end

open Linux Memory in
/-- Erases of an image file and of an in-memory disk with the same content,
and attempts to enable their background operations, give the same reports and
fail for the same kinds of reasons, step by step, and leave the same content. -/
theorem Linux.Host.Image.like_disk {h : Host σ η} {k : Store σ η} {v : Volume}
    (image : h.Image k v.identity.device) (crypto : CryptoBackend κ) (f : FilesystemBackend κ)
    {w : κ} {s : σ} {d : Disk} (hs : k.holds s d.data) (hd : d.Plain v.identity.device)
    {operations : List Operation} (ho : ∀ operation ∈ operations, operation.Within d.data.size) :
    let onImage := (Managed.mk v (w, s)).performAll (Beside.backends crypto f h.blockDevices)
      operations
    let onDisk := (Managed.mk v (w, d)).performAll (Beside.backends crypto f Disk.devices)
      operations
    onImage.1.map Operation.seen = onDisk.1.map Operation.seen ∧
      onImage.2.volume = onDisk.2.volume ∧ onImage.2.world.1 = onDisk.2.world.1 ∧
      k.holds onImage.2.world.2 onDisk.2.world.2.data := by
  have hw : Stored (DeviceHandle.store k) (Disk.store v.identity.device) d.data.size (w, s) (w, d) :=
    ⟨rfl, d.data, rfl, hs, hd, rfl⟩
  obtain ⟨os, os', t, t', hx, hx', hseen, hbeside, content, -, hk, -, hdata⟩ :=
    Managed.performAll_inStep crypto f image.lawful Disk.store_lawful ho hw
  rw [hx, hx']
  refine ⟨hseen.symm, rfl, hbeside.symm, ?_⟩
  rw [hdata]
  exact hk

open Linux Memory Sandbox in
/-- Four of them on sixteen octets. -/
theorem Linux.Host.Image.like_disk_sample :
    let tree : Sandbox.Tree := ⟨[([Utf8.encode "dev"], .directory),
      ([Utf8.encode "dev", Utf8.encode "mmcblk0p5"], .file ⟨sample.world.device.data, 0o644⟩)]⟩
    let operations : List Operation := [.erase (.zero .overwrite none), .enableBkops,
      .erase (.pattern .verify (some 8)), .erase (.sanitize none none)]
    let onImage := (Managed.mk sample.volume (({ device := () } : Bench Unit), { tree })).performAll
      (Beside.backends Bench.crypto Bench.filesystem host.blockDevices) operations
    let onDisk := (Managed.mk sample.volume (({ device := () } : Bench Unit),
      sample.world.device)).performAll
      (Beside.backends Bench.crypto Bench.filesystem Disk.devices) operations
    onDisk.1.map Operation.seen = [.ok (.erased ⟨.zero, 16⟩), .error (.bkopsIoctlFailure, false),
        .error (.eraseError, false), .error (.internalFailure, false)] ∧
      onImage.1.map Operation.seen = onDisk.1.map Operation.seen ∧
      (image sample.volume.identity.device).holds onImage.2.world.2 onDisk.2.world.2.data := by
  intro tree operations
  have hplain : sample.world.device.Plain sample.volume.identity.device :=
    ⟨⟨by decide, rfl, rfl, rfl, rfl⟩, rfl⟩
  have hholds : (image sample.volume.identity.device).holds { tree } sample.world.device.data :=
    ⟨_, _, rfl⟩
  have hwithin : ∀ operation ∈ operations, operation.Within sample.world.device.data.size := by
    refine List.forall_mem_cons.mpr ⟨nofun, List.forall_mem_cons.mpr ⟨trivial,
      List.forall_mem_cons.mpr ⟨fun m hm => ?_, List.forall_mem_singleton.mpr nofun⟩⟩⟩
    cases hm
    decide
  obtain ⟨hseen, -, -, hcontent⟩ := image_host.like_disk (v := sample.volume) Bench.crypto
    Bench.filesystem (w := ({ device := () } : Bench Unit)) hholds hplain hwithin
  refine ⟨?_, hseen, hcontent⟩
  decide +kernel

end EmmcVault
