import EmmcVault.Erase.Engine
import EmmcVault.Proofs.Transition

/-!
# What an operation asks of the device

The mode in which each operation opens the device and the requests it makes of
it while it is open. What these requests leave alone the operation leaves
alone, whatever the device answers and wherever the operation stops.
-/

namespace EmmcVault

open Text

variable {σ η : Type}

/-- A request to an open device. -/
inductive DeviceRequest where
  | read (length : Nat)
  | write (bytes : ByteArray)
  | sync
  | size
  | command (c : Mmc.Command) (data : ByteArray)

/-- The request leaves `J` true, whatever comes of it. -/
def DeviceRequest.Respects (d : BlockDevices σ η) (J : σ × η → Prop) : DeviceRequest → Prop
  | .read length => Keeps J (fun _ => True) (d.read length)
  | .write bytes => Keeps J (fun _ => True) (d.write bytes)
  | .sync => Keeps J (fun _ => True) d.sync
  | .size => Keeps J (fun _ => True) d.size
  | .command c data => Keeps J (fun _ => True) (d.command c data)

namespace EraseRequest

/-- The mode the device is opened in; key destruction does not open it. -/
def mode? : EraseRequest → Option OpenMode
  | .verifyGeometry => some .read
  | .pattern pass _ | .zero pass _ => some (EraseTarget.passMode pass)
  | .sanitize .. => some .readWrite
  | .cryptoErase => none

/-- The requests an erase makes of the open device. -/
inductive Asks : EraseRequest → DeviceRequest → Prop
  | geometrySize : Asks .verifyGeometry .size
  | patternSize {pass} : Asks (.pattern pass none) .size
  | patternWrite {bytes block} : Asks (.pattern .overwrite bytes) (.write block)
  | patternSync {bytes} : Asks (.pattern .overwrite bytes) .sync
  | patternRead {bytes length} : Asks (.pattern .verify bytes) (.read length)
  | zeroSize {pass} : Asks (.zero pass none) .size
  | zeroWrite {bytes block} : Asks (.zero .overwrite bytes) (.write block)
  | zeroSync {bytes} : Asks (.zero .overwrite bytes) .sync
  | zeroRead {bytes length} : Asks (.zero .verify bytes) (.read length)
  | sanitizeSize {register} : Asks (.sanitize none register) .size
  | sanitizeRegister {bytes data} : Asks (.sanitize bytes none) (.command .sendExtCsd data)
  | sanitizeStart {bytes register timeout} :
      Asks (.sanitize bytes register) (.command (.startSanitize timeout) .empty)

end EraseRequest

/-- A fault of an operation that the lock state did not rule out. -/
def Fault.Admitted (f : Fault) : Prop := f.kind ≠ .invalidState

theorem Fault.admitted_internal {step : Step} {cause : BackendError} :
    (Fault.internal step cause).Admitted := by
  simp [Fault.Admitted, Fault.internal, Fault.kind]

theorem Fault.admitted_opening {cause : BackendError} : (Fault.opening cause).Admitted := by
  cases h : cause.isNotFound <;> simp [Fault.Admitted, Fault.opening, Fault.kind, h]

theorem GeometryBounds.require_admitted {b : GeometryBounds} {bytes : UInt64} {f : Fault}
    (h : b.require bytes = .error f) : f.Admitted := by
  unfold GeometryBounds.require at h
  split at h <;> cases h <;> simp [Fault.Admitted, Fault.kind]

theorem SanitizePlan.ofRegister_admitted {register : Mmc.ExtCsd} {expected : UInt64} {f : Fault}
    (h : SanitizePlan.ofRegister register expected = .error f) : f.Admitted := by
  rw [Fault.Admitted, SanitizePlan.ofRegister_kind h]
  exact nofun

-- ---------------------------------------------------------------------------
-- Parts of an erase
-- ---------------------------------------------------------------------------

section
variable {t : EraseTarget σ η} {J : σ × η → Prop}

theorem BlockDevices.readExtCsd_keeps {d : BlockDevices σ η}
    (h : ∀ data, (DeviceRequest.command .sendExtCsd data).Respects d J) :
    Keeps J (fun _ => True) d.readExtCsd := by
  unfold BlockDevices.readExtCsd
  refine Keeps.bind (h _) fun data => ?_
  split
  · exact Keeps.pure
  · exact Keeps.throw trivial

theorem EraseTarget.length_keeps {bytes : Option UInt64}
    (h : bytes = none → DeviceRequest.size.Respects t.devices J) :
    Keeps J Fault.Admitted (t.length bytes) := by
  cases bytes with
  | none => exact Keeps.orFault (h rfl) fun _ => Fault.admitted_internal
  | some n => exact Keeps.pure

theorem EraseTarget.requireBlock_keeps {I : τ → Prop} {size : Nat} :
    Keeps I Fault.Admitted (EraseTarget.requireBlock size) := by
  unfold EraseTarget.requireBlock
  split
  · exact Keeps.pure
  · exact Keeps.throw (by simp [Fault.Admitted, Fault.kind])

theorem PatternErase.writeBlock_keeps
    (h : ∀ bytes, (DeviceRequest.write bytes).Respects t.devices J)
    {offset length : Nat} {stream : PatternStream} :
    Keeps J Fault.Admitted (PatternErase.writeBlock t offset length stream) := by
  unfold PatternErase.writeBlock
  refine Keeps.bind (Keeps.orFault (h _) fun _ => by simp [Fault.Admitted, Fault.kind]) fun n => ?_
  split
  · exact Keeps.pure
  · exact Keeps.throw (by simp [Fault.Admitted, Fault.kind])

theorem PatternErase.checkBlock_keeps (h : ∀ n, (DeviceRequest.read n).Respects t.devices J)
    {offset length : Nat} {stream : PatternStream} :
    Keeps J Fault.Admitted (PatternErase.checkBlock t offset length stream) := by
  unfold PatternErase.checkBlock
  refine Keeps.bind (Keeps.orFault (h _) fun _ => by simp [Fault.Admitted, Fault.kind]) fun n => ?_
  split
  · split
    · exact Keeps.throw (by simp [Fault.Admitted, Fault.kind])
    · exact Keeps.pure
  · exact Keeps.throw (by simp [Fault.Admitted, Fault.kind])

theorem ZeroErase.transfer_keeps {I : τ → Prop} {direction : Direction} {offset length : Nat}
    {attempts : UInt32} {step : Nat → ByteArray → Call τ (Nat × ByteArray)}
    (h : ∀ done buffer, Keeps I (fun _ => True) (step done buffer)) {left done : Nat}
    {buffer : ByteArray} :
    Keeps I Fault.Admitted
      (ZeroErase.transfer direction offset length attempts step left done buffer) := by
  induction left generalizing done buffer with
  | zero =>
    unfold ZeroErase.transfer
    split
    · exact Keeps.throw (by simp [Fault.Admitted, Fault.kind])
    · exact Keeps.pure
  | succ left ih =>
    unfold ZeroErase.transfer
    split
    · refine Keeps.bind (Keeps.orFault (h _ _) fun _ => Fault.admitted_internal) ?_
      rintro ⟨moved, b⟩
      dsimp only
      split
      · exact Keeps.throw (by simp [Fault.Admitted, Fault.kind])
      · exact ih
    · exact Keeps.pure

theorem ZeroErase.writeBlock_keeps (h : ∀ bytes, (DeviceRequest.write bytes).Respects t.devices J)
    {offset length : Nat} {u : Unit} :
    Keeps J Fault.Admitted (ZeroErase.writeBlock t offset length u) :=
  Keeps.bind (ZeroErase.transfer_keeps fun _ _ => Keeps.bind (h _) fun _ => Keeps.pure)
    fun _ => Keeps.pure

theorem ZeroErase.checkBlock_keeps (h : ∀ n, (DeviceRequest.read n).Respects t.devices J)
    {offset length : Nat} {u : Unit} :
    Keeps J Fault.Admitted (ZeroErase.checkBlock t offset length u) := by
  refine Keeps.bind (ZeroErase.transfer_keeps fun _ _ => Keeps.bind (h _) fun _ => Keeps.pure)
    fun block => ?_
  split
  · exact Keeps.throw (by simp [Fault.Admitted, Fault.kind])
  · exact Keeps.pure

end

-- ---------------------------------------------------------------------------
-- Operations on the open device
-- ---------------------------------------------------------------------------

/-- The calls of a key destruction leave `K` true. -/
structure CryptoBackend.KeepsErasing (c : CryptoBackend σ) (device : Path) (K : σ → Prop) :
    Prop where
  load : Keeps K (fun _ => True) (c.load device)
  maxKeyslots : ∀ version, Keeps K (fun _ => True) (c.maxKeyslots version)
  keyslotStatus : ∀ slot, Keeps K (fun _ => True) (c.keyslotStatus device slot)
  destroyKeyslot : ∀ slot, Keeps K (fun _ => True) (c.destroyKeyslot device slot)

section
variable {t : EraseTarget σ η} {J : σ × η → Prop} {K : σ → Prop} {s : σ}

theorem CryptoErase.destroyFrom_keeps (h : t.crypto.KeepsErasing t.device K) {left : Nat}
    {slot : UInt32} {destroyed : UInt64} :
    Keeps K Fault.Admitted (CryptoErase.destroyFrom t left slot destroyed) := by
  induction left generalizing slot destroyed with
  | zero => exact Keeps.pure
  | succ left ih =>
    unfold CryptoErase.destroyFrom
    refine Keeps.bind (Keeps.orFault (h.keyslotStatus _) fun _ => Fault.admitted_internal)
      fun status => ?_
    split
    · exact Keeps.bind (Keeps.orFault (h.destroyKeyslot _) fun _ => Fault.admitted_internal)
        fun _ => ih
    · exact ih

theorem CryptoErase.run_keeps (h : t.crypto.KeepsErasing t.device K) :
    Keeps K Fault.Admitted (CryptoErase.run t) :=
  Keeps.bind (Keeps.orFault h.load fun _ => by simp [Fault.Admitted, Fault.notFound, Fault.kind])
    fun _ => Keeps.bind (Keeps.orFault (h.maxKeyslots _) fun _ => Fault.admitted_internal)
    fun _ => Keeps.bind (destroyFrom_keeps h) fun _ => Keeps.pure

/-- What is done to an open device counts only while it is open: `J` holds
from opening to closing and gives `K` there. -/
structure BlockDevices.Brackets (d : BlockDevices σ η) (path : Path) (mode : OpenMode) (s : σ)
    (J : σ × η → Prop) (K : σ → Prop) : Prop where
  opening : Triple (d.openHandle path mode) s (fun h s' => J (s', h)) (fun _ => K)
  closing : ∀ u, J u → K (d.close u)

theorem BlockDevices.Brackets.withHandle {d : BlockDevices σ η} {path : Path} {mode : OpenMode}
    (h : d.Brackets path mode s J K) {F : ε → Prop} {refused : BackendError → ε}
    {body : EStateM ε (σ × η) α} (hf : ∀ cause, F (refused cause)) (hb : Keeps J F body) :
    Triple (d.withHandle path mode refused body) s (fun _ => K) (fun e s' => K s' ∧ F e) :=
  Triple.withHandle (Triple.mono h.opening (fun _ _ hj => hj) fun _ _ hk => ⟨hk, hf _⟩)
    fun u hu => Triple.mono (hb u hu) (fun _ u' hj => h.closing u' hj)
      fun _ u' hj => ⟨h.closing u' hj.1, hj.2⟩

/-- An erase that opens the device ends where the device was closed, or was not
opened. -/
theorem EraseTarget.run_opened {request : EraseRequest} {mode : OpenMode}
    (positive : 0 < t.settings.blockSize.toNat) (hm : request.mode? = some mode)
    (hdevice : t.devices.Brackets t.device mode s J K)
    (hasks : ∀ q, request.Asks q → q.Respects t.devices J) :
    Triple (t.run request) s (fun _ => K) (fun f s' => K s' ∧ f.Admitted) := by
  rw [EraseTarget.run_eq positive]
  cases request with
  | verifyGeometry =>
    cases hm
    refine hdevice.withHandle (fun _ => Fault.admitted_opening) ?_
    refine Keeps.bind (Keeps.orFault (hasks _ .geometrySize) fun _ => Fault.admitted_internal)
      fun bytes => ?_
    exact Keeps.bind (Keeps.ofExcept fun _ => GeometryBounds.require_admitted)
      fun _ => Keeps.pure
  | pattern pass bytes =>
    cases hm
    refine hdevice.withHandle (fun _ => Fault.admitted_opening) ?_
    refine Keeps.bind (EraseTarget.length_keeps fun h => hasks _ (h ▸ .patternSize))
      fun total => Keeps.bind EraseTarget.requireBlock_keeps fun _ => ?_
    cases pass with
    | overwrite =>
      refine Keeps.bind (Keeps.blocks fun _ _ _ => PatternErase.writeBlock_keeps
        fun _ => hasks _ .patternWrite) fun _ => ?_
      exact Keeps.bind (Keeps.orFault (hasks _ .patternSync)
        fun _ => by simp [Fault.Admitted, Fault.kind]) fun _ => Keeps.pure
    | verify =>
      exact Keeps.bind (Keeps.blocks fun _ _ _ => PatternErase.checkBlock_keeps
        fun _ => hasks _ .patternRead) fun _ => Keeps.pure
  | zero pass bytes =>
    cases hm
    refine hdevice.withHandle (fun _ => Fault.admitted_opening) ?_
    refine Keeps.bind (EraseTarget.length_keeps fun h => hasks _ (h ▸ .zeroSize))
      fun total => Keeps.bind EraseTarget.requireBlock_keeps fun _ => ?_
    cases pass with
    | overwrite =>
      refine Keeps.bind (Keeps.blocks fun _ _ _ => ZeroErase.writeBlock_keeps
        fun _ => hasks _ .zeroWrite) fun _ => ?_
      exact Keeps.bind (Keeps.orFault (hasks _ .zeroSync)
        fun _ => Fault.admitted_internal) fun _ => Keeps.pure
    | verify =>
      exact Keeps.bind (Keeps.blocks fun _ _ _ => ZeroErase.checkBlock_keeps
        fun _ => hasks _ .zeroRead) fun _ => Keeps.pure
  | sanitize bytes register =>
    cases hm
    refine hdevice.withHandle (fun _ => Fault.admitted_opening) ?_
    refine Keeps.bind ?_ fun card => ?_
    · cases register with
      | some card => exact Keeps.pure
      | none =>
        exact Keeps.orFault (BlockDevices.readExtCsd_keeps fun _ => hasks _ .sanitizeRegister)
          fun _ => Fault.admitted_internal
    refine Keeps.bind (EraseTarget.length_keeps fun h => hasks _ (h ▸ .sanitizeSize))
      fun expected => ?_
    dsimp only
    split
    · exact Keeps.bind Keeps.pure fun _ => Keeps.bind
        (Keeps.orFault (hasks _ .sanitizeStart) fun _ => Fault.admitted_internal)
        fun _ => Keeps.pure
    · rename_i h
      exact Keeps.throw (SanitizePlan.ofRegister_admitted h)
  | cryptoErase => cases hm

/-- An erase keeps what its requests keep, and it is not refused for the lock
state once it runs. -/
theorem EraseTarget.run_triple {request : EraseRequest} (hs : K s)
    (hdevice : ∀ mode, request.mode? = some mode → t.devices.Brackets t.device mode s J K)
    (hasks : ∀ q, request.Asks q → q.Respects t.devices J)
    (hkeys : request = .cryptoErase → t.crypto.KeepsErasing t.device K) :
    Triple (t.run request) s (fun _ => K) (fun f s' => K s' ∧ f.Admitted) := by
  by_cases positive : 0 < t.settings.blockSize.toNat
  · cases hm : request.mode? with
    | some mode => exact run_opened positive hm (hdevice mode hm) hasks
    | none =>
      cases request with
      | cryptoErase =>
        rw [run_eq positive]
        exact CryptoErase.run_keeps (hkeys rfl) s hs
      | _ => cases hm
  · unfold EraseTarget.run
    rw [dif_neg positive]
    exact Triple.throw ⟨hs, by simp [Fault.Admitted, Fault.kind]⟩

end

namespace Volume

variable {b : Backends σ η} {v : Volume} {J : σ × η → Prop} {K : σ → Prop} {s : σ}

/-- The lock state rules the request out. -/
def Refuses (v : Volume) (request : EraseRequest) : Prop :=
  request.method.writesRawDevice = true ∧ v.settings.erase.requireLockedForRawErase = true ∧
    v.state = .unlocked

instance (request : EraseRequest) : Decidable (v.Refuses request) := by
  unfold Refuses
  infer_instance

theorem erase_refused {request : EraseRequest} (h : v.Refuses request) :
    v.erase b request s = .error ⟨.unlockedForErase request.method, []⟩ s := by
  obtain ⟨hm, hg, hu⟩ := h
  simp [Volume.erase, hm, hg, hu, LockState.isLocked]
  rfl

theorem erase_admitted {request : EraseRequest} (h : ¬ v.Refuses request) :
    v.erase b request = ((v.eraseTarget b).run request).adaptExcept (⟨·, []⟩) := by
  unfold Volume.erase
  rw [if_neg]
  intro hc
  simp only [Bool.and_eq_true] at hc
  refine h ⟨hc.1.1, hc.1.2, ?_⟩
  cases hs : v.state with
  | locked => simp [hs, LockState.isLocked] at hc
  | unlocked => rfl

theorem erase_triple {request : EraseRequest} (h : ¬ v.Refuses request) (hs : K s)
    (hdevice : ∀ mode, request.mode? = some mode →
      b.devices.Brackets v.identity.device mode s J K)
    (hasks : ∀ q, request.Asks q → q.Respects b.devices J)
    (hkeys : request = .cryptoErase → b.crypto.KeepsErasing v.identity.device K) :
    Triple (v.erase b request) s (fun _ => K) (fun f s' => K s' ∧ f.fault.Admitted) := by
  rw [erase_admitted h]
  exact Triple.adaptExcept (EraseTarget.run_triple (t := v.eraseTarget b) hs hdevice hasks hkeys)

theorem enableBkops_triple (hdevice : b.devices.Brackets v.identity.device .readWrite s J K)
    (hread : ∀ data, (DeviceRequest.command .sendExtCsd data).Respects b.devices J)
    (hset : (DeviceRequest.command .enableBkops .empty).Respects b.devices J) :
    Triple (v.enableBkops b) s (fun _ => K) (fun _ => K) := by
  refine Triple.mono (hdevice.withHandle (F := fun _ => True) (fun _ => trivial) ?_)
    (fun _ _ h => h) fun _ _ h => h.1
  refine Keeps.bind (Keeps.step (BlockDevices.readExtCsd_keeps hread) fun _ => trivial)
    fun register => ?_
  split
  · exact Keeps.throw trivial
  · split
    · exact Keeps.pure
    · exact Keeps.bind (Keeps.step hset fun _ => trivial) fun _ => Keeps.pure

/-- A refresh changes nothing of the volume but what is known of its device. -/
theorem refresh_metadata :
    Triple (v.refresh b) s (fun v' _ => ∃ metadata, v' = { v with metadata })
      (fun _ _ => True) := by
  rw [refresh_eq]
  refine Triple.withHandle (J := fun _ => True) Triple.trivial fun u _ => ?_
  refine Triple.bind (Triple.step Triple.trivial) fun capacityBytes u _ => ?_
  refine Triple.bind (Triple.step Triple.trivial) fun register u _ => ?_
  exact Triple.pure ⟨_, rfl⟩

theorem refresh_triple (hdevice : b.devices.Brackets v.identity.device .read s J K)
    (hsize : DeviceRequest.size.Respects b.devices J)
    (hread : ∀ data, (DeviceRequest.command .sendExtCsd data).Respects b.devices J) :
    Triple (v.refresh b) s (fun _ => K) (fun _ => K) := by
  rw [refresh_eq]
  refine Triple.mono (hdevice.withHandle (F := fun _ => True) (fun _ => trivial) ?_)
    (fun _ _ h => h) fun _ _ h => h.1
  refine Keeps.bind (Keeps.step hsize fun _ => trivial) fun bytes => ?_
  exact Keeps.bind (Keeps.step (BlockDevices.readExtCsd_keeps hread) fun _ => trivial)
    fun register => Keeps.pure

end Volume

-- ---------------------------------------------------------------------------
-- Operations that do not open it
-- ---------------------------------------------------------------------------

structure CryptoBackend.Preserves (c : CryptoBackend σ) (K : σ → Prop) : Prop where
  format : ∀ device params, Keeps K (fun _ => True) (c.format device params)
  addKeyslot : ∀ device passphrase, Keeps K (fun _ => True) (c.addKeyslot device passphrase)
  load : ∀ device, Keeps K (fun _ => True) (c.load device)
  activate : ∀ device name passphrase, Keeps K (fun _ => True) (c.activate device name passphrase)
  deactivate : ∀ name, Keeps K (fun _ => True) (c.deactivate name)
  destroyKeyslot : ∀ device slot, Keeps K (fun _ => True) (c.destroyKeyslot device slot)
  maxKeyslots : ∀ version, Keeps K (fun _ => True) (c.maxKeyslots version)
  keyslotStatus : ∀ device slot, Keeps K (fun _ => True) (c.keyslotStatus device slot)
  changePassphrase : ∀ device old new, Keeps K (fun _ => True) (c.changePassphrase device old new)

structure FilesystemBackend.Preserves (f : FilesystemBackend σ) (K : σ → Prop) : Prop where
  makeFilesystem : ∀ device t options, Keeps K (fun _ => True) (f.makeFilesystem device t options)
  checkFilesystem : ∀ device t options, Keeps K (fun _ => True) (f.checkFilesystem device t options)
  mount : ∀ source target t options, Keeps K (fun _ => True) (f.mount source target t options)
  unmount : ∀ target, Keeps K (fun _ => True) (f.unmount target)
  createDirectory : ∀ path, Keeps K (fun _ => True) (f.createDirectory path)
  removeDirectory : ∀ path, Keeps K (fun _ => True) (f.removeDirectory path)
  directoryExists : ∀ path s, K s → K (f.directoryExists path s).2

theorem CryptoBackend.Preserves.erasing {c : CryptoBackend σ} {K : σ → Prop} {device : Path}
    (h : c.Preserves K) : c.KeepsErasing device K :=
  ⟨h.load device, h.maxKeyslots, h.keyslotStatus device, h.destroyKeyslot device⟩

namespace Volume

variable {b : Backends σ η} {v : Volume} {K : σ → Prop}

theorem require_keeps {expected : LockState} {change : StateChange} :
    Keeps K (fun _ => True) (v.require expected change) := by
  unfold Volume.require
  split
  · exact Keeps.pure
  · exact Keeps.throw trivial

theorem mountFilesystem_keeps (hf : b.filesystem.Preserves K) {t : FilesystemType} :
    Keeps K (fun _ => True) (v.mountFilesystem b t) := by
  intro s hs
  unfold Volume.mountFilesystem
  refine Triple.bind (R := fun _ => K) (hf.directoryExists _ s hs) fun present s hs => ?_
  have mounting : Keeps K (fun _ => True) (Volume.step (b.filesystem.mount v.identity.mappedDevice
      v.identity.mountPoint t v.settings.filesystem.mount) (.internal .mount)) :=
    Keeps.step (hf.mount _ _ _ _) fun _ => trivial
  split
  · exact mounting s hs
  · refine Keeps.bind (Keeps.step (hf.createDirectory _) fun _ => trivial) (fun _ => ?_) s hs
    exact Keeps.undoing (hf.removeDirectory _) mounting fun _ => trivial

theorem format_keeps (hc : b.crypto.Preserves K) (hf : b.filesystem.Preserves K)
    {password : Bytes} {t : FilesystemType} :
    Keeps K (fun _ => True) (v.format b password t) := by
  rw [format_eq]
  refine Keeps.bind require_keeps fun _ => ?_
  refine Keeps.bind (Keeps.step (hc.format _ _) fun _ => trivial) fun _ => ?_
  refine Keeps.bind (Keeps.step (hc.addKeyslot _ _) fun _ => trivial) fun _ => ?_
  refine Keeps.bind (Keeps.step (hc.load _) fun _ => trivial) fun _ => ?_
  refine Keeps.bind (Keeps.step (hc.activate _ _ _) fun _ => trivial) fun _ => ?_
  refine Keeps.bind (Keeps.undoing (hc.deactivate _) ?_ fun _ => trivial) fun _ => Keeps.pure
  refine Keeps.bind ?_ fun _ => mountFilesystem_keeps hf
  refine Keeps.bind (Keeps.step (hf.makeFilesystem _ _ _) fun _ => trivial) fun _ => ?_
  exact Keeps.step (hf.checkFilesystem _ _ _) fun _ => trivial

theorem unlock_keeps (hc : b.crypto.Preserves K) (hf : b.filesystem.Preserves K)
    {password : Bytes} : Keeps K (fun _ => True) (v.unlock b password) := by
  rw [unlock_eq]
  refine Keeps.bind require_keeps fun _ => ?_
  refine Keeps.bind (Keeps.step (hc.load _) fun _ => trivial) fun _ => ?_
  refine Keeps.bind (Keeps.step (hc.activate _ _ _) fun _ => trivial) fun _ => ?_
  exact Keeps.bind (Keeps.undoing (hc.deactivate _) (mountFilesystem_keeps hf) fun _ => trivial)
    fun _ => Keeps.pure

theorem lock_keeps (hc : b.crypto.Preserves K) (hf : b.filesystem.Preserves K) :
    Keeps K (fun _ => True) (v.lock b) := by
  rw [lock_eq]
  refine Keeps.bind require_keeps fun _ => ?_
  refine Keeps.bind (Keeps.step (hf.unmount _) fun _ => trivial) fun _ => ?_
  refine Keeps.bind (Keeps.step (hf.removeDirectory _) fun _ => trivial) fun _ => ?_
  exact Keeps.bind (Keeps.step (hc.deactivate _) fun _ => trivial) fun _ => Keeps.pure

theorem changePassword_keeps (hc : b.crypto.Preserves K) {old new : Bytes} :
    Keeps K (fun _ => True) (v.changePassword b old new) := by
  refine Keeps.bind (Keeps.step (hc.load _) fun _ => trivial) fun _ => ?_
  exact Keeps.bind (Keeps.step (hc.changePassphrase _ _ _) fun _ => trivial) fun _ => Keeps.pure

end Volume

/-- What every call keeps, on the open device and elsewhere, every operation
keeps. -/
theorem Operation.run_keeps {b : Backends σ η} {v : Volume} {J : σ × η → Prop} {K : σ → Prop}
    (hc : b.crypto.Preserves K) (hf : b.filesystem.Preserves K)
    (hdevice : ∀ mode s, K s → b.devices.Brackets v.identity.device mode s J K)
    (hrequests : ∀ q, DeviceRequest.Respects b.devices J q) (operation : Operation) :
    Keeps K (fun _ => True) (operation.run b v) := by
  rw [run_eq]
  cases operation with
  | format password t => exact Keeps.bind (Volume.format_keeps hc hf) fun _ => Keeps.pure
  | unlock password => exact Keeps.bind (Volume.unlock_keeps hc hf) fun _ => Keeps.pure
  | lock => exact Keeps.bind (Volume.lock_keeps hc hf) fun _ => Keeps.pure
  | changePassword old new =>
    exact Keeps.bind (Volume.changePassword_keeps hc) fun _ => Keeps.pure
  | erase request =>
    refine Keeps.bind (fun s hs => ?_) fun _ => Keeps.pure
    by_cases hr : v.Refuses request
    · exact Triple.of_error (Volume.erase_refused hr) ⟨hs, trivial⟩
    · exact Triple.mono (Volume.erase_triple hr hs (fun mode _ => hdevice mode s hs)
        (fun q _ => hrequests q) fun _ => hc.erasing) (fun _ _ h => h) fun _ _ h => ⟨h.1, trivial⟩
  | enableBkops =>
    refine Keeps.bind (fun s hs => ?_) fun _ => Keeps.pure
    exact Triple.mono (Volume.enableBkops_triple (hdevice _ s hs) (fun _ => hrequests _)
      (hrequests _)) (fun _ _ h => h) fun _ _ h => ⟨h, trivial⟩
  | refresh =>
    refine Keeps.bind (fun s hs => ?_) fun _ => Keeps.pure
    exact Triple.mono (Volume.refresh_triple (hdevice _ s hs) (hrequests _)
      fun _ => hrequests _) (fun _ _ h => h) fun _ _ h => ⟨h, trivial⟩

end EmmcVault
