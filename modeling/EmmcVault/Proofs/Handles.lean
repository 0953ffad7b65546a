import EmmcVault.Proofs.Bench
import EmmcVault.Proofs.Classification
import EmmcVault.Proofs.Disk
import EmmcVault.Proofs.History

/-!
# Devices are closed again

An operation opens its device at most once, in the one mode it needs, and
closes it last, wherever it stops in between. What it asks of the open device
is what its method asks: only what overwrites or switches has a handle on which
anything but reading is done.
-/

namespace EmmcVault

open Text Watched

variable {σ η α : Type}

/-- Calls on a device, opening and closing it among them. -/
def BackendCall.onDevice : BackendCall → Bool
  | .openHandle .. | .request _ | .close => true
  | _ => false

/-- The part of a trace that is about the device. -/
def deviceCalls (trace : List Exchange) : List Exchange :=
  trace.filter (·.call.onDevice)

/-- The requests that only fetch data. -/
def DeviceRequest.Fetches : DeviceRequest → Prop
  | .read _ | .size => True
  | .write _ | .sync | .command .. => False

/-- The request is there to check something. -/
def EraseRequest.checks : EraseRequest → Bool
  | .verifyGeometry | .pattern .verify _ | .zero .verify _ => true
  | _ => false

theorem EraseRequest.Asks.fetches {request : EraseRequest} {q : DeviceRequest}
    (h : request.Asks q) (hc : request.checks = true) : q.Fetches := by
  cases h <;> trivial

namespace Operation

/-- The calls that an operation makes, as a watcher sees them. -/
def exchanges (b : Backends σ η) (v : Volume) (operation : Operation) (s : σ) : List Exchange :=
  match operation.run b.watched v ⟨s, []⟩ with
  | .ok _ w => w.trace
  | .error _ w => w.trace

/-- The mode in which the operation opens the device, if it comes to that. -/
def openMode? (v : Volume) : Operation → Option OpenMode
  | .erase request =>
    if v.Refuses request ∨ v.settings.erase.blockSize = 0 then none else request.mode?
  | .enableBkops => some .readWrite
  | .refresh => some .read
  | _ => none

/-- The requests that an operation makes of the open device. -/
inductive Asks : Operation → DeviceRequest → Prop
  | erase {request q} : request.Asks q → Asks (.erase request) q
  | bkopsRegister {data} : Asks .enableBkops (.command .sendExtCsd data)
  | bkopsEnable : Asks .enableBkops (.command .enableBkops .empty)
  | refreshSize : Asks .refresh .size
  | refreshRegister {data} : Asks .refresh (.command .sendExtCsd data)

end Operation

/-- The calls on a device that is opened, used and closed. -/
def whileOpen (device : Path) (mode : OpenMode) (uses : List Exchange) : List Exchange :=
  ⟨.openHandle device mode, .done⟩ :: uses ++ [⟨.close, .done⟩]

/-- What becomes of a device: it is not touched, or it cannot be opened, or it
is opened, asked for what is allowed and closed. -/
inductive HandleUse (device : Path) (allowed : DeviceRequest → Prop) :
    Option OpenMode → List Exchange → Prop
  | untouched : HandleUse device allowed none []
  | refused {mode cause} :
      HandleUse device allowed (some mode) [⟨.openHandle device mode, .failed cause⟩]
  | closed {mode uses} : (∀ x ∈ uses, ∃ q, x.call = .request q ∧ allowed q) →
      HandleUse device allowed (some mode) (whileOpen device mode uses)

theorem HandleUse.allowed {device : Path} {allowed : DeviceRequest → Prop}
    {mode? : Option OpenMode} {journal : List Exchange}
    (h : HandleUse device allowed mode? journal) {x : Exchange} {q : DeviceRequest}
    (hx : x ∈ journal) (hq : x.call = .request q) : allowed q := by
  cases h with
  | untouched => cases hx
  | refused =>
    obtain rfl := List.mem_singleton.mp hx
    cases hq
  | closed huses =>
    obtain hx | hx := List.mem_append.mp hx
    · obtain rfl | hx := List.mem_cons.mp hx
      · cases hq
      · obtain ⟨q', hq', ha⟩ := huses x hx
        cases hq.symm.trans hq'
        exact ha
    · obtain rfl := List.mem_singleton.mp hx
      cases hq

-- ---------------------------------------------------------------------------
-- Watched calls
-- ---------------------------------------------------------------------------

section
variable {b : Backends σ η} {v : Volume} {device : Path} {mode : OpenMode}
  {allowed : DeviceRequest → Prop}

/-- The device is open, and was asked only for what is allowed. -/
def InUse (device : Path) (mode : OpenMode) (allowed : DeviceRequest → Prop) (w : Watched σ) :
    Prop :=
  ∃ uses, (∀ x ∈ uses, ∃ q, x.call = .request q ∧ allowed q) ∧
    deviceCalls w.trace = ⟨.openHandle device mode, .done⟩ :: uses

theorem InUse.request {w : Watched σ} (h : InUse device mode allowed w) {q : DeviceRequest}
    (hq : allowed q) {s : σ} {reply : Reply} :
    InUse device mode allowed ⟨s, w.trace ++ [⟨.request q, reply⟩]⟩ := by
  obtain ⟨uses, huses, hw⟩ := h
  refine ⟨uses ++ [⟨.request q, reply⟩], fun x hx => ?_, ?_⟩
  · obtain hx | hx := List.mem_append.mp hx
    · exact huses x hx
    · obtain rfl := List.mem_singleton.mp hx
      exact ⟨q, rfl, hq⟩
  · rw [deviceCalls, List.filter_append, ← deviceCalls, hw]
    rfl

theorem Backends.watched_respects_inUse {q : DeviceRequest} (hq : allowed q) :
    q.Respects b.watched.devices fun u => InUse device mode allowed u.1 := by
  cases q <;> exact watchOpen_keeps fun hw => hw.request hq

theorem Backends.watched_brackets_handleUse {w : Watched σ} (hw : deviceCalls w.trace = []) :
    b.watched.devices.Brackets device mode w (fun u => InUse device mode allowed u.1)
      (fun w => HandleUse device allowed (some mode) (deviceCalls w.trace)) where
  opening := by
    refine watch_triple (Triple.mono Triple.trivial ?_ ?_)
    · intro e s _
      refine ⟨[], List.forall_mem_nil _, ?_⟩
      rw [deviceCalls, List.filter_append, ← deviceCalls, hw]
      rfl
    · intro cause s _
      rw [deviceCalls, List.filter_append, ← deviceCalls, hw]
      exact .refused
  closing := by
    rintro ⟨w, e⟩ ⟨uses, huses, h⟩
    show HandleUse device allowed (some mode) (deviceCalls (w.trace ++ [⟨.close, .done⟩]))
    rw [deviceCalls, List.filter_append, ← deviceCalls, h]
    exact .closed huses

/-- A call that is not on the device. -/
theorem Watched.watch_elsewhere {c : BackendCall} (hc : c.onDevice = false) {call : Call σ α} :
    Keeps (fun w => deviceCalls w.trace = []) (fun _ => True) (watch c call) := by
  refine watch_keeps fun {s s' trace reply} hw => ?_
  rw [deviceCalls, List.filter_append, ← deviceCalls, hw, List.filter_cons, hc]
  rfl

theorem Backends.watched_crypto_elsewhere :
    b.watched.crypto.Preserves fun w => deviceCalls w.trace = [] where
  format _ _ := watch_elsewhere rfl
  addKeyslot _ _ := watch_elsewhere rfl
  load _ := watch_elsewhere rfl
  activate _ _ _ := watch_elsewhere rfl
  deactivate _ := watch_elsewhere rfl
  destroyKeyslot _ _ := watch_elsewhere rfl
  maxKeyslots _ := watch_elsewhere rfl
  keyslotStatus _ _ := watch_elsewhere rfl
  changePassphrase _ _ _ := watch_elsewhere rfl

theorem Backends.watched_filesystem_elsewhere :
    b.watched.filesystem.Preserves fun w => deviceCalls w.trace = [] where
  makeFilesystem _ _ _ := watch_elsewhere rfl
  checkFilesystem _ _ _ := watch_elsewhere rfl
  mount _ _ _ _ := watch_elsewhere rfl
  unmount _ := watch_elsewhere rfl
  createDirectory _ := watch_elsewhere rfl
  removeDirectory _ := watch_elsewhere rfl
  directoryExists path w hw := by
    show deviceCalls (w.trace ++ [⟨.directoryExists path, _⟩]) = []
    rw [deviceCalls, List.filter_append, ← deviceCalls, hw]
    rfl

end

-- ---------------------------------------------------------------------------
-- Operations
-- ---------------------------------------------------------------------------

namespace Operation

variable {b : Backends σ η} {v : Volume} {operation : Operation} {s : σ}

/-- Watched or not, the operation does the same. -/
theorem run_watched : operation.run b.watched v ⟨s, []⟩ =
    tracked Watched.mk (operation.run b v s) (operation.exchanges b v s) := by
  obtain ⟨trace, hrun, -⟩ := run_classified b v operation s
  have htrace : operation.exchanges b v s = trace := by
    simp only [exchanges, hrun]
    cases operation.run b v s <;> rfl
  rw [htrace, hrun]

/-- What is known of a watched run holds of the run, with the calls it makes. -/
theorem triple_of_watched {Q : Answer × Volume → Watched σ → Prop}
    {E : Failure → Watched σ → Prop} (h : Triple (operation.run b.watched v) ⟨s, []⟩ Q E) :
    Triple (operation.run b v) s (fun a s' => Q a ⟨s', operation.exchanges b v s⟩)
      (fun f s' => E f ⟨s', operation.exchanges b v s⟩) := by
  unfold Triple at *
  rw [run_watched] at h
  cases hx : operation.run b v s <;> simp only [hx, tracked] at h ⊢ <;> exact h

theorem exchanges_of_triple {P : List Exchange → Prop}
    (h : Triple (operation.run b.watched v) ⟨s, []⟩ (fun _ w => P w.trace)
      (fun _ w => P w.trace)) : P (operation.exchanges b v s) := by
  unfold Triple at h
  unfold exchanges
  split at h <;> rename_i hx <;> simp only [hx] <;> exact h

theorem exchanges_of_refused {f : Failure}
    (h : operation.run b.watched v ⟨s, []⟩ = .error f ⟨s, []⟩) :
    operation.exchanges b v s = [] := by
  simp only [exchanges, h]

theorem openMode?_erase {request : EraseRequest} (hr : ¬ v.Refuses request)
    (hb : v.settings.erase.blockSize ≠ 0) : openMode? v (.erase request) = request.mode? :=
  if_neg (not_or.mpr ⟨hr, hb⟩)

/-- An operation that does not come to opening the device makes no call on it. -/
theorem exchanges_elsewhere (hm : operation.openMode? v = none) :
    deviceCalls (operation.exchanges b v s) = [] := by
  by_cases hf : operation.ForbiddenBy v
  · obtain ⟨f, -, hrun⟩ := run_forbidden hf
    rw [exchanges_of_refused (hrun b.watched _)]
    rfl
  by_cases hb : operation.BlocklessOn v
  · obtain ⟨f, -, hrun⟩ := run_blockless hf hb
    rw [exchanges_of_refused (hrun b.watched _)]
    rfl
  -- what is left of the operations calls on the other backends only
  suffices h : Keeps (fun w => deviceCalls w.trace = []) (fun _ => True)
      (operation.run b.watched v) from
    exchanges_of_triple (P := fun trace => deviceCalls trace = [])
      (Triple.mono (h _ rfl) (fun _ _ h => h) fun _ _ h => h.1)
  have hc := b.watched_crypto_elsewhere
  have hfs := b.watched_filesystem_elsewhere
  rw [run_eq]
  cases operation with
  | format password t => exact Keeps.bind (Volume.format_keeps hc hfs) fun _ => Keeps.pure
  | unlock password => exact Keeps.bind (Volume.unlock_keeps hc hfs) fun _ => Keeps.pure
  | lock => exact Keeps.bind (Volume.lock_keeps hc hfs) fun _ => Keeps.pure
  | changePassword old new => exact Keeps.bind (Volume.changePassword_keeps hc) fun _ => Keeps.pure
  | erase request =>
    rw [openMode?_erase hf hb] at hm
    cases request with
    | cryptoErase =>
      refine Keeps.bind (fun w hw => ?_) fun _ => Keeps.pure
      refine Triple.mono (Volume.erase_triple (J := fun _ => True) hf hw nofun nofun
        fun _ => hc.erasing) (fun _ _ h => h) fun _ _ h => ⟨h.1, trivial⟩
    | _ => cases hm
  | enableBkops => cases hm
  | refresh => cases hm

/-- What becomes of the device in an operation. -/
theorem exchanges_handleUse : HandleUse v.identity.device operation.Asks
    (operation.openMode? v) (deviceCalls (operation.exchanges b v s)) := by
  cases hm : operation.openMode? v with
  | none =>
    rw [exchanges_elsewhere hm]
    exact .untouched
  | some mode =>
    refine exchanges_of_triple (P := fun trace =>
      HandleUse v.identity.device operation.Asks (some mode) (deviceCalls trace)) ?_
    have respects : ∀ {q}, operation.Asks q → q.Respects b.watched.devices fun u =>
        InUse v.identity.device mode operation.Asks u.1 :=
      Backends.watched_respects_inUse
    rw [run_eq]
    cases operation with
    | erase request =>
      have hr : ¬ v.Refuses request := by
        intro hr
        cases hm.symm.trans (if_pos (.inl hr))
      have hb : v.settings.erase.blockSize ≠ 0 := by
        intro hb
        cases hm.symm.trans (if_pos (.inr hb))
      rw [openMode?_erase hr hb] at hm
      refine Triple.bind (R := fun _ w => HandleUse v.identity.device (Asks (.erase request))
        (some mode) (deviceCalls w.trace)) ?_ fun _ _ h => Triple.pure h
      rw [Volume.erase_admitted hr]
      refine Triple.adaptExcept ?_
      refine Triple.mono (EraseTarget.run_opened (EraseSettings.blockSize_pos hb) hm
        (Backends.watched_brackets_handleUse rfl) fun q hq => respects (.erase hq))
        (fun _ _ h => h) fun _ _ h => h.1
    | enableBkops =>
      cases hm
      exact Triple.bind (Volume.enableBkops_triple (Backends.watched_brackets_handleUse rfl)
        (fun _ => respects .bkopsRegister) (respects .bkopsEnable)) fun _ _ h => Triple.pure h
    | refresh =>
      cases hm
      exact Triple.bind (Volume.refresh_triple (Backends.watched_brackets_handleUse rfl)
        (respects .refreshSize) fun _ => respects .refreshRegister) fun _ _ h => Triple.pure h
    | _ => cases hm

/-- An operation makes the requests that it may make. -/
theorem asks_of_mem {x : Exchange} {q : DeviceRequest} (hx : x ∈ operation.exchanges b v s)
    (hq : x.call = .request q) : operation.Asks q := by
  have hmem : x ∈ deviceCalls (operation.exchanges b v s) := by
    refine List.mem_filter.mpr ⟨hx, ?_⟩
    rw [hq]
    rfl
  exact exchanges_handleUse.allowed hmem hq

end Operation

-- ---------------------------------------------------------------------------
-- Open handles
-- ---------------------------------------------------------------------------

namespace Memory

namespace Disk

theorem switched_openHandles {d : Disk} {register : Mmc.ExtCsd} {index value : UInt8} :
    (d.switched register index value).openHandles = d.openHandles := by
  unfold switched
  split <;> rfl

/-- Only opening and closing change the number of open handles. -/
theorem respects_openHandles {n : Nat} (q : DeviceRequest) :
    q.Respects devices fun u => u.1.openHandles = n := by
  cases q with
  | read length =>
    rintro ⟨d, e⟩ hd
    refine Triple.mono read_triple ?_ ?_
    · rintro t _ ⟨-, -, rfl⟩
      exact hd
    · rintro cause _ ⟨-, rfl⟩
      exact ⟨hd, trivial⟩
  | write bytes =>
    rintro ⟨d, e⟩ hd
    refine Triple.mono write_triple ?_ ?_
    · rintro n _ ⟨-, -, rfl⟩
      exact hd
    · rintro cause _ ⟨-, rfl⟩
      exact ⟨hd, trivial⟩
  | sync =>
    rintro ⟨d, e⟩ hd
    refine Triple.mono sync_triple ?_ ?_
    · rintro _ _ rfl
      exact hd
    · rintro cause _ ⟨-, rfl⟩
      exact ⟨hd, trivial⟩
  | size =>
    rintro ⟨d, e⟩ hd
    refine Triple.mono size_triple ?_ ?_
    · rintro n _ ⟨-, rfl⟩
      exact hd
    · rintro cause _ ⟨-, rfl⟩
      exact ⟨hd, trivial⟩
  | command c data =>
    rintro ⟨d, e⟩ hd
    refine Triple.mono command_triple ?_ ?_
    · rintro reply _ ⟨-, register, -, ⟨-, -, rfl⟩ | ⟨-, index, value, -, -, rfl⟩⟩
      · exact hd
      · exact switched_openHandles.trans hd
    · rintro cause _ ⟨-, rfl⟩
      exact ⟨hd, trivial⟩

/-- A handle counts as open until it is closed. -/
theorem brackets_openHandles {path : Path} {mode : OpenMode} {d : Disk} {n : Nat}
    (hd : d.openHandles = n) :
    devices.Brackets path mode d (fun u => u.1.openHandles = n + 1)
      (fun d => d.openHandles = n) where
  opening := by
    refine Triple.mono openHandle_triple ?_ ?_
    · rintro h _ ⟨-, -, rfl⟩
      exact congrArg (· + 1) hd
    · rintro cause _ ⟨-, rfl⟩
      exact hd
  closing := fun _ hu => congrArg (· - 1) hu

end Disk

/-- An operation leaves as many handles open as it found. -/
theorem openHandles_perform (m : Managed (Bench Disk)) (operation : Operation) :
    (m.perform Bench.onDisk operation).2.world.device.openHandles =
      m.world.device.openHandles := by
  let same (d : Disk) : Prop := d.openHandles = m.world.device.openHandles
  have hkeeps := Operation.run_keeps (b := Bench.onDisk) (v := m.volume)
    (Bench.crypto_preserves (P := same)) (Bench.filesystem_preserves (P := same))
    (fun _ _ hw => Bench.brackets_device (Disk.brackets_openHandles hw))
    (fun q => Bench.respects_device (Disk.respects_openHandles q)) operation
  exact Managed.perform_of_triple (P := fun _ (m' : Managed (Bench Disk)) =>
      m'.world.device.openHandles = m.world.device.openHandles)
    (Triple.mono (hkeeps _ rfl) (fun _ _ h => h) fun _ _ h => h.1)

end Memory

/-- Whatever the device does, an operation leaves it closed: either it makes no
call on it, or it fails to open it and makes no other, or it opens it once, in
its mode, and closes it last. What only checks does nothing but fetch data. On a
disk no handle is left over. -/
theorem Operation.closes_device (b : Backends σ η) (v : Volume) (operation : Operation) (s : σ) :
    operation.run b.watched v ⟨s, []⟩ =
        tracked Watched.mk (operation.run b v s) (operation.exchanges b v s) ∧
      HandleUse v.identity.device operation.Asks (operation.openMode? v)
        (deviceCalls (operation.exchanges b v s)) ∧
      (∀ request, operation = .erase request → request.checks = true →
        ∀ x ∈ operation.exchanges b v s, ∀ q, x.call = .request q → q.Fetches) ∧
      ∀ m : Managed (Memory.Bench Memory.Disk),
        (m.perform Memory.Bench.onDisk operation).2.world.device.openHandles =
          m.world.device.openHandles := by
  refine ⟨run_watched, exchanges_handleUse, ?_, fun m => Memory.openHandles_perform m operation⟩
  rintro request rfl hchecks x hx q hq
  cases asks_of_mem hx hq with
  | erase hasks => exact hasks.fetches hchecks

end EmmcVault
