import EmmcVault.Proofs.Disk
import EmmcVault.Proofs.Opening

/-!
# What reaches the device

With raw erases bound to a locked volume, the data of a disk change only when a
locked volume is overwritten or sanitized, and its register only in the octet
that enables background operations.
-/

namespace EmmcVault

/-- The request destroys the data on the device. -/
def EraseRequest.destroys : EraseRequest → Bool
  | .pattern .overwrite _ | .zero .overwrite _ | .sanitize .. => true
  | _ => false

theorem EraseRequest.writesRawDevice_of_destroys {request : EraseRequest}
    (h : request.destroys = true) : request.method.writesRawDevice = true := by
  cases request <;> simp [destroys, method, EraseMethod.writesRawDevice] at h ⊢

/-- The request only looks at the device. -/
def DeviceRequest.Looks : DeviceRequest → Prop
  | .read _ | .sync | .size => True
  | .command c _ => c = .sendExtCsd
  | .write _ => False

theorem EraseRequest.Asks.looks {request : EraseRequest} {q : DeviceRequest}
    (h : request.Asks q) (hd : request.destroys = false) : q.Looks := by
  cases h <;> simp [destroys, DeviceRequest.Looks] at hd ⊢

/-- The registers agree but for the octet that enables background operations. -/
def Mmc.ExtCsd.AgreeButBkops (r r' : Mmc.ExtCsd) : Prop :=
  ∀ i, i ≠ bkopsEnable → r'.get i = r.get i

theorem Mmc.ExtCsd.get_set_ne {r : Mmc.ExtCsd} {i j : Fin 512} {value : UInt8} (h : i ≠ j) :
    (r.set j value).get i = r.get i := by
  have hne : (j : Nat) ≠ i := by
    intro he
    exact h (Fin.ext he.symm)
  simp [set, get, hne]

/-- A sanitize is started by writing one to the octet that starts it. -/
theorem Mmc.Command.switchIndex?_startSanitize {timeout : UInt32} :
    (startSanitize timeout).switchIndex? = some 165 := by
  show (switch _ _).switchIndex? = _
  decide

theorem Mmc.Command.switchValue?_startSanitize {timeout : UInt32} :
    (startSanitize timeout).switchValue? = some 1 := by
  show (switch _ _).switchValue? = _
  decide

namespace Memory

namespace Disk

section
variable {P : ByteArray → Option Mmc.ExtCsd → Prop} {R : Option Mmc.ExtCsd → Prop}

theorem brackets {path : Path} {mode : OpenMode} {d : Disk} (hd : P d.data d.register) :
    devices.Brackets path mode d (fun u => P u.1.data u.1.register)
      (fun d => P d.data d.register) where
  opening := by
    refine Triple.mono openHandle_triple ?_ ?_
    · rintro h d' ⟨-, -, rfl⟩
      exact hd
    · rintro cause d' ⟨-, rfl⟩
      exact hd
  closing := fun _ hu => hu

theorem looks_respects {q : DeviceRequest} (h : q.Looks) :
    q.Respects devices fun u => P u.1.data u.1.register := by
  cases q with
  | read length =>
    rintro ⟨d, e⟩ hd
    refine Triple.mono read_triple ?_ ?_
    · rintro t _ ⟨-, -, rfl⟩
      exact hd
    · rintro cause _ ⟨-, rfl⟩
      exact ⟨hd, trivial⟩
  | write bytes => exact h.elim
  | sync =>
    rintro ⟨d, e⟩ hd
    refine Triple.mono sync_triple ?_ ?_
    · rintro _ _ rfl
      exact hd
    · rintro cause _ ⟨-, rfl⟩
      exact ⟨hd, trivial⟩
  | size =>
    rintro ⟨d, e⟩ hd
    refine Triple.mono size_triple ?_ ?_
    · rintro n _ ⟨-, rfl⟩
      exact hd
    · rintro cause _ ⟨-, rfl⟩
      exact ⟨hd, trivial⟩
  | command c data =>
    cases h
    rintro ⟨d, e⟩ hd
    refine Triple.mono sendExtCsd_triple ?_ ?_
    · rintro _ _ rfl
      exact hd
    · rintro cause _ rfl
      exact ⟨hd, trivial⟩

theorem write_respects {bytes : ByteArray} :
    (DeviceRequest.write bytes).Respects devices fun u => R u.1.register := by
  rintro ⟨d, e⟩ hd
  refine Triple.mono write_triple ?_ ?_
  · rintro n _ ⟨-, -, rfl⟩
    exact hd
  · rintro cause _ ⟨-, rfl⟩
    exact ⟨hd, trivial⟩

theorem startSanitize_respects {timeout : UInt32} {data : ByteArray} :
    (DeviceRequest.command (.startSanitize timeout) data).Respects devices
      fun u => R u.1.register := by
  rintro ⟨d, e⟩ hd
  refine Triple.mono (switch_triple (by decide : Mmc.Command.switchOpcode ≠ _)
    Mmc.Command.switchIndex?_startSanitize Mmc.Command.switchValue?_startSanitize) ?_ ?_
  · rintro _ _ ⟨register, -, rfl⟩
    exact hd
  · rintro cause _ rfl
    exact ⟨hd, trivial⟩

/-- No erase changes the register. -/
theorem asks_respects {request : EraseRequest} {q : DeviceRequest} (h : request.Asks q) :
    q.Respects devices fun u => R u.1.register := by
  by_cases hl : q.Looks
  · exact looks_respects (P := fun _ register => R register) hl
  · cases h with
    | patternWrite => exact write_respects
    | zeroWrite => exact write_respects
    | sanitizeStart => exact startSanitize_respects
    | _ => exact (hl (by simp [DeviceRequest.Looks])).elim

/-- The contents are those of `d`. -/
def Holds (d : Disk) (data : ByteArray) (register : Option Mmc.ExtCsd) : Prop :=
  data = d.data ∧ register = d.register

/-- The contents are those of `d` but for the enabling of background operations. -/
def HoldsButBkops (d : Disk) (data : ByteArray) (register : Option Mmc.ExtCsd) : Prop :=
  data = d.data ∧ Option.Rel Mmc.ExtCsd.AgreeButBkops d.register register

theorem holdsButBkops {d : Disk} : HoldsButBkops d d.data d.register := by
  refine ⟨rfl, ?_⟩
  cases d.register with
  | none => exact .none
  | some register => exact .some fun _ _ => rfl

theorem enableBkops_respects {before : Disk} {data : ByteArray} :
    (DeviceRequest.command .enableBkops data).Respects devices fun u =>
      HoldsButBkops before u.1.data u.1.register := by
  rintro ⟨d, e⟩ ⟨hdata, hregister⟩
  have hindex : Mmc.Command.enableBkops.switchIndex? = some 163 := by decide
  have hvalue : Mmc.Command.enableBkops.switchValue? = some Mmc.ExtCsd.manualBkops := by decide
  refine Triple.mono (switch_triple (by decide : Mmc.Command.switchOpcode ≠ _) hindex hvalue) ?_ ?_
  · rintro _ _ ⟨register, hr, rfl⟩
    refine ⟨hdata, ?_⟩
    rw [show d.register = some register from hr] at hregister
    generalize before.register = known at hregister ⊢
    cases hregister with
    | @some r _ hagree =>
      refine .some fun i hi => ?_
      rw [← hagree i hi]
      exact Mmc.ExtCsd.get_set_ne hi
  · rintro cause _ rfl
    exact ⟨⟨hdata, hregister⟩, trivial⟩

end

/-- All that an operation on `v` can do to the contents of a disk. -/
inductive Moves (v : Volume) (d d' : Disk) : Operation → Prop
  | kept {operation} : Holds d d'.data d'.register → Moves v d d' operation
  | destroyed {request} : request.destroys = true → ¬ v.Refuses request →
      d'.register = d.register → Moves v d d' (.erase request)
  | enabled : HoldsButBkops d d'.data d'.register → Moves v d d' .enableBkops

section
variable {v : Volume} {w : Bench Disk}

theorem erase_triple {request : EraseRequest} :
    Triple (v.erase Bench.onDisk request) w
      (fun _ w' => Moves v w.device w'.device (.erase request))
      (fun _ w' => Moves v w.device w'.device (.erase request)) := by
  by_cases hr : v.Refuses request
  · exact Triple.of_error (Volume.erase_refused hr) (.kept ⟨rfl, rfl⟩)
  cases hd : request.destroys with
  | true =>
    have hkept := Volume.erase_triple (b := Bench.onDisk) (s := w) hr
      (J := fun u => u.1.device.register = w.device.register)
      (K := fun w' => w'.device.register = w.device.register) rfl ?_ ?_ ?_
    · refine Triple.mono hkept ?_ ?_
      · intro report w' hw'
        exact .destroyed hd hr hw'
      · rintro f w' ⟨hw', -⟩
        exact .destroyed hd hr hw'
    · intro mode _
      exact Bench.brackets_device (brackets (P := fun _ r => r = w.device.register) rfl)
    · intro q hq
      exact Bench.respects_device (asks_respects (R := (· = w.device.register)) hq)
    · rintro rfl
      cases hd
  | false =>
    have hkept := Volume.erase_triple (b := Bench.onDisk) (s := w) hr
      (J := fun u => Holds w.device u.1.device.data u.1.device.register)
      (K := fun w' => Holds w.device w'.device.data w'.device.register) ⟨rfl, rfl⟩ ?_ ?_ ?_
    · refine Triple.mono hkept ?_ ?_
      · intro report w' hw'
        exact .kept hw'
      · rintro f w' ⟨hw', -⟩
        exact .kept hw'
    · intro mode _
      exact Bench.brackets_device (brackets (P := Holds w.device) ⟨rfl, rfl⟩)
    · intro q hq
      exact Bench.respects_device (looks_respects (P := Holds w.device) (hq.looks hd))
    · intro _
      exact (Bench.crypto_preserves
        (P := fun d : Disk => Holds w.device d.data d.register)).erasing

theorem enableBkops_triple :
    Triple (v.enableBkops Bench.onDisk) w (fun _ w' => Moves v w.device w'.device .enableBkops)
      (fun _ w' => Moves v w.device w'.device .enableBkops) := by
  have hkept := Volume.enableBkops_triple (b := Bench.onDisk) (v := v) (s := w)
    (J := fun u => HoldsButBkops w.device u.1.device.data u.1.device.register)
    (K := fun w' => HoldsButBkops w.device w'.device.data w'.device.register) ?_ ?_ ?_
  · exact Triple.mono hkept (fun _ _ hw' => .enabled hw') fun _ _ hw' => .enabled hw'
  · exact Bench.brackets_device (brackets (P := HoldsButBkops w.device) holdsButBkops)
  · intro data
    exact Bench.respects_device (looks_respects (q := .command .sendExtCsd data)
      (P := HoldsButBkops w.device) rfl)
  · exact Bench.respects_device (enableBkops_respects)

theorem refresh_triple {operation : Operation} :
    Triple (v.refresh Bench.onDisk) w (fun _ w' => Moves v w.device w'.device operation)
      (fun _ w' => Moves v w.device w'.device operation) := by
  have hkept := Volume.refresh_triple (b := Bench.onDisk) (v := v) (s := w)
    (J := fun u => Holds w.device u.1.device.data u.1.device.register)
    (K := fun w' => Holds w.device w'.device.data w'.device.register) ?_ ?_ ?_
  · exact Triple.mono hkept (fun _ _ hw' => .kept hw') fun _ _ hw' => .kept hw'
  · exact Bench.brackets_device (brackets (P := Holds w.device) ⟨rfl, rfl⟩)
  · exact Bench.respects_device (looks_respects (q := .size) (P := Holds w.device) trivial)
  · intro data
    exact Bench.respects_device (looks_respects (q := .command .sendExtCsd data)
      (P := Holds w.device) rfl)

theorem run_moves (operation : Operation) :
    Triple (operation.run Bench.onDisk v) w (fun _ w' => Moves v w.device w'.device operation)
      (fun _ w' => Moves v w.device w'.device operation) := by
  have hc := Bench.crypto_preserves (P := fun d : Disk => Holds w.device d.data d.register)
  have hf := Bench.filesystem_preserves (P := fun d : Disk => Holds w.device d.data d.register)
  -- the operations that do not open the device
  have quiet : ∀ {α : Type} {x : EStateM Failure (Bench Disk) α} {operation : Operation},
      Keeps (fun w' => Holds w.device w'.device.data w'.device.register) (fun _ => True) x →
      Triple x w (fun _ w' => Moves v w.device w'.device operation)
        (fun _ w' => Moves v w.device w'.device operation) := by
    intro α x operation hx
    exact Triple.mono (hx w ⟨rfl, rfl⟩) (fun _ _ hw' => .kept hw') fun _ _ hw' => .kept hw'.1
  rw [Operation.run_eq]
  cases operation with
  | format password t =>
    exact Triple.bind (quiet (Volume.format_keeps hc hf)) fun _ _ hw' => Triple.pure hw'
  | unlock password =>
    exact Triple.bind (quiet (Volume.unlock_keeps hc hf)) fun _ _ hw' => Triple.pure hw'
  | lock => exact Triple.bind (quiet (Volume.lock_keeps hc hf)) fun _ _ hw' => Triple.pure hw'
  | changePassword old new =>
    exact Triple.bind (quiet (Volume.changePassword_keeps hc)) fun _ _ hw' => Triple.pure hw'
  | erase request => exact Triple.bind erase_triple fun _ _ hw' => Triple.pure hw'
  | enableBkops => exact Triple.bind enableBkops_triple fun _ _ hw' => Triple.pure hw'
  | refresh => exact Triple.bind refresh_triple fun _ _ hw' => Triple.pure hw'

end

theorem perform_moves (m : Managed (Bench Disk)) (operation : Operation) :
    Moves m.volume m.world.device (m.perform Bench.onDisk operation).2.world.device operation :=
  Managed.perform_of_triple (P := fun _ (m' : Managed (Bench Disk)) =>
    Moves m.volume m.world.device m'.world.device operation) (run_moves operation)

end Disk

-- ---------------------------------------------------------------------------
-- Whole histories
-- ---------------------------------------------------------------------------

section
variable {δ η : Type} {d : BlockDevices δ η}

/-- An erase that is refused for the lock state leaves everything as it was. -/
theorem perform_refused {m : Managed (Bench δ)} {request : EraseRequest} {f : Failure}
    (hf : (m.perform (Bench.backends d) (.erase request)).1 = .error f)
    (hkind : f.kind = .invalidState) :
    (m.perform (Bench.backends d) (.erase request)).2 = m := by
  have admitted (hr : ¬ m.volume.Refuses request) : ∀ f,
      (m.perform (Bench.backends d) (.erase request)).1 = .error f → f.fault.Admitted := by
    refine Managed.perform_of_triple (P := fun outcome _ => ∀ f, outcome = .error f →
      f.fault.Admitted) ?_
    rw [Operation.run_eq]
    have herase := Volume.erase_triple (b := Bench.backends d) (s := m.world) hr
      (J := fun _ => True) (K := fun _ => True) trivial
      (fun _ _ => Bench.brackets_of_deviceFree (K := fun _ => True) (fun _ _ h => h) trivial)
      (fun q _ => Bench.respects_of_deviceFree (K := fun _ => True) (fun _ _ h => h) q)
      (fun _ => (Bench.crypto_preserves (P := fun _ => True)).erasing)
    refine Triple.bind (Triple.mono herase (fun _ _ h => h) ?_) ?_
    · rintro f w' ⟨-, hadmitted⟩ f' hf'
      cases hf'
      exact hadmitted
    · rintro report w' - f' hf'
      cases hf'
  by_cases hr : m.volume.Refuses request
  · have hrun : Operation.run (Bench.backends d) m.volume (.erase request) m.world =
        .error ⟨.unlockedForErase request.method, []⟩ m.world := by
      simp only [Operation.run_eq, bind, EStateM.bind, Volume.erase_refused hr]
    simp only [Managed.perform_eq, hrun]
  · exact (admitted hr f hf hkind).elim

theorem History.settings {R : δ → δ → Prop} {start m : Managed (Bench δ)}
    {events : List (Event δ)} (h : History (Bench.backends d) R start events m) :
    m.volume.settings = start.volume.settings := by
  induction h with
  | start => rfl
  | perform operation _ ih => exact (perform_moves _ operation).settings.trans ih
  | arm _ _ _ ih => exact ih
  | disarm _ ih => exact ih
  | rearrange _ _ _ ih => exact ih

end

/-- What an operation may do to the device where raw erases need a locked
volume. -/
structure Event.SparesDevice (e : Event Disk) : Prop where
  data : e.after.world.device.data ≠ e.before.world.device.data →
    ∃ request, e.operation = .erase request ∧ request.destroys = true ∧
      e.before.volume.state = .locked
  register : e.after.world.device.register ≠ e.before.world.device.register →
    e.operation = .enableBkops
  registerOctets : Option.Rel Mmc.ExtCsd.AgreeButBkops e.before.world.device.register
    e.after.world.device.register
  /-- So no device was opened and no command submitted. -/
  refused : ∀ request f, e.operation = .erase request → e.outcome = .error f →
    f.kind = .invalidState → e.after = e.before

theorem Event.sparesDevice {m : Managed (Bench Disk)} {operation : Operation}
    (hguard : m.volume.settings.erase.requireLockedForRawErase = true) :
    (Event.of Bench.onDisk m operation).SparesDevice := by
  have same : ∀ {d d' : Disk}, d'.register = d.register →
      Option.Rel Mmc.ExtCsd.AgreeButBkops d.register d'.register := by
    intro d d' hd
    rw [hd]
    exact Disk.holdsButBkops.2
  have refused : ∀ request f, operation = .erase request →
      (m.perform Bench.onDisk operation).1 = .error f → f.kind = .invalidState →
      (m.perform Bench.onDisk operation).2 = m := by
    rintro request f rfl hf hkind
    exact perform_refused hf hkind
  cases Disk.perform_moves m operation with
  | kept hd =>
    exact ⟨fun hne => (hne hd.1).elim, fun hne => (hne hd.2).elim, same hd.2, refused⟩
  | destroyed hdestroys hr hd =>
    refine ⟨fun _ => ⟨_, rfl, hdestroys, ?_⟩, fun hne => (hne hd).elim, same hd, refused⟩
    cases hs : m.volume.state with
    | locked => exact hs
    | unlocked => exact (hr ⟨EraseRequest.writesRawDevice_of_destroys hdestroys, hguard, hs⟩).elim
  | enabled hd => exact ⟨fun hne => (hne hd.1).elim, fun _ => rfl, hd.2, refused⟩

/-- However a volume is used, its device is spared all along. -/
theorem sparesDevice_of_history {R : Disk → Disk → Prop} {start m : Managed (Bench Disk)}
    {events : List (Event Disk)}
    (hguard : start.volume.settings.erase.requireLockedForRawErase = true)
    (h : History Bench.onDisk R start events m) : ∀ e ∈ events, e.SparesDevice := by
  induction h with
  | start => simp
  | perform operation h ih =>
    refine List.forall_mem_cons.mpr ⟨Event.sparesDevice ?_, ih⟩
    rw [History.settings h]
    exact hguard
  | arm _ _ _ ih => exact ih
  | disarm _ ih => exact ih
  | rearrange _ _ _ ih => exact ih

/-- A sanitize of a locked volume wipes its card. -/
theorem sparesDevice_of_history_sanitize :
    let register : Mmc.ExtCsd := .set .zeroed 231 0x40
    let card : Disk := { sample.world.device with register := some register }
    let start : Managed (Bench Disk) := { sample with world := { sample.world with device := card } }
    start.volume.settings.erase.requireLockedForRawErase = true ∧
      ∃ e m, History Bench.onDisk (fun _ _ => False) start [e] m ∧
        e.after.world.device.data ≠ e.before.world.device.data ∧ ∀ x ∈ [e], x.SparesDevice := by
  intro register card start
  have hstart : History Bench.onDisk (fun _ _ => False) start [] start := .start
  have h := hstart.perform (.erase (.sanitize (some 512) (some register)))
  refine ⟨rfl, _, _, h, ?_, ?_⟩
  · decide +kernel
  · exact sparesDevice_of_history rfl h

end Memory

end EmmcVault
