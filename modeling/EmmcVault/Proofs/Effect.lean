import EmmcVault.Proofs.Triple
import EmmcVault.Service.Outcome

/-!
# What an operation makes of a volume

The steps of an operation that may fail leave the volume alone, and what an
operation assigns to it is assigned when the last of them has succeeded.
`Becomes` lists the volumes to which an operation can therefore lead. A failure
leads to the volume there was, wherever in the operation it comes; a success
changes the fields that the operation is about and no others. What a success
tells of the device was read from it in this very operation.
-/

namespace EmmcVault

open Text

variable {σ η α : Type} {b : Backends σ η} {v : Volume} {m : Managed σ}

-- ---------------------------------------------------------------------------
-- Steps
-- ---------------------------------------------------------------------------

namespace Managed

section
variable {Q : α → Managed σ → Prop} {E : Failure → Managed σ → Prop}

theorem reading_triple {body : Volume → EStateM Failure σ α}
    (h : Triple (body m.volume) m.world (fun a w => Q a { m with world := w })
      fun f w => E f { m with world := w }) : Triple (reading body) m Q E := by
  unfold Triple at h
  unfold Triple reading
  split at h <;> rename_i hx <;> simp only [hx] <;> exact h

/-- Whatever reading the volume comes to, it is the same volume. -/
theorem reading_spares {body : Volume → EStateM Failure σ α} (hm : m.volume = v) :
    Triple (reading body) m (fun _ m' => m'.volume = v) (fun _ m' => m'.volume = v) :=
  reading_triple (Triple.mono Triple.trivial (fun _ _ _ => hm) fun _ _ _ => hm)

theorem call_spares {call : Volume → Call σ α} {fault : BackendError → Fault}
    (hm : m.volume = v) :
    Triple (Managed.call call fault) m (fun _ m' => m'.volume = v) (fun _ m' => m'.volume = v) :=
  reading_spares hm

/-- A call of which more is known than that it leaves the volume alone. -/
theorem call_triple {call : Volume → Call σ α} {fault : BackendError → Fault} {R : α → σ → Prop}
    (h : Triple (call m.volume) m.world R fun _ _ => True) (hm : m.volume = v) :
    Triple (Managed.call call fault) m (fun a m' => m'.volume = v ∧ R a m'.world)
      (fun _ m' => m'.volume = v) :=
  reading_triple (Triple.step (Triple.mono h (fun _ _ hr => ⟨hm, hr⟩) fun _ _ _ => hm))

theorem assign_triple {change : Volume → Volume} {Q : Unit → Managed σ → Prop}
    (h : Q () { m with volume := change m.volume }) : Triple (assign change) m Q E := h

theorem withDevice_triple {d : BlockDevices σ η} {mode : OpenMode} {refused : BackendError → Fault}
    {body : Task (σ × η) α}
    (h : Triple (d.openHandle m.volume.identity.device mode) m.world
      (fun handle w => Triple body ⟨m.volume, (w, handle)⟩
        (fun a m' => Q a ⟨m'.volume, d.close m'.world⟩)
        fun f m' => E f ⟨m'.volume, d.close m'.world⟩)
      fun cause w => E ⟨refused cause, []⟩ { m with world := w }) :
    Triple (withDevice d mode refused body) m Q E := by
  unfold Triple withDevice
  obtain ⟨handle, w, ho, hb⟩ | ⟨cause, w, ho, he⟩ := h.cases
  · obtain ⟨_, _, hx, hq⟩ | ⟨_, _, hx, he⟩ := hb.cases <;> simp only [ho, hx]
    · exact hq
    · exact he
  · simp only [ho]
    exact he

end

end Managed

namespace Volume

/-- Opened for reading, the volume's device gives this size and then this
register. -/
def Measures (b : Backends σ η) (v : Volume) (s : σ) (bytes : UInt64) (register : Mmc.ExtCsd) :
    Prop :=
  ∃ handle s₁ t t', b.devices.openHandle v.identity.device .read s = .ok handle s₁ ∧
    b.devices.size (s₁, handle) = .ok bytes t ∧ b.devices.readExtCsd t = .ok register t'

/-- The volume with what was measured noted of its device. -/
def measured (v : Volume) (bytes : UInt64) (register : Mmc.ExtCsd) : Volume :=
  { v with metadata := { v.metadata with
      capacityBytes := bytes
      lifeRemainingPercent := register.lifeRemainingPercent } }

end Volume

-- ---------------------------------------------------------------------------
-- Operations
-- ---------------------------------------------------------------------------

namespace Managed

theorem format_moves {password : Bytes} {t : FilesystemType} (hm : m.volume = v) :
    Triple (format b password t) m
      (fun _ m' => m'.volume = { v with fsType := t, state := .unlocked })
      (fun _ m' => m'.volume = v) := by
  unfold format
  refine Triple.bind (reading_spares hm) fun _ m hm => ?_
  refine Triple.bind (call_spares hm) fun _ m hm => ?_
  refine Triple.bind (call_spares hm) fun _ m hm => ?_
  refine Triple.bind (call_spares hm) fun _ m hm => ?_
  refine Triple.bind (call_spares hm) fun _ m hm => ?_
  refine Triple.bind (reading_spares hm) fun _ m hm => ?_
  -- from here on nothing fails
  refine Triple.bind (R := fun _ m' => m'.volume = { v with fsType := t })
    (assign_triple (congrArg (fun v : Volume => { v with fsType := t }) hm)) fun _ m hm => ?_
  exact assign_triple (congrArg (fun v : Volume => { v with state := .unlocked }) hm)

theorem unlock_moves {password : Bytes} (hm : m.volume = v) :
    Triple (unlock b password) m (fun _ m' => m'.volume = { v with state := .unlocked })
      (fun _ m' => m'.volume = v) := by
  unfold unlock
  refine Triple.bind (reading_spares hm) fun _ m hm => ?_
  refine Triple.bind (call_spares hm) fun _ m hm => ?_
  refine Triple.bind (call_spares hm) fun _ m hm => ?_
  refine Triple.bind (reading_spares hm) fun _ m hm => ?_
  exact assign_triple (congrArg (fun v : Volume => { v with state := .unlocked }) hm)

theorem lock_moves (hm : m.volume = v) :
    Triple (lock b) m (fun _ m' => m'.volume = { v with state := .locked })
      (fun _ m' => m'.volume = v) := by
  unfold lock
  refine Triple.bind (reading_spares hm) fun _ m hm => ?_
  refine Triple.bind (call_spares hm) fun _ m hm => ?_
  refine Triple.bind (call_spares hm) fun _ m hm => ?_
  refine Triple.bind (call_spares hm) fun _ m hm => ?_
  exact assign_triple (congrArg (fun v : Volume => { v with state := .locked }) hm)

/-- Both measurements are noted or none is. -/
theorem refresh_moves :
    Triple (refresh b) m
      (fun metadata m' => ∃ bytes register, m.volume.Measures b m.world bytes register ∧
        m'.volume = m.volume.measured bytes register ∧ metadata = m'.volume.metadata)
      (fun _ m' => m'.volume = m.volume) := by
  refine withDevice_triple (Triple.mono Triple.self (fun handle w hopen => ?_) fun _ _ _ => rfl)
  refine Triple.bind (call_triple (v := m.volume)
    (Triple.mono Triple.self (fun _ _ h => h) fun _ _ _ => True.intro) rfl) ?_
  rintro bytes m₁ ⟨hm₁, hsize⟩
  refine Triple.bind (call_triple
    (Triple.mono Triple.self (fun _ _ h => h) fun _ _ _ => True.intro) hm₁) ?_
  rintro register m₂ ⟨hm₂, hregister⟩
  refine Triple.bind (R := fun _ m' => m'.volume =
      { m.volume with metadata := { m.volume.metadata with capacityBytes := bytes } })
    (assign_triple (by rw [hm₂])) fun _ m₃ hm₃ => ?_
  refine Triple.bind (R := fun _ m' => m'.volume = m.volume.measured bytes register)
    (assign_triple (by rw [hm₃]; rfl)) fun _ m₄ hm₄ => ?_
  exact ⟨bytes, register, ⟨handle, w, m₁.world, m₂.world, hopen, hsize, hregister⟩, hm₄, rfl⟩

end Managed

/-- Started at `v` in a world `s`, the operation has this outcome and leads to
this volume. -/
inductive Volume.Becomes (b : Backends σ η) (v : Volume) (s : σ) :
    Operation → Except Failure Operation.Answer → Volume → Prop
  | failed {operation f} : Becomes b v s operation (.error f) v
  | formatted {password t} :
      Becomes b v s (.format password t) (.ok .done) { v with fsType := t, state := .unlocked }
  | unlocked {password} :
      Becomes b v s (.unlock password) (.ok .done) { v with state := .unlocked }
  | locked : Becomes b v s .lock (.ok .done) { v with state := .locked }
  | passwordChanged {old new} : Becomes b v s (.changePassword old new) (.ok .done) v
  | erased {request report} : Becomes b v s (.erase request) (.ok (.erased report)) v
  | bkops {outcome} : Becomes b v s .enableBkops (.ok (.bkops outcome)) v
  | refreshed {bytes register} : v.Measures b s bytes register →
      Becomes b v s .refresh (.ok (.measured (v.measured bytes register).metadata))
        (v.measured bytes register)

open Volume (Becomes)

/-- The steps of an operation lead the volume where the operation says. -/
theorem Operation.task_becomes (operation : Operation) :
    Triple (operation.task b) m
      (fun a m' => Becomes b m.volume m.world operation (.ok a) m'.volume)
      (fun f m' => Becomes b m.volume m.world operation (.error f) m'.volume) := by
  have failing : ∀ {α : Type} {x : Managed.Task σ α} {Q : α → Managed σ → Prop},
      Triple x m Q (fun _ m' => m'.volume = m.volume) →
      Triple x m Q fun f m' => Becomes b m.volume m.world operation (.error f) m'.volume := fun h =>
    Triple.mono h (fun _ _ h => h) fun _ _ h => h ▸ .failed
  cases operation with
  | format password t =>
    exact Triple.bind (failing (Managed.format_moves rfl)) fun _ _ h => Triple.pure (h ▸ .formatted)
  | unlock password =>
    exact Triple.bind (failing (Managed.unlock_moves rfl)) fun _ _ h => Triple.pure (h ▸ .unlocked)
  | lock =>
    exact Triple.bind (failing (Managed.lock_moves rfl)) fun _ _ h => Triple.pure (h ▸ .locked)
  | changePassword old new =>
    exact Triple.bind (failing (Managed.reading_spares rfl)) fun _ _ h =>
      Triple.pure (h ▸ .passwordChanged)
  | erase request =>
    exact Triple.bind (failing (Managed.reading_spares rfl)) fun _ _ h => Triple.pure (h ▸ .erased)
  | enableBkops =>
    exact Triple.bind (failing (Managed.reading_spares rfl)) fun _ _ h => Triple.pure (h ▸ .bkops)
  | refresh =>
    refine Triple.bind (failing Managed.refresh_moves) ?_
    rintro _ _ ⟨bytes, register, hmeasures, hm, rfl⟩
    exact Triple.pure (hm ▸ .refreshed hmeasures)

namespace Managed

theorem perform_becomes (m : Managed σ) (operation : Operation) :
    Becomes b m.volume m.world operation (m.perform b operation).1
      (m.perform b operation).2.volume := by
  have h := operation.task_becomes (b := b) (m := m)
  unfold Triple at h
  unfold perform
  split at h <;> rename_i hx <;> simp only [hx] <;> exact h

/-- Whatever the backends do, the volume moves as its operations say and only
when they succeed. Asking for the status gives the volume as it is after it:
with both measurements, or as it was. -/
theorem moves_only_on_success (b : Backends σ η) (m : Managed σ) :
    (∀ operation, Becomes b m.volume m.world operation (m.perform b operation).1
      (m.perform b operation).2.volume) ∧
    ∃ m', Service.execute b m .refresh = (.ok (.status (.ofVolume m'.volume)), m') ∧
      (m'.volume = m.volume ∨ ∃ bytes register, m.volume.Measures b m.world bytes register ∧
        m'.volume = m.volume.measured bytes register) := by
  refine ⟨m.perform_becomes, (m.perform b .refresh).2, rfl, ?_⟩
  have h := m.perform_becomes (b := b) .refresh
  generalize (m.perform b .refresh).1 = outcome at h
  generalize (m.perform b .refresh).2.volume = v' at h
  cases h with
  | failed => exact .inl rfl
  | refreshed hm => exact .inr ⟨_, _, hm, rfl⟩

end Managed

end EmmcVault
