import EmmcVault.Proofs.History
import EmmcVault.Proofs.Scene

/-!
# Opening and locking a volume in memory

How formatting, unlocking and locking move the scene of a bench: to the mapping
active and the filesystem mounted, to neither, or to where a failure and the
undo steps after it leave it.
-/

namespace EmmcVault.Memory

open Text

variable {δ η : Type}

namespace Scene

/-- The scene with the mapped device of `v` mounted. -/
def mountedOn (c : Scene) (v : Volume) (t : FilesystemType) : Scene :=
  (c.setDirectory v.identity.mountPoint true).setMount v.identity.mountPoint
    (some ⟨v.identity.mappedDevice, t, v.settings.filesystem.mount⟩)

/-- What becomes of the mount point when mounting fails: it is as before, or
it was made and could not be removed, which the notes `r` say. -/
inductive Cleared (v : Volume) (c : Scene) : List BackendError → Scene → Prop
  | asBefore : Cleared v c [] c
  | left {code} : c.directory v.identity.mountPoint.key = false →
      c.armed .removeDirectory = some code →
      Cleared v c [.status CallKind.removeDirectory.name code]
        (c.setDirectory v.identity.mountPoint true)

/-- What becomes of the mapping when it is to be closed again. -/
inductive Closed (v : Volume) (c : Scene) : List BackendError → Scene → Prop
  | closed : c.armed .deactivate = none →
      Closed v c []
        { c.setActive v.identity.container false with deactivations := c.deactivations + 1 }
  | left {code} : c.armed .deactivate = some code →
      Closed v c [.status CallKind.deactivate.name code]
        { c with deactivations := c.deactivations + 1 }

/-- Where a formatting or unlocking that failed leaves the scene: it failed
before the mapping was active, or what it had done was undone newest first. -/
inductive GivenUp (v : Volume) (c : Scene) : Failure → Scene → Prop
  | early {fault} : GivenUp v c ⟨fault, []⟩ c
  | late {fault r r' c₁ c₂} :
      Cleared v (c.setActive v.identity.container true) r c₁ → Closed v c₁ r' c₂ →
      GivenUp v c ⟨fault, r ++ r'⟩ c₂

/-- Where a locking that failed leaves the scene: nothing is undone. -/
inductive HalfLocked (v : Volume) (c : Scene) : Scene → Prop
  | mounted {code} : c.armed .unmount = some code →
      HalfLocked v c { c with unmounts := c.unmounts + 1 }
  | unmounted : c.armed .unmount = none →
      HalfLocked v c { c.setMount v.identity.mountPoint none with unmounts := c.unmounts + 1 }
  | removed {code} : c.armed .unmount = none → c.armed .deactivate = some code →
      HalfLocked v c
        { (c.setMount v.identity.mountPoint none).setDirectory v.identity.mountPoint false with
          unmounts := c.unmounts + 1, deactivations := c.deactivations + 1 }

/-- The scene after locking. -/
def locked (c : Scene) (v : Volume) : Scene :=
  { ((c.setMount v.identity.mountPoint none).setDirectory v.identity.mountPoint false).setActive
      v.identity.container false with
    unmounts := c.unmounts + 1, deactivations := c.deactivations + 1 }

end Scene

namespace Bench

variable {d : BlockDevices δ η} {v : Volume} {w : Bench δ} {c : Scene}

theorem mountFilesystem_triple {t : FilesystemType} (hw : w.scene = c) :
    Triple (v.mountFilesystem (backends d) t) w (fun _ w' => w'.scene = c.mountedOn v t)
      (fun f w' => c.Cleared v f.rollback w'.scene) := by
  subst hw
  have mounting : ∀ w' : Bench δ, Triple (Volume.step ((backends d).filesystem.mount
      v.identity.mappedDevice v.identity.mountPoint t v.settings.filesystem.mount)
      (.internal .mount)) w'
      (fun _ w'' => w''.scene = w'.scene.setMount v.identity.mountPoint
        (some ⟨v.identity.mappedDevice, t, v.settings.filesystem.mount⟩))
      (fun f w'' => w''.scene = w'.scene ∧ f.rollback = []) := by
    intro w'
    exact Triple.step (Triple.mono mount_triple (fun _ _ h => h) fun _ _ h => ⟨h, rfl⟩)
  have hn : (w.noted .directoryExists).scene = w.scene := scene_noted (by decide) (by decide)
  unfold Volume.mountFilesystem
  refine Triple.bind (R := fun present w' => present = w.scene.directory v.identity.mountPoint.key ∧
    w'.scene = w.scene) ⟨rfl, hn⟩ ?_
  rintro present w₁ ⟨hp, h₁⟩
  split
  · rename_i hpresent
    have hdir : w.scene.directory v.identity.mountPoint.key = true := hp.symm.trans hpresent
    refine Triple.mono (mounting w₁) ?_ ?_
    · intro _ w₂ h₂
      rw [h₂, h₁, Scene.mountedOn, Scene.setDirectory_present hdir]
    · rintro ⟨fault, r⟩ w₂ ⟨h₂, rfl⟩
      rw [h₂, h₁]
      exact .asBefore
  · rename_i habsent
    have hdir : w.scene.directory v.identity.mountPoint.key = false := by
      simpa [hp] using habsent
    refine Triple.bind (R := fun _ w₂ => w₂.scene =
      w.scene.setDirectory v.identity.mountPoint true) (Triple.step ?_) ?_
    · refine Triple.mono createDirectory_triple ?_ ?_
      · intro _ w₂ h₂
        rw [h₂, h₁]
      · intro _ w₂ h₂
        rw [h₂, h₁]
        exact .asBefore
    · intro _ w₂ h₂
      refine Triple.undoing (Triple.mono (mounting w₂) ?_ fun _ _ h => h) ?_
      · intro _ w₃ h₃
        rw [h₃, h₂]
        rfl
      · rintro ⟨fault, r⟩ w₃ ⟨h₃, rfl⟩
        refine Triple.mono removeDirectory_triple ?_ ?_
        · intro _ w₄ h₄
          rw [h₄, h₃, h₂, Scene.setDirectory_undone hdir]
          exact .asBefore
        · rintro _ w₄ ⟨⟨code, ha, rfl⟩, h₄⟩
          rw [h₄, h₃, h₂]
          have harmed : w.scene.armed .removeDirectory = some code := by
            have h := congrArg (fun s => Scene.armed s .removeDirectory) (h₃.trans h₂)
            exact h.symm.trans ha
          exact .left hdir harmed

/-- The mapping is closed again where what follows its activation fails. -/
theorem undoing_triple {α : Type} {body : EStateM Failure (Bench δ) α}
    {Q : α → Bench δ → Prop} (hb : Triple body w Q fun f w' =>
      (c.setActive v.identity.container true).Cleared v f.rollback w'.scene) :
    Triple (Volume.undoing ((backends d).crypto.deactivate v.identity.container) body) w Q
      (fun f w' => c.GivenUp v f w'.scene) := by
  refine Triple.undoing hb ?_
  rintro ⟨fault, r⟩ w₁ h₁
  refine Triple.mono deactivate_triple ?_ ?_
  · rintro _ w₂ ⟨ha, h₂⟩
    rw [h₂]
    have hgiven : c.GivenUp v ⟨fault, r ++ []⟩ _ := .late h₁ (.closed ha)
    rwa [List.append_nil] at hgiven
  · rintro _ w₂ ⟨⟨code, ha, rfl⟩, h₂⟩
    rw [h₂]
    exact .late h₁ (.left ha)

/-- A step before the activation, which moves nothing in the scene. -/
theorem step_early {α : Type} {call : Call (Bench δ) α} {fault : BackendError → Fault}
    (h : Keeps (fun w : Bench δ => w.scene = c) (fun _ => True) call) (hw : w.scene = c) :
    Triple (Volume.step call fault) w (fun _ w' => w'.scene = c)
      (fun f w' => c.GivenUp v f w'.scene) := by
  refine Triple.step (Triple.mono (h w hw) (fun _ _ h => h) ?_)
  rintro cause w' ⟨rfl, -⟩
  exact .early

theorem step_activate {passphrase : Bytes} (hw : w.scene = c) :
    Triple (Volume.step ((backends d).crypto.activate v.identity.device v.identity.container
      passphrase) (.internal .activate)) w
      (fun _ w' => w'.scene = c.setActive v.identity.container true)
      (fun f w' => c.GivenUp v f w'.scene) := by
  subst hw
  refine Triple.step (Triple.mono activate_triple (fun _ _ h => h) ?_)
  intro cause w' h
  rw [h]
  exact .early

theorem require_triple {expected : LockState} {change : StateChange} (h : v.state = expected) :
    Triple (v.require expected change) w (fun _ w' => w' = w) (fun _ _ => False) := by
  unfold Volume.require
  rw [if_pos h]
  exact Triple.pure rfl

theorem refused {α : Type} {expected : LockState} {change : StateChange}
    {rest : Unit → EStateM Failure (Bench δ) α} (h : v.state ≠ expected) :
    Triple (v.require expected change >>= rest) w (fun _ _ => False) (fun _ w' => w' = w) := by
  refine Triple.bind (R := fun _ _ => False) ?_ fun _ _ h => h.elim
  unfold Volume.require
  rw [if_neg h]
  exact Triple.throw rfl

theorem format_triple {password : Bytes} {t : FilesystemType} (hl : v.state = .locked)
    (hw : w.scene = c) :
    Triple (v.format (backends d) password t) w
      (fun v' w' => v' = { v with fsType := t, state := .unlocked } ∧
        w'.scene = (c.setActive v.identity.container true).mountedOn v t)
      (fun f w' => c.GivenUp v f w'.scene) := by
  rw [Volume.format_eq]
  refine Triple.bind (Triple.mono (require_triple hl) (fun _ _ h => h) fun _ _ h => h.elim) ?_
  rintro _ _ rfl
  refine Triple.bind (step_early format_quiet hw) fun _ w₁ h₁ => ?_
  refine Triple.bind (step_early addKeyslot_quiet h₁) fun _ w₂ h₂ => ?_
  refine Triple.bind (step_early load_quiet h₂) fun _ w₃ h₃ => ?_
  refine Triple.bind (step_activate h₃) fun _ w₄ h₄ => ?_
  refine Triple.bind (undoing_triple (Q := fun _ w' => w'.scene =
    (c.setActive v.identity.container true).mountedOn v t) ?_) fun _ w₅ h₅ => ?_
  · refine Triple.bind (R := fun _ w' => w'.scene = c.setActive v.identity.container true) ?_ ?_
    · refine Triple.bind (Triple.step (Triple.mono (makeFilesystem_quiet w₄ h₄)
        (fun _ _ h => h) ?_)) fun _ w₅ h₅ => ?_
      · rintro _ w₅ ⟨h₅, -⟩
        rw [h₅]
        exact .asBefore
      · refine Triple.step (Triple.mono (checkFilesystem_quiet w₅ h₅) (fun _ _ h => h) ?_)
        rintro _ w₆ ⟨h₆, -⟩
        rw [h₆]
        exact .asBefore
    · intro _ w₅ h₅
      exact mountFilesystem_triple h₅
  · exact Triple.pure ⟨rfl, h₅⟩

theorem unlock_triple {password : Bytes} (hl : v.state = .locked) (hw : w.scene = c) :
    Triple (v.unlock (backends d) password) w
      (fun v' w' => v' = { v with state := .unlocked } ∧
        w'.scene = (c.setActive v.identity.container true).mountedOn v v.fsType)
      (fun f w' => c.GivenUp v f w'.scene) := by
  rw [Volume.unlock_eq]
  refine Triple.bind (Triple.mono (require_triple hl) (fun _ _ h => h) fun _ _ h => h.elim) ?_
  rintro _ _ rfl
  refine Triple.bind (step_early load_quiet hw) fun _ w₁ h₁ => ?_
  refine Triple.bind (step_activate h₁) fun _ w₂ h₂ => ?_
  refine Triple.bind (undoing_triple (mountFilesystem_triple h₂)) fun _ w₃ h₃ => ?_
  exact Triple.pure ⟨rfl, h₃⟩

/-- Locking stops at the first call that fails. -/
theorem lock_triple (hu : v.state = .unlocked) (hw : w.scene = c) :
    Triple (v.lock (backends d)) w
      (fun v' w' => v' = { v with state := .locked } ∧ w'.scene = c.locked v)
      (fun _ w' => c.HalfLocked v w'.scene) := by
  subst hw
  rw [Volume.lock_eq]
  refine Triple.bind (Triple.mono (require_triple hu) (fun _ _ h => h) fun _ _ h => h.elim) ?_
  rintro _ _ rfl
  refine Triple.bind (Triple.step (Triple.mono unmount_triple (fun _ _ h => h) ?_)) ?_
  · rintro _ w₁ ⟨⟨code, ha, -⟩, h₁⟩
    rw [h₁]
    exact .mounted ha
  rintro _ w₁ ⟨ha, h₁⟩
  refine Triple.bind (Triple.step (Triple.mono removeDirectory_triple (fun _ _ h => h) ?_)) ?_
  · rintro _ w₂ ⟨-, h₂⟩
    rw [h₂, h₁]
    exact .unmounted ha
  intro _ w₂ h₂
  refine Triple.bind (Triple.step (Triple.mono deactivate_triple (fun _ _ h => h) ?_)) ?_
  · rintro _ w₃ ⟨⟨code, hd, -⟩, h₃⟩
    have hd₀ : w₂.scene.armed .deactivate = some code := hd
    rw [h₂, h₁] at h₃ hd₀
    rw [h₃]
    exact .removed ha hd₀
  · rintro _ w₃ ⟨-, h₃⟩
    rw [h₂, h₁] at h₃
    exact Triple.pure ⟨rfl, h₃⟩

-- ---------------------------------------------------------------------------
-- The other operations
-- ---------------------------------------------------------------------------

theorem changePassword_triple {old new : Bytes} (hw : w.scene = c) :
    Triple (v.changePassword (backends d) old new) w (fun _ w' => w'.scene = c)
      (fun _ w' => w'.scene = c) := by
  unfold Volume.changePassword
  refine Triple.bind (Triple.step (Triple.mono (load_quiet w hw) (fun _ _ h => h)
    fun _ _ h => h.1)) fun _ w₁ h₁ => ?_
  refine Triple.bind (Triple.step (Triple.mono (changePassphrase_quiet w₁ h₁) (fun _ _ h => h)
    fun _ _ h => h.1)) fun _ w₂ h₂ => ?_
  exact Triple.pure h₂

theorem erase_triple {request : EraseRequest} (hw : w.scene = c) :
    Triple (v.erase (backends d) request) w (fun _ w' => w'.scene = c)
      (fun _ w' => w'.scene = c) :=
  Triple.mono (erase_deviceFree (K := fun w => w.scene = c) (fun _ _ h => h) erasing_quiet w hw)
    (fun _ _ h => h) fun _ _ h => h.1

theorem enableBkops_triple (hw : w.scene = c) :
    Triple (v.enableBkops (backends d)) w (fun _ w' => w'.scene = c)
      (fun _ w' => w'.scene = c) :=
  Triple.mono (enableBkops_deviceFree (K := fun w => w.scene = c) (fun _ _ h => h) w hw)
    (fun _ _ h => h) fun _ _ h => h.1

theorem refresh_triple (hw : w.scene = c) :
    Triple (v.refresh (backends d)) w
      (fun v' w' => (∃ metadata, v' = { v with metadata }) ∧ w'.scene = c)
      (fun _ w' => w'.scene = c) :=
  Triple.mono (Triple.and Volume.refresh_metadata
    (refresh_deviceFree (K := fun w => w.scene = c) (fun _ _ h => h) w hw))
    (fun _ _ h => h) fun _ _ h => h.2.1

end Bench

end EmmcVault.Memory

namespace EmmcVault

-- ---------------------------------------------------------------------------
-- One operation
-- ---------------------------------------------------------------------------

/-- Formatting and unlocking. -/
def Operation.opens : Operation → Bool
  | .format .. | .unlock _ => true
  | _ => false

/-- The lock state in which the operation is not refused, if only one is. -/
def Operation.expects? : Operation → Option LockState
  | .format .. | .unlock _ => some .locked
  | .lock => some .unlocked
  | _ => none

namespace Memory

variable {δ η : Type}

/-- All that an operation can do to a volume and to the scene. -/
inductive Scene.Moves (v : Volume) (c : Scene) :
    Operation → Except Failure Operation.Answer → Volume → Scene → Prop
  | formatted {password t} : v.state = .locked →
      Moves v c (.format password t) (.ok .done) { v with fsType := t, state := .unlocked }
        ((c.setActive v.identity.container true).mountedOn v t)
  | unlocked {password} : v.state = .locked →
      Moves v c (.unlock password) (.ok .done) { v with state := .unlocked }
        ((c.setActive v.identity.container true).mountedOn v v.fsType)
  | givenUp {operation f c'} : v.state = .locked → operation.opens = true → c.GivenUp v f c' →
      Moves v c operation (.error f) v c'
  | locked : v.state = .unlocked →
      Moves v c .lock (.ok .done) { v with state := .locked } (c.locked v)
  | halfLocked {f c'} : v.state = .unlocked → c.HalfLocked v c' → Moves v c .lock (.error f) v c'
  | refused {operation f state} : operation.expects? = some state → v.state ≠ state →
      Moves v c operation (.error f) v c
  | other {operation outcome metadata} : operation.expects? = none →
      Moves v c operation outcome { v with metadata } c

theorem Scene.Moves.settings {v v' : Volume} {c c' : Scene} {operation : Operation}
    {outcome : Except Failure Operation.Answer} (h : Scene.Moves v c operation outcome v' c') :
    v'.settings = v.settings := by
  cases h <;> rfl

variable {d : BlockDevices δ η}

theorem refused_moves {v : Volume} {w : Bench δ} {operation : Operation} {expected : LockState}
    (he : operation.expects? = some expected) (hv : v.state ≠ expected) :
    Triple (operation.run (Bench.backends d) v) w
      (fun a w' => Scene.Moves v w.scene operation (.ok a.1) a.2 w'.scene)
      (fun f w' => Scene.Moves v w.scene operation (.error f) v w'.scene) := by
  have refused : ∀ {α : Type} {change : StateChange} {rest : Unit → EStateM Failure (Bench δ) α},
      Triple (v.require expected change >>= rest) w (fun _ _ => False)
        (fun f w' => Scene.Moves v w.scene operation (.error f) v w'.scene) := by
    intro α change rest
    refine Triple.mono (Bench.refused hv) (fun _ _ h => h) ?_
    rintro f _ rfl
    exact .refused he hv
  cases operation with
  | format password t =>
    cases he
    simp only [Operation.run_eq, Volume.format_eq]
    exact Triple.bind (R := fun _ _ => False) refused fun _ _ h => h.elim
  | unlock password =>
    cases he
    simp only [Operation.run_eq, Volume.unlock_eq]
    exact Triple.bind (R := fun _ _ => False) refused fun _ _ h => h.elim
  | lock =>
    cases he
    simp only [Operation.run_eq, Volume.lock_eq]
    exact Triple.bind (R := fun _ _ => False) refused fun _ _ h => h.elim
  | _ => cases he

theorem run_moves {v : Volume} {w : Bench δ} (operation : Operation) :
    Triple (operation.run (Bench.backends d) v) w
      (fun a w' => Scene.Moves v w.scene operation (.ok a.1) a.2 w'.scene)
      (fun f w' => Scene.Moves v w.scene operation (.error f) v w'.scene) := by
  have quiet : ∀ {f w'}, operation.expects? = none → w'.scene = w.scene →
      Scene.Moves v w.scene operation (.error f) v (Bench.scene (δ := δ) w') := by
    intro f w' he hw'
    rw [hw']
    exact .other he
  cases operation with
  | format password t =>
    by_cases hl : v.state = .locked
    · rw [Operation.run_eq]
      refine Triple.bind (Triple.mono (Bench.format_triple hl rfl) (fun _ _ h => h)
        fun _ _ h => .givenUp hl rfl h) ?_
      rintro _ w' ⟨rfl, hw'⟩
      exact Triple.pure (hw' ▸ .formatted hl)
    · exact refused_moves rfl hl
  | unlock password =>
    by_cases hl : v.state = .locked
    · rw [Operation.run_eq]
      refine Triple.bind (Triple.mono (Bench.unlock_triple hl rfl) (fun _ _ h => h)
        fun _ _ h => .givenUp hl rfl h) ?_
      rintro _ w' ⟨rfl, hw'⟩
      exact Triple.pure (hw' ▸ .unlocked hl)
    · exact refused_moves rfl hl
  | lock =>
    by_cases hu : v.state = .unlocked
    · rw [Operation.run_eq]
      refine Triple.bind (Triple.mono (Bench.lock_triple hu rfl) (fun _ _ h => h)
        fun _ _ h => .halfLocked hu h) ?_
      rintro _ w' ⟨rfl, hw'⟩
      exact Triple.pure (hw' ▸ .locked hu)
    · exact refused_moves rfl hu
  | changePassword old new =>
    rw [Operation.run_eq]
    refine Triple.bind (Triple.mono (Bench.changePassword_triple rfl) (fun _ _ h => h)
      fun _ _ hw' => quiet rfl hw') ?_
    intro _ w' hw'
    exact Triple.pure (hw' ▸ .other rfl)
  | erase request =>
    rw [Operation.run_eq]
    refine Triple.bind (Triple.mono (Bench.erase_triple rfl) (fun _ _ h => h)
      fun _ _ hw' => quiet rfl hw') ?_
    intro report w' hw'
    exact Triple.pure (hw' ▸ .other rfl)
  | enableBkops =>
    rw [Operation.run_eq]
    refine Triple.bind (Triple.mono (Bench.enableBkops_triple rfl) (fun _ _ h => h)
      fun _ _ hw' => quiet rfl hw') ?_
    intro outcome w' hw'
    exact Triple.pure (hw' ▸ .other rfl)
  | refresh =>
    rw [Operation.run_eq]
    refine Triple.bind (Triple.mono (Bench.refresh_triple rfl) (fun _ _ h => h)
      fun _ _ hw' => quiet rfl hw') ?_
    rintro _ w' ⟨⟨metadata, rfl⟩, hw'⟩
    exact Triple.pure (hw' ▸ .other rfl)

/-- One operation moves the volume and the scene together. -/
theorem perform_moves (m : Managed (Bench δ)) (operation : Operation) :
    Scene.Moves m.volume m.world.scene operation (m.perform (Bench.backends d) operation).1
      (m.perform (Bench.backends d) operation).2.volume
      (m.perform (Bench.backends d) operation).2.world.scene :=
  Managed.perform_of_triple (P := fun outcome (m' : Managed (Bench δ)) =>
    Scene.Moves m.volume m.world.scene operation outcome m'.volume m'.world.scene)
    (run_moves operation)

end Memory

end EmmcVault
