import EmmcVault.Proofs.Opening

/-!
# No state is stuck

Failed lockings, failed undo steps and failed formattings leave benches on
which the lock state of a volume does not tell the truth. Once no failure is
armed, one operation brings any of them back: locking, where the volume is
unlocked, or unlocking with a passphrase that the header accepts.
-/

namespace EmmcVault

variable {σ α : Type} {I : σ → Prop}

/-- Started where `I` holds, `x` succeeds and ends where `I` holds. -/
def Succeeds {ε : Type} (I : σ → Prop) (x : EStateM ε σ α) : Prop :=
  Keeps I (fun _ => False) x

namespace Succeeds

theorem step {call : Call σ α} {fault : BackendError → Fault} (h : Succeeds I call) :
    Succeeds I (Volume.step call fault) := fun s hs =>
  Triple.step (Triple.mono (h s hs) (fun _ _ ht => ht) fun _ _ hf => hf.2.elim)

/-- What does not fail is not undone. -/
theorem undoing {undo : Call σ Unit} {body : EStateM Failure σ α} (h : Succeeds I body) :
    Succeeds I (Volume.undoing undo body) := fun s hs =>
  Triple.undoing (h s hs) fun _ _ hf => hf.2.elim

theorem of_triple {ε : Type} {x : EStateM ε σ α} {s : σ} {Q : α → σ → Prop} {E : ε → σ → Prop}
    (h : Succeeds I x) (hs : I s) (hx : Triple x s Q E) : Triple x s Q fun _ _ => False :=
  Triple.mono (Triple.and hx (h s hs)) (fun _ _ hq => hq.1) fun _ _ hf => hf.2.2.elim

end Succeeds

namespace Memory

open Text

variable {δ η : Type} {known : Option Bytes}

namespace Bench

/-- No failure is armed. -/
def Unarmed (w : Bench δ) : Prop := w.scene.armed = fun _ => none

theorem Fails.not_unarmed {w : Bench δ} {kind : CallKind} {cause : BackendError}
    (h : w.Fails kind cause) : ¬ w.Unarmed := by
  intro hw
  obtain ⟨code, harmed, -⟩ := h
  cases harmed.symm.trans (congrFun hw kind)

/-- No failure is armed, and the header opens with the passphrase `known`, or
with any where none is known. -/
structure Calm (known : Option Bytes) (w : Bench δ) : Prop where
  unarmed : w.Unarmed
  passphrase : w.header.passphrase = known

variable {d : BlockDevices δ η} {v : Volume}

theorem recorded_calm {kind : CallKind} {α : Type} {rest : Call (Bench δ) α}
    (h : Succeeds (Calm known) rest) : Succeeds (Calm known) (do record kind; rest) := by
  intro w hw
  have hn : (w.noted kind).Calm known := ⟨hw.unarmed, hw.passphrase⟩
  exact recorded (h _ hn) fun _ hf => absurd hw.unarmed hf.not_unarmed

-- ---------------------------------------------------------------------------
-- The calls of locking and unlocking
-- ---------------------------------------------------------------------------

theorem load_calm {device : Path} :
    Succeeds (Calm known) ((crypto (δ := δ)).load device) :=
  recorded_calm fun _ hw => hw

theorem activate_calm {device : Path} {name : String} {password : Bytes}
    (h : ∀ w : Bench δ, w.Calm known → w.header.accepts password = true) :
    Succeeds (Calm known) ((crypto (δ := δ)).activate device name password) := by
  refine recorded_calm fun w hw => ?_
  refine Triple.bind (R := fun a w' => a = w ∧ w' = w) ⟨rfl, rfl⟩ ?_
  rintro _ _ ⟨rfl, rfl⟩
  rw [if_pos (h _ hw)]
  exact ⟨hw.unarmed, hw.passphrase⟩

theorem deactivate_calm {name : String} :
    Succeeds (Calm known) ((crypto (δ := δ)).deactivate name) :=
  recorded_calm fun _ hw => ⟨hw.unarmed, hw.passphrase⟩

theorem mount_calm {source target : Path} {t : FilesystemType} {options : MountOptions} :
    Succeeds (Calm known) ((filesystem (δ := δ)).mount source target t options) :=
  recorded_calm fun _ hw => ⟨hw.unarmed, hw.passphrase⟩

theorem unmount_calm {target : Path} :
    Succeeds (Calm known) ((filesystem (δ := δ)).unmount target) :=
  recorded_calm fun _ hw => ⟨hw.unarmed, hw.passphrase⟩

theorem createDirectory_calm {path : Path} :
    Succeeds (Calm known) ((filesystem (δ := δ)).createDirectory path) :=
  recorded_calm fun _ hw => ⟨hw.unarmed, hw.passphrase⟩

theorem removeDirectory_calm {path : Path} :
    Succeeds (Calm known) ((filesystem (δ := δ)).removeDirectory path) :=
  recorded_calm fun _ hw => ⟨hw.unarmed, hw.passphrase⟩

-- ---------------------------------------------------------------------------
-- Locking and unlocking
-- ---------------------------------------------------------------------------

theorem require_calm {expected : LockState} {change : StateChange} (h : v.state = expected) :
    Succeeds (Calm known) (v.require expected change : EStateM Failure (Bench δ) Unit) := by
  intro w hw
  refine Triple.mono (require_triple h) ?_ fun _ _ hf => hf.elim
  rintro _ _ rfl
  exact hw

theorem mountFilesystem_calm {t : FilesystemType} :
    Succeeds (Calm known) (v.mountFilesystem (backends d) t) := by
  have mounting : Succeeds (Calm known) (Volume.step ((backends d).filesystem.mount
      v.identity.mappedDevice v.identity.mountPoint t v.settings.filesystem.mount)
      (.internal .mount)) := mount_calm.step
  refine Keeps.bind (fun _ hw => ⟨hw.unarmed, hw.passphrase⟩) fun present => ?_
  split
  · exact mounting
  · exact Keeps.bind createDirectory_calm.step fun _ => mounting.undoing

theorem lock_calm (hu : v.state = .unlocked) :
    Succeeds (Calm known) (v.lock (backends d)) := by
  rw [Volume.lock_eq]
  refine Keeps.bind (require_calm hu) fun _ => ?_
  refine Keeps.bind unmount_calm.step fun _ => ?_
  refine Keeps.bind removeDirectory_calm.step fun _ => ?_
  refine Keeps.bind deactivate_calm.step fun _ => ?_
  exact Keeps.pure

theorem unlock_calm {password : Bytes} (hl : v.state = .locked)
    (h : ∀ w : Bench δ, w.Calm known → w.header.accepts password = true) :
    Succeeds (Calm known) (v.unlock (backends d) password) := by
  rw [Volume.unlock_eq]
  refine Keeps.bind (require_calm hl) fun _ => ?_
  refine Keeps.bind load_calm.step fun _ => ?_
  refine Keeps.bind (activate_calm h).step fun _ => ?_
  refine Keeps.bind mountFilesystem_calm.undoing fun _ => ?_
  exact Keeps.pure

end Bench

-- ---------------------------------------------------------------------------
-- What is not the volume's
-- ---------------------------------------------------------------------------

/-- The scenes differ only in the mapping and at the mount point of `v`. -/
structure Scene.Elsewhere (v : Volume) (c c' : Scene) : Prop where
  active : ∀ name ≠ v.identity.container, c'.active name = c.active name
  directory : ∀ k ≠ v.identity.mountPoint.key, c'.directory k = c.directory k
  mounted : ∀ k ≠ v.identity.mountPoint.key, c'.mounted k = c.mounted k

namespace Scene.Elsewhere

variable {v : Volume} {c c' c'' : Scene}

theorem refl : Elsewhere v c c := ⟨fun _ _ => rfl, fun _ _ => rfl, fun _ _ => rfl⟩

theorem trans (h : Elsewhere v c c') (h' : Elsewhere v c' c'') : Elsewhere v c c'' where
  active name hn := (h'.active name hn).trans (h.active name hn)
  directory k hk := (h'.directory k hk).trans (h.directory k hk)
  mounted k hk := (h'.mounted k hk).trans (h.mounted k hk)

theorem setActive {value : Bool} (h : Elsewhere v c c') :
    Elsewhere v c (c'.setActive v.identity.container value) :=
  ⟨fun name hn => by simp [Scene.setActive, hn, h.active name hn], h.directory, h.mounted⟩

theorem setDirectory {value : Bool} (h : Elsewhere v c c') :
    Elsewhere v c (c'.setDirectory v.identity.mountPoint value) :=
  ⟨h.active, fun k hk => by simp [Scene.setDirectory, hk, h.directory k hk], h.mounted⟩

theorem setMount {mount : Option Mount} (h : Elsewhere v c c') :
    Elsewhere v c (c'.setMount v.identity.mountPoint mount) :=
  ⟨h.active, h.directory, fun k hk => by simp [Scene.setMount, hk, h.mounted k hk]⟩

/-- Scenes may differ in what was counted. -/
theorem of_eq (h : Elsewhere v c c') (ha : c''.active = c'.active)
    (hd : c''.directory = c'.directory) (hm : c''.mounted = c'.mounted) : Elsewhere v c c'' :=
  ⟨ha ▸ h.active, hd ▸ h.directory, hm ▸ h.mounted⟩

theorem of_givenUp {f : Failure} (h : c.GivenUp v f c') : Elsewhere v c c' := by
  cases h with
  | early => exact refl
  | @late _ _ _ c₁ _ hcleared hclosed =>
    have hmade : Elsewhere v c c₁ := by
      cases hcleared with
      | asBefore => exact refl.setActive
      | left _ => exact refl.setActive.setDirectory
    cases hclosed with
    | closed _ => exact hmade.setActive.of_eq rfl rfl rfl
    | left _ => exact hmade.of_eq rfl rfl rfl

theorem of_halfLocked (h : c.HalfLocked v c') : Elsewhere v c c' := by
  cases h with
  | mounted _ => exact refl.of_eq rfl rfl rfl
  | unmounted _ => exact refl.setMount.of_eq rfl rfl rfl
  | removed _ _ => exact refl.setMount.setDirectory.of_eq rfl rfl rfl

theorem of_moves {v' : Volume} {operation : Operation}
    {outcome : Except Failure Operation.Answer} (h : Scene.Moves v c operation outcome v' c') :
    v'.identity = v.identity ∧ Elsewhere v c c' := by
  cases h with
  | formatted _ => exact ⟨rfl, refl.setActive.setDirectory.setMount⟩
  | unlocked _ => exact ⟨rfl, refl.setActive.setDirectory.setMount⟩
  | givenUp _ _ hgiven => exact ⟨rfl, of_givenUp hgiven⟩
  | locked _ => exact ⟨rfl, refl.setMount.setDirectory.setActive.of_eq rfl rfl rfl⟩
  | halfLocked _ hhalf => exact ⟨rfl, of_halfLocked hhalf⟩
  | refused _ _ => exact ⟨rfl, refl⟩
  | other _ => exact ⟨rfl, refl⟩

/-- All that is done to a volume is done to its own mapping and mount point. -/
theorem along_history {d : BlockDevices δ η} {R : δ → δ → Prop} {start m : Managed (Bench δ)}
    {events : List (Event δ)} (h : History (Bench.backends d) R start events m) :
    m.volume.identity = start.volume.identity ∧
      Elsewhere start.volume start.world.scene m.world.scene := by
  induction h with
  | start => exact ⟨rfl, refl⟩
  | @perform _ m operation _ ih =>
    obtain ⟨hi, ih⟩ := ih
    obtain ⟨hi', hmoved⟩ := of_moves (perform_moves (d := d) m operation)
    refine ⟨hi'.trans hi, ih.trans ?_⟩
    exact ⟨hi ▸ hmoved.active, hi ▸ hmoved.directory, hi ▸ hmoved.mounted⟩
  | arm _ _ _ ih => exact ⟨ih.1, ih.2.of_eq rfl rfl rfl⟩
  | disarm _ ih => exact ⟨ih.1, ih.2.of_eq rfl rfl rfl⟩
  | rearrange _ _ _ ih => exact ih

end Scene.Elsewhere

-- ---------------------------------------------------------------------------
-- Recovery
-- ---------------------------------------------------------------------------

variable {d : BlockDevices δ η} {m : Managed (Bench δ)}

/-- The same state with every armed failure cleared. -/
def cleared (m : Managed (Bench δ)) : Managed (Bench δ) :=
  { m with world := { m.world with journal := m.world.journal.disarm } }

/-- Locked, and nothing is left of an opening. -/
structure Shut (m : Managed (Bench δ)) : Prop where
  locked : m.volume.state = .locked
  inactive : m.world.header.active m.volume.identity.container = false
  unmounted : m.world.tree.mountAt m.volume.identity.mountPoint = none
  removed : m.world.tree.isDirectory m.volume.identity.mountPoint = false

/-- Unlocked, with the volume's filesystem mounted. -/
structure Open (m : Managed (Bench δ)) : Prop where
  unlocked : m.volume.state = .unlocked
  active : m.world.header.active m.volume.identity.container = true
  mounted : m.world.tree.mountAt m.volume.identity.mountPoint =
    some ⟨m.volume.identity.mappedDevice, m.volume.fsType, m.volume.settings.filesystem.mount⟩
  present : m.world.tree.isDirectory m.volume.identity.mountPoint = true

theorem cleared_calm (m : Managed (Bench δ)) :
    (cleared m).world.Calm m.world.header.passphrase := ⟨rfl, rfl⟩

theorem Shut.of_scene {v : Volume} {w : Bench δ} {c : Scene} (h : w.scene = c.locked v) :
    Shut ⟨{ v with state := .locked }, w⟩ where
  locked := rfl
  inactive := by
    refine (congrArg (Scene.active · v.identity.container) h).trans ?_
    simp [Scene.locked, Scene.setActive]
  unmounted := by
    refine (congrArg (Scene.mounted · v.identity.mountPoint.key) h).trans ?_
    simp [Scene.locked, Scene.setActive, Scene.setDirectory, Scene.setMount]
  removed := by
    refine (congrArg (Scene.directory · v.identity.mountPoint.key) h).trans ?_
    simp [Scene.locked, Scene.setActive, Scene.setDirectory]

theorem Open.of_scene {v : Volume} {w : Bench δ} {c : Scene}
    (h : w.scene = (c.setActive v.identity.container true).mountedOn v v.fsType) :
    Open ⟨{ v with state := .unlocked }, w⟩ where
  unlocked := rfl
  active := by
    refine (congrArg (Scene.active · v.identity.container) h).trans ?_
    simp [Scene.mountedOn, Scene.setActive, Scene.setDirectory, Scene.setMount]
  mounted := by
    refine (congrArg (Scene.mounted · v.identity.mountPoint.key) h).trans ?_
    simp [Scene.mountedOn, Scene.setMount]
  present := by
    refine (congrArg (Scene.directory · v.identity.mountPoint.key) h).trans ?_
    simp [Scene.mountedOn, Scene.setDirectory, Scene.setMount]

theorem lock_recovers (hu : m.volume.state = .unlocked) :
    ((cleared m).perform (Bench.backends d) .lock).1 = .ok .done ∧
      ((cleared m).perform (Bench.backends d) .lock).2.volume =
        { m.volume with state := .locked } ∧
      Shut ((cleared m).perform (Bench.backends d) .lock).2 := by
  refine Managed.perform_of_triple (P := fun outcome (m' : Managed (Bench δ)) =>
    outcome = .ok .done ∧ m'.volume = { m.volume with state := .locked } ∧ Shut m') ?_
  rw [Operation.run_eq]
  refine Triple.bind (Triple.mono ((Bench.lock_calm hu).of_triple (cleared_calm m)
    (Bench.lock_triple hu rfl)) (fun _ _ h => h) fun _ _ h => h.elim) ?_
  rintro _ w ⟨rfl, hw⟩
  exact Triple.pure ⟨rfl, rfl, .of_scene hw⟩

theorem unlock_recovers {password : Bytes} (hl : m.volume.state = .locked)
    (ha : m.world.header.accepts password = true) :
    ((cleared m).perform (Bench.backends d) (.unlock password)).1 = .ok .done ∧
      ((cleared m).perform (Bench.backends d) (.unlock password)).2.volume =
        { m.volume with state := .unlocked } ∧
      Open ((cleared m).perform (Bench.backends d) (.unlock password)).2 := by
  have accepting : ∀ w : Bench δ, w.Calm m.world.header.passphrase →
      w.header.accepts password = true := by
    intro w hw
    simpa only [Header.accepts, hw.passphrase] using ha
  refine Managed.perform_of_triple (P := fun outcome (m' : Managed (Bench δ)) =>
    outcome = .ok .done ∧ m'.volume = { m.volume with state := .unlocked } ∧ Open m') ?_
  rw [Operation.run_eq]
  refine Triple.bind (Triple.mono ((Bench.unlock_calm hl accepting).of_triple (cleared_calm m)
    (Bench.unlock_triple hl rfl)) (fun _ _ h => h) fun _ _ h => h.elim) ?_
  rintro _ w ⟨rfl, hw⟩
  exact Triple.pure ⟨rfl, rfl, .of_scene hw⟩

/-- One more event of a history, run with no failure armed: it succeeds, sets
the lock state and has not reached beyond the volume. -/
structure Restores {R : δ → δ → Prop} {start : Managed (Bench δ)} {events : List (Event δ)}
    (_ : History (Bench.backends d) R start events m) (state : LockState) (e : Event δ) :
    Prop where
  before : e.before = cleared m
  history : History (Bench.backends d) R start (e :: events) e.after
  succeeds : e.outcome = .ok .done
  volume : e.after.volume = { m.volume with state }
  elsewhere : Scene.Elsewhere start.volume start.world.scene e.after.world.scene

/-- Whatever was done to a volume and whichever calls have failed: with the
failures cleared, one more operation makes the lock state true. -/
theorem recovers_of_history {R : δ → δ → Prop} {start : Managed (Bench δ)}
    {events : List (Event δ)} (h : History (Bench.backends d) R start events m) :
    (m.volume.state = .unlocked →
      let e := Event.of (Bench.backends d) (cleared m) .lock
      Restores h .locked e ∧ Shut e.after) ∧
    (m.volume.state = .locked → ∀ password, m.world.header.accepts password = true →
      let e := Event.of (Bench.backends d) (cleared m) (.unlock password)
      Restores h .unlocked e ∧ Open e.after) := by
  refine ⟨fun hu => ?_, fun hl password ha => ?_⟩
  · have hnext := h.disarm.perform .lock
    obtain ⟨hdone, hvolume, hshut⟩ := lock_recovers (d := d) hu
    exact ⟨⟨rfl, hnext, hdone, hvolume, (Scene.Elsewhere.along_history hnext).2⟩, hshut⟩
  · have hnext := h.disarm.perform (.unlock password)
    obtain ⟨hdone, hvolume, hopen⟩ := unlock_recovers (d := d) hl ha
    exact ⟨⟨rfl, hnext, hdone, hvolume, (Scene.Elsewhere.along_history hnext).2⟩, hopen⟩

/-- A formatting that failed and could not close its mapping is no obstacle to
unlocking. -/
theorem recovers_of_history_leftMapping :
    ∃ events m, History Bench.onDisk (fun _ _ => False) sample events m ∧
      m.volume.state = .locked ∧ m.world.header.active "data" = true ∧
      Open ((cleared m).perform Bench.onDisk (.unlock [112])).2 := by
  have hstart : History Bench.onDisk (fun _ _ => False) sample [] sample := .start
  have hstuck := (hstart.arm .mount (-5)).arm .deactivate (-16)
  have hleft := hstuck.perform (.format [112] .ext4)
  exact ⟨_, _, hleft, rfl, rfl, ((recovers_of_history hleft).2 rfl [112] rfl).2⟩

end Memory

end EmmcVault
