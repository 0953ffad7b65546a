import EmmcVault.Proofs.Bench

/-!
# What the lock state stands for

The part of a bench that the lock state of a volume speaks of: active mappings,
directories and mounts, with the armed failures and the number of times that
unmounting and closing a mapping were tried. One rule for each backend call
says how it moves the scene; the device never does.
-/

namespace EmmcVault.Memory

open Text

variable {δ η : Type}

structure Scene where
  armed : CallKind → Option Int
  active : String → Bool
  directory : Path.Key → Bool
  mounted : Path.Key → Option Mount
  unmounts : Nat
  deactivations : Nat

namespace Scene

def setActive (c : Scene) (name : String) (value : Bool) : Scene :=
  { c with active := fun n => if n = name then value else c.active n }

def setDirectory (c : Scene) (p : Path) (value : Bool) : Scene :=
  { c with directory := fun k => if k = p.key then value else c.directory k }

def setMount (c : Scene) (p : Path) (mount : Option Mount) : Scene :=
  { c with mounted := fun k => if k = p.key then mount else c.mounted k }

theorem setDirectory_present {c : Scene} {p : Path} (h : c.directory p.key = true) :
    c.setDirectory p true = c := by
  have hd : (fun k => if k = p.key then true else c.directory k) = c.directory := by
    funext k
    by_cases hk : k = p.key
    · simp [hk, h]
    · simp [hk]
  simp only [setDirectory, hd]

/-- What is switched on and off again is as it was. -/
theorem switched_back {κ : Type} [DecidableEq κ] {f : κ → Bool} {a : κ} (h : f a = false) :
    (fun k => if k = a then false else if k = a then true else f k) = f := by
  funext k
  by_cases hk : k = a
  · simp [hk, h]
  · simp [hk]

/-- Making a missing directory and removing it again leaves no trace. -/
theorem setDirectory_undone {c : Scene} {p : Path} (h : c.directory p.key = false) :
    (c.setDirectory p true).setDirectory p false = c := by
  simp only [setDirectory, switched_back h]

theorem setActive_undone {c : Scene} {name : String} (h : c.active name = false) :
    (c.setActive name true).setActive name false = c := by
  simp only [setActive, switched_back h]

end Scene

namespace Bench

variable {w : Bench δ}

def scene (w : Bench δ) : Scene where
  armed := w.journal.armed
  active := w.header.active
  directory := w.tree.directory
  mounted := w.tree.mounted
  unmounts := w.journal.count .unmount
  deactivations := w.journal.count .deactivate

theorem scene_noted {kind : CallKind} (hu : kind ≠ .unmount) (hd : kind ≠ .deactivate) :
    (w.noted kind).scene = w.scene := by
  simp only [scene, noted, count_note, if_neg hu, if_neg hd]
  rfl

-- ---------------------------------------------------------------------------
-- Calls that leave the scene as it is
-- ---------------------------------------------------------------------------

section
variable {c : Scene} {device : Path} {passphrase : Bytes} {slot : UInt32}

theorem quiet {kind : CallKind} {α : Type} {rest : Call (Bench δ) α} (hu : kind ≠ .unmount)
    (hd : kind ≠ .deactivate)
    (h : ∀ w : Bench δ, w.scene = c →
      Triple rest w (fun _ w' => w'.scene = c) (fun _ w' => w'.scene = c)) :
    Keeps (fun w : Bench δ => w.scene = c) (fun _ => True) (do record kind; rest) := by
  intro w hw
  have hn : (w.noted kind).scene = c := by rw [scene_noted hu hd, hw]
  refine recorded ?_ fun cause _ => ⟨hn, trivial⟩
  exact Triple.mono (h _ hn) (fun _ _ h => h) fun _ _ h => ⟨h, trivial⟩

theorem format_quiet {params : EncryptionParams} :
    Keeps (fun w : Bench δ => w.scene = c) (fun _ => True) (crypto.format device params) :=
  quiet (by decide) (by decide) fun _ h => h

theorem addKeyslot_quiet :
    Keeps (fun w : Bench δ => w.scene = c) (fun _ => True) (crypto.addKeyslot device passphrase) :=
  quiet (by decide) (by decide) fun _ h => h

theorem load_quiet :
    Keeps (fun w : Bench δ => w.scene = c) (fun _ => True) (crypto.load device) :=
  quiet (by decide) (by decide) fun _ h => h

theorem changePassphrase_quiet {old new : Bytes} :
    Keeps (fun w : Bench δ => w.scene = c) (fun _ => True)
      (crypto.changePassphrase device old new) :=
  quiet (by decide) (by decide) fun _ h => h

theorem erasing_quiet :
    (crypto (δ := δ)).KeepsErasing device (fun w => w.scene = c) where
  load := load_quiet
  maxKeyslots _ := quiet (by decide) (by decide) fun _ h => h
  keyslotStatus _ := quiet (by decide) (by decide) fun _ h => h
  destroyKeyslot _ := quiet (by decide) (by decide) fun _ h => h

theorem makeFilesystem_quiet {t : FilesystemType} {options : List String} :
    Keeps (fun w : Bench δ => w.scene = c) (fun _ => True)
      (filesystem.makeFilesystem device t options) :=
  quiet (by decide) (by decide) fun _ h => h

theorem checkFilesystem_quiet {t : FilesystemType} {options : List String} :
    Keeps (fun w : Bench δ => w.scene = c) (fun _ => True)
      (filesystem.checkFilesystem device t options) :=
  quiet (by decide) (by decide) fun _ h => h

end

-- ---------------------------------------------------------------------------
-- Calls that move it
-- ---------------------------------------------------------------------------

theorem activate_triple {device : Path} {name : String} {passphrase : Bytes} :
    Triple (crypto.activate device name passphrase) w
      (fun _ w' => w'.scene = w.scene.setActive name true) (fun _ w' => w'.scene = w.scene) := by
  have hn : (w.noted .activate).scene = w.scene := scene_noted (by decide) (by decide)
  refine recorded ?_ fun _ _ => hn
  refine Triple.bind (R := fun a w' => a = w.noted .activate ∧ w' = a) ⟨rfl, rfl⟩ ?_
  rintro _ _ ⟨rfl, rfl⟩
  split
  · exact congrArg (Scene.setActive · name true) hn
  · exact Triple.throw hn

theorem deactivate_triple {name : String} :
    Triple (crypto.deactivate name) w
      (fun _ w' => w.journal.armed .deactivate = none ∧ w'.scene =
        { w.scene.setActive name false with deactivations := w.scene.deactivations + 1 })
      (fun cause w' => w.Fails .deactivate cause ∧
        w'.scene = { w.scene with deactivations := w.scene.deactivations + 1 }) := by
  have hn : (w.noted .deactivate).scene =
      { w.scene with deactivations := w.scene.deactivations + 1 } := by
    simp only [scene, noted, count_note]
    rfl
  refine Triple.bind (Triple.mono record_triple (fun _ _ h => h) ?_) ?_
  · rintro cause _ ⟨rfl, hf⟩
    exact ⟨hf, hn⟩
  · rintro _ _ ⟨rfl, ha⟩
    exact ⟨ha, congrArg (Scene.setActive · name false) hn⟩

theorem unmount_triple {target : Path} :
    Triple (filesystem.unmount target) w
      (fun _ w' => w.journal.armed .unmount = none ∧ w'.scene =
        { w.scene.setMount target none with unmounts := w.scene.unmounts + 1 })
      (fun cause w' => w.Fails .unmount cause ∧
        w'.scene = { w.scene with unmounts := w.scene.unmounts + 1 }) := by
  have hn : (w.noted .unmount).scene = { w.scene with unmounts := w.scene.unmounts + 1 } := by
    simp only [scene, noted, count_note]
    rfl
  refine Triple.bind (Triple.mono record_triple (fun _ _ h => h) ?_) ?_
  · rintro cause _ ⟨rfl, hf⟩
    exact ⟨hf, hn⟩
  · rintro _ _ ⟨rfl, ha⟩
    exact ⟨ha, congrArg (Scene.setMount · target none) hn⟩

theorem mount_triple {source target : Path} {t : FilesystemType} {options : MountOptions} :
    Triple (filesystem.mount source target t options) w
      (fun _ w' => w'.scene = w.scene.setMount target (some ⟨source, t, options⟩))
      (fun _ w' => w'.scene = w.scene) := by
  have hn : (w.noted .mount).scene = w.scene := scene_noted (by decide) (by decide)
  refine recorded ?_ fun _ _ => hn
  exact congrArg (Scene.setMount · target (some ⟨source, t, options⟩)) hn

theorem createDirectory_triple {path : Path} :
    Triple (filesystem.createDirectory path) w
      (fun _ w' => w'.scene = w.scene.setDirectory path true)
      (fun _ w' => w'.scene = w.scene) := by
  have hn : (w.noted .createDirectory).scene = w.scene := scene_noted (by decide) (by decide)
  refine recorded ?_ fun _ _ => hn
  exact congrArg (Scene.setDirectory · path true) hn

theorem removeDirectory_triple {path : Path} :
    Triple (filesystem.removeDirectory path) w
      (fun _ w' => w'.scene = w.scene.setDirectory path false)
      (fun cause w' => w.Fails .removeDirectory cause ∧ w'.scene = w.scene) := by
  have hn : (w.noted .removeDirectory).scene = w.scene := scene_noted (by decide) (by decide)
  refine recorded ?_ fun _ hf => ⟨hf, hn⟩
  exact congrArg (Scene.setDirectory · path false) hn

end Bench

end EmmcVault.Memory
