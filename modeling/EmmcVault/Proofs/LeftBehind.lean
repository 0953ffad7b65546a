import EmmcVault.Proofs.HostLog
import EmmcVault.Proofs.Opening
import EmmcVault.Proofs.SandboxTree

/-!
# What a failed opening leaves behind

In memory, formatting and unlocking undo what they did to mappings, mounts and
directories, unless they say which undo step failed. On a directory tree they
do not: a mount point is made with all directories missing above it, and only
the mount point itself is removed again.
-/

namespace EmmcVault

open Text

namespace Memory

variable {δ η : Type}

-- ---------------------------------------------------------------------------
-- In memory
-- ---------------------------------------------------------------------------

/-- Mappings, mounts and directories are as they were. -/
structure Scene.Untouched (c c' : Scene) : Prop where
  active : c'.active = c.active
  mounted : c'.mounted = c.mounted
  directory : c'.directory = c.directory

theorem Scene.GivenUp.untouched_iff {v : Volume} {c c' : Scene} {f : Failure}
    (h : GivenUp v c f c') (hi : c.active v.identity.container = false) :
    Untouched c c' ↔ f.rollback = [] := by
  cases h with
  | early => exact ⟨fun _ => rfl, fun _ => ⟨rfl, rfl, rfl⟩⟩
  | late hcleared hclosed =>
    cases hclosed with
    | closed _ =>
      cases hcleared with
      | asBefore =>
        have hactive := congrArg Scene.active (setActive_undone hi)
        exact ⟨fun _ => rfl, fun _ => ⟨hactive, rfl, rfl⟩⟩
      | left habsent _ =>
        refine ⟨fun h => ?_, by simp⟩
        have hd := congrFun h.directory v.identity.mountPoint.key
        have habsent : c.directory v.identity.mountPoint.key = false := habsent
        simp [setDirectory, setActive, habsent] at hd
    | left _ =>
      refine ⟨fun h => ?_, by simp⟩
      have ha := congrFun h.active v.identity.container
      cases hcleared <;> simp [setDirectory, setActive, hi] at ha

variable {d : BlockDevices δ η}

theorem Scene.Moves.givenUp_of_opens {v v' : Volume} {c c' : Scene} {operation : Operation}
    {f : Failure} (h : Moves v c operation (.error f) v' c') (ho : operation.opens = true)
    (hl : v.state = .locked) : c.GivenUp v f c' := by
  have he : operation.expects? = some .locked := by
    cases operation <;> first | rfl | cases ho
  cases h with
  | givenUp _ _ hgiven => exact hgiven
  | halfLocked _ _ => cases ho
  | refused he' hne =>
    cases he.symm.trans he'
    exact (hne hl).elim
  | other hnone => cases he.symm.trans hnone

/-- Where a locked volume whose mapping is closed can be neither formatted nor
unlocked, all is as it was, unless an undo step failed and is named. -/
theorem failed_opening_untouched {m m' : Managed (Bench δ)} {operation : Operation} {f : Failure}
    (ho : operation.opens = true) (hl : m.volume.state = .locked)
    (hi : m.world.header.active m.volume.identity.container = false)
    (h : m.perform (Bench.backends d) operation = (.error f, m')) :
    (m'.world.header.active = m.world.header.active ∧
      m'.world.tree.mounted = m.world.tree.mounted ∧
      m'.world.tree.directory = m.world.tree.directory) ↔ f.rollback = [] := by
  have hmoves := perform_moves (d := d) m operation
  rw [h] at hmoves
  rw [← (hmoves.givenUp_of_opens ho hl).untouched_iff hi]
  exact ⟨fun ⟨ha, hm, hd⟩ => ⟨ha, hm, hd⟩, fun ⟨ha, hm, hd⟩ => ⟨ha, hm, hd⟩⟩

/-- The mount fails, and nothing is left of the mount point. -/
theorem failed_opening_untouched_sample :
    let m := { sample with world := { sample.world with
      journal := sample.world.journal.arm .mount (-5) } }
    let f : Failure := ⟨.internal .mount (.status "mount" (-5)), []⟩
    sample.volume.state = .locked ∧ sample.world.header.active "data" = false ∧
      (m.perform Bench.onDisk (.format [112] .xfs)).1 = .error f ∧
      (m.perform Bench.onDisk (.format [112] .xfs)).2.world.tree.directory =
        sample.world.tree.directory := by
  intro m f
  have hfails : m.perform Bench.onDisk (.format [112] .xfs) =
      (.error f, (m.perform Bench.onDisk (.format [112] .xfs)).2) := rfl
  obtain ⟨-, -, hdirectory⟩ := (failed_opening_untouched rfl rfl rfl hfails).mpr rfl
  exact ⟨rfl, rfl, rfl, hdirectory⟩

end Memory

-- ---------------------------------------------------------------------------
-- What only runs tools
-- ---------------------------------------------------------------------------

namespace Linux

section
variable {σ η : Type} {h : Host σ η} {K : σ → Prop} {program : String} {device : Path}

theorem Session.onWorld_keeps {ε α : Type} {call : EStateM ε σ α}
    (hc : Keeps K (fun _ => True) call) :
    Keeps (fun s => K s.world) (fun _ => True) (Session.onWorld call) := fun s hs =>
  Session.onWorld_triple (hc s.world hs)

variable (hrun : ∀ r, Keeps K (fun _ => True) (h.run r))
include hrun

theorem Host.report_keeps (r : ToolRun) : Keeps K (fun _ => True) (h.report r) :=
  .bind (.adaptExcept (hrun r)) fun _ => .pure

theorem Host.runChecked_keeps (r : ToolRun) : Keeps K (fun _ => True) (h.runChecked r) :=
  .bind (Host.report_keeps hrun r) fun _ => .ite .pure (.throw trivial)

omit hrun in
theorem Host.requireTool_keeps {tool : String} {missing : SystemError} :
    Keeps K (fun _ => True) (h.requireTool tool missing) :=
  .bind .get fun _ => .ite .pure (.throw trivial)

theorem Host.makeFilesystem_keeps {t : FilesystemType} {options : List String} :
    Keeps K (fun _ => True) (h.makeFilesystem device t options) :=
  .bind Host.requireTool_keeps fun _ => .bind (Host.runChecked_keeps hrun _) fun _ => .pure

theorem Host.checkFilesystem_keeps {t : FilesystemType} {options : List String} :
    Keeps K (fun _ => True) (h.checkFilesystem device t options) :=
  .bind Host.requireTool_keeps fun _ => .bind (Host.report_keeps hrun _) fun _ =>
    .ite .pure (.throw trivial)

omit hrun in
theorem Host.mountDevice_keeps (hmount : ∀ c, Keeps K (fun _ => True) (h.mount c))
    {target : Path} {t : FilesystemType} {o : MountOptions} :
    Keeps K (fun _ => True) (h.mountDevice device target t o) :=
  .ite (hmount _) (.throw trivial)

namespace Cryptsetup

omit hrun in
theorem pathArg_keeps : Keeps K (fun _ => True) (pathArg device) :=
  .ite .pure (.throw trivial)

omit hrun in
theorem requireDevice_keeps : Keeps K (fun _ => True) (requireDevice h device) :=
  .bind .get fun _ => .ite .pure (.throw trivial)

theorem load_keeps : Keeps K (fun _ => True) (load h program device) := by
  have hheader : Keeps K (fun _ => True) (requireHeader h program device) :=
    .bind pathArg_keeps fun _ => .bind (Host.report_keeps hrun _) fun _ =>
      .ite .pure (.throw trivial)
  have hdump : Keeps K (fun _ => True) (dump h program device) := by
    refine .bind pathArg_keeps fun arg => .bind (Host.runChecked_keeps hrun _) fun report => ?_
    split
    · exact .pure
    · exact .throw trivial
  exact .bind requireDevice_keeps fun _ => .bind hheader fun _ => .bind hdump fun _ => .pure

theorem activate_keeps {name : String} {passphrase : Bytes} :
    Keeps K (fun _ => True) (activate h program device name passphrase) :=
  .bind pathArg_keeps fun _ => .bind (Host.runChecked_keeps hrun _) fun _ => .pure

omit hrun in
theorem format_keeps {params : EncryptionParams} :
    Keeps (fun s => K s.world) (fun _ => True) (format h device params) :=
  .bind (Session.onWorld_keeps (.adaptExcept requireDevice_keeps)) fun _ _ hs => hs

theorem addKeyslot_keeps {passphrase : Bytes} :
    Keeps (fun s => K s.world) (fun _ => True) (addKeyslot h program device passphrase) := by
  have hwrite : ∀ params, Keeps K (fun _ => True) (writeHeader h program device params passphrase) :=
    fun _ => .bind pathArg_keeps fun _ => .bind (Host.runChecked_keeps hrun _) fun _ => .pure
  refine .bind .get fun s => ?_
  split
  · exact .throw trivial
  · rename_i params _
    refine .bind (fun _ hs => hs) fun _ => ?_
    exact .bind (Session.onWorld_keeps (.adaptExcept (hwrite params))) fun _ => .pure

theorem deactivate_keeps {name : String} :
    Keeps (fun s => K s.world) (fun _ => True) ((backend h program).deactivate name) :=
  Session.onWorld_keeps (.adaptExcept (.bind (Host.runChecked_keeps hrun _) fun _ => .pure))

end Cryptsetup

end

-- ---------------------------------------------------------------------------
-- On a directory tree
-- ---------------------------------------------------------------------------

namespace Sandbox

variable {program : String} {v : Volume} {s₀ : Sandbox} {s : Session Sandbox} {t : FilesystemType}

/-- Tree and current directory are those of `s₀`. -/
structure Level (s₀ s : Sandbox) : Prop where
  tree : s.tree = s₀.tree
  current : s.current = s₀.current

theorem Level.congr (s s' : Sandbox) (ht : s'.tree = s.tree) (hc : s'.current = s.current)
    (h : Level s₀ s) : Level s₀ s' :=
  ⟨ht.trans h.tree, hc.trans h.current⟩

theorem Paved.congr {p : Path} (s s' : Sandbox) (ht : s'.tree = s.tree)
    (hc : s'.current = s.current) (h : Paved s₀ p s) : Paved s₀ p s' :=
  ⟨hc.trans h.current, ht ▸ h.grown⟩

/-- If the mounting is what failed, and every undo step succeeded, this is what
the tree is like. -/
def GivenUp (v : Volume) (s₀ : Sandbox) (f : Failure) (s : Session Sandbox) : Prop :=
  ∀ cause, f = ⟨.internal .mount cause, []⟩ → Remains s₀ v.identity.mountPoint s.world.tree

theorem mountFilesystem_givenUp (hs : Level s₀ s.world) :
    Triple (v.mountFilesystem (host.backendsUsing program) t) s (fun _ _ => True)
      (GivenUp v s₀) := by
  have hpresent : s.world.isDirectory v.identity.mountPoint =
      s₀.isDirectory v.identity.mountPoint := by
    simp only [isDirectory, stat?, hs.tree, hs.current]
  have mounting : ∀ {K : Sandbox → Prop}, (∀ s s', s'.tree = s.tree → s'.current = s.current →
      K s → K s') → Keeps (fun s : Session Sandbox => K s.world)
        (fun f : Failure => f.rollback = []) (Volume.step
          ((host.backendsUsing program).filesystem.mount v.identity.mappedDevice
            v.identity.mountPoint t v.settings.filesystem.mount) (.internal .mount)) :=
    fun hK => .step (Session.onWorld_keeps (.adaptExcept (Host.mountDevice_keeps (mount_keeps hK))))
      fun _ => rfl
  unfold Volume.mountFilesystem
  refine Triple.bind (R := fun present s' => present = s₀.isDirectory v.identity.mountPoint ∧
    Level s₀ s'.world) ⟨hpresent, hs⟩ ?_
  rintro present s₁ ⟨rfl, h₁⟩
  split
  · rename_i hdir
    refine Triple.mono (mounting Level.congr s₁ h₁) (fun _ _ _ => trivial) ?_
    rintro f s₂ ⟨h₂, -⟩ cause -
    rw [h₂.tree]
    exact .of_present hdir
  · rename_i hdir
    have hmissing : s₀.isDirectory v.identity.mountPoint = false := by simpa using hdir
    have hpaved : Paved s₀ v.identity.mountPoint s₁.world := ⟨h₁.current, h₁.tree ▸ .refl⟩
    refine Triple.bind (Triple.step (Triple.mono (Session.onWorld_keeps
      (.adaptExcept makeDirectories_paved) s₁ hpaved) (fun _ _ h => h) ?_)) ?_
    · rintro _ s₂ - cause hf
      cases hf
    · intro _ s₂ h₂
      refine Triple.undoing (Triple.mono (mounting Paved.congr s₂ h₂) (fun _ _ _ => trivial)
        fun _ _ h => h) ?_
      rintro f s₃ ⟨h₃, hrollback⟩
      refine Session.onWorld_triple (Triple.adaptExcept (Triple.mono
        (removeDirectory_remains h₃ hmissing) ?_ ?_))
      · intro _ w hw cause _
        exact hw
      · intro _ w _ cause hf
        simp at hf

/-- What follows the activation of the mapping, which is closed again. -/
theorem undoing_givenUp {name : String} {body : EStateM Failure (Session Sandbox) Unit}
    (hb : Triple body s (fun _ _ => True) (GivenUp v s₀)) :
    Triple (Volume.undoing ((host.backendsUsing program).crypto.deactivate name) body) s
      (fun _ _ => True) (GivenUp v s₀) := by
  refine Triple.undoing hb fun f s₁ h₁ => ?_
  have hclose : Keeps (fun s : Session Sandbox => s.world.tree = s₁.world.tree) (fun _ => True)
      ((host.backendsUsing program).crypto.deactivate name) :=
    Cryptsetup.deactivate_keeps (K := fun s : Sandbox => s.tree = s₁.world.tree)
      (run_keeps fun _ _ ht _ hs => ht.trans hs)
  refine Triple.mono (hclose s₁ rfl) ?_ ?_
  · intro _ s₂ ht cause hf
    rw [ht]
    exact h₁ cause hf
  · intro _ s₂ _ cause hf
    simp at hf

/-- A step that only runs tools, and is not the mounting. -/
theorem step_level {α : Type} {call : Call (Session Sandbox) α} {fault : BackendError → Fault}
    (h : Keeps (fun s : Session Sandbox => Level s₀ s.world) (fun _ => True) call)
    (hf : ∀ cause cause', fault cause ≠ .internal .mount cause') (hs : Level s₀ s.world) :
    Triple (Volume.step call fault) s (fun _ s' => Level s₀ s'.world) (GivenUp v s₀) := by
  refine Triple.step (Triple.mono (h s hs) (fun _ _ h => h) ?_)
  intro cause s' _ cause' he
  exact (hf cause cause' (congrArg Failure.fault he)).elim

theorem require_level {expected : LockState} {change : StateChange} (hs : Level s₀ s.world) :
    Triple (v.require expected change) s (fun _ s' => Level s₀ s'.world) (GivenUp v s₀) := by
  unfold Volume.require
  split
  · exact Triple.pure hs
  · refine Triple.throw fun cause he => ?_
    cases he

theorem format_givenUp {password : Bytes} (hs : Level s₀ s.world) :
    Triple (v.format (host.backendsUsing program) password t) s (fun _ _ => True)
      (GivenUp v s₀) := by
  have hrun : ∀ r, Keeps (Level s₀) (fun _ => True) (host.run r) := run_keeps Level.congr
  rw [Volume.format_eq]
  refine Triple.bind (require_level hs) fun _ s₁ h₁ => ?_
  refine Triple.bind (step_level Cryptsetup.format_keeps nofun h₁) fun _ s₂ h₂ => ?_
  refine Triple.bind (step_level (Cryptsetup.addKeyslot_keeps hrun) nofun h₂) fun _ s₃ h₃ => ?_
  refine Triple.bind (step_level (Session.onWorld_keeps (.adaptExcept
    (Cryptsetup.load_keeps hrun))) nofun h₃) fun _ s₄ h₄ => ?_
  refine Triple.bind (step_level (Session.onWorld_keeps (.adaptExcept
    (Cryptsetup.activate_keeps hrun))) nofun h₄) fun _ s₅ h₅ => ?_
  refine Triple.bind (undoing_givenUp ?_) fun _ _ _ => Triple.pure trivial
  refine Triple.bind (R := fun _ s' => Level s₀ s'.world) ?_ fun _ s₆ h₆ => ?_
  · refine Triple.bind (step_level (Session.onWorld_keeps (.adaptExcept
      (Host.makeFilesystem_keeps hrun))) nofun h₅) fun _ s₆ h₆ => ?_
    exact step_level (Session.onWorld_keeps (.adaptExcept
      (Host.checkFilesystem_keeps hrun))) nofun h₆
  · exact mountFilesystem_givenUp h₆

theorem unlock_givenUp {password : Bytes} (hs : Level s₀ s.world) :
    Triple (v.unlock (host.backendsUsing program) password) s (fun _ _ => True)
      (GivenUp v s₀) := by
  have hrun : ∀ r, Keeps (Level s₀) (fun _ => True) (host.run r) := run_keeps Level.congr
  rw [Volume.unlock_eq]
  refine Triple.bind (require_level hs) fun _ s₁ h₁ => ?_
  refine Triple.bind (step_level (Session.onWorld_keeps (.adaptExcept
    (Cryptsetup.load_keeps hrun))) nofun h₁) fun _ s₂ h₂ => ?_
  refine Triple.bind (step_level (Session.onWorld_keeps (.adaptExcept
    (Cryptsetup.activate_keeps hrun))) nofun h₂) fun _ s₃ h₃ => ?_
  exact Triple.bind (undoing_givenUp (mountFilesystem_givenUp h₃)) fun _ _ _ => Triple.pure trivial

/-- When the mount of a formatting or unlocking fails and every undo step
succeeds, the directories made above the mount point stay. The tree is as
before exactly if the mount point was there or nothing but it was missing. -/
theorem failed_mount_remains {m m' : Managed (Session Sandbox)} {operation : Operation}
    {cause : BackendError} (ho : operation.opens = true)
    (h : m.perform (host.backendsUsing program) operation =
      (.error ⟨.internal .mount cause, []⟩, m')) :
    Remains m.world.world m.volume.identity.mountPoint m'.world.world.tree := by
  have hs : Level m.world.world m.world.world := ⟨rfl, rfl⟩
  have hends : Triple (operation.run (host.backendsUsing program) m.volume) m.world
      (fun _ _ => True) (GivenUp m.volume m.world.world) := by
    rw [Operation.run_eq]
    cases operation with
    | format _ _ => exact Triple.bind (format_givenUp hs) fun _ _ _ => Triple.pure trivial
    | unlock _ => exact Triple.bind (unlock_givenUp hs) fun _ _ _ => Triple.pure trivial
    | _ => cases ho
  exact hends.error (Managed.run_of_perform_error h) cause rfl

/-- A locked volume on a machine that cannot mount it. -/
def unmountable (mountPoint : String) : Managed (Session Sandbox) where
  volume := .attach ⟨.ofString "/dev", "data", .ofString mountPoint⟩ ⟨0, 1024⟩ {}
  world := { world := {
    tree := ⟨[([Utf8.encode "dev"], .file ⟨.empty, 0o644⟩)]⟩
    installed := ["cryptsetup"]
    replies := fun key =>
      if key = "cryptsetup.luksDump" then [{ out := Utf8.encode "Version: 2\n" }] else []
    mounts := [some .invalid] } }

/-- Where only the mount point is missing, the tree is as before. -/
theorem failed_mount_remains_single :
    let m := unmountable "/fs"
    let run := m.perform (host.backendsUsing "cryptsetup") (.unlock [112])
    run.1 = .error ⟨.internal .mount (.status "mount" (-22)), []⟩ ∧
      run.2.world.world.tree = m.world.world.tree := by
  intro m run
  have hfails : run.1 = .error ⟨.internal .mount (.status "mount" (-22)), []⟩ := by
    decide +kernel
  have hrun : run = (.error ⟨.internal .mount (.status "mount" (-22)), []⟩, run.2) := by
    rw [← hfails]
  have hremains := failed_mount_remains rfl hrun
  refine ⟨hfails, hremains.restored_iff.mpr (.inr ?_)⟩
  decide +kernel

/-- Where the directory above it is missing too, that one stays. -/
theorem not_failed_mount_restores :
    let m := unmountable "/mnt/fs"
    let run := m.perform (host.backendsUsing "cryptsetup") (.unlock [112])
    run.1 = .error ⟨.internal .mount (.status "mount" (-22)), []⟩ ∧
      run.2.world.world.tree = m.world.world.tree.add [Utf8.encode "mnt"] .directory ∧
      run.2.world.world.tree ≠ m.world.world.tree := by
  decide +kernel

end Sandbox

end Linux

end EmmcVault
