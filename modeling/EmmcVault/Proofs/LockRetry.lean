import EmmcVault.Proofs.Effect
import EmmcVault.Proofs.Recovery

/-!
# Locking again after a failure

Locking takes three steps and undoes none of them, so locking again starts
from what the failed attempt left. On a system whose kernel refuses to unmount
where nothing is mounted and to remove a directory that is missing or not
empty, locking again succeeds exactly where the first attempt has changed
nothing and the mount point holds nothing of its own. Where it has unmounted
the filesystem, no number of further attempts leads anywhere.
-/

namespace EmmcVault

open Text

variable {ε σ η α β : Type}

/-- What is at a mount point, below the filesystems mounted there. -/
inductive Ground where
  | missing
  | empty
  /-- A directory that holds something, or no directory. -/
  | occupied
deriving DecidableEq, Repr

/-- What the system has of a volume: its mapping, and its mount point. -/
structure Standing where
  mapped : Bool
  /-- Number of filesystems mounted at the mount point, one upon the other. -/
  mounts : Nat
  ground : Ground
deriving DecidableEq, Repr

namespace Standing

/-- Nothing is left of an opening. -/
def down : Standing := ⟨false, 0, .missing⟩

/-- All that an opening sets up is there, and nothing else. -/
def up : Standing := ⟨true, 1, .empty⟩

def opened (p : Standing) : Standing where
  mapped := true
  mounts := p.mounts + 1
  ground := if p.ground = .missing then .empty else p.ground

/-- One filesystem is mounted, on an empty directory. -/
def Lockable (p : Standing) : Prop := p.mounts = 1 ∧ p.ground = .empty

/-- Where a locking that failed has stopped, and what it leaves. -/
inductive Interrupted (p : Standing) : Failure → Standing → Prop
  | unmount {cause} : Interrupted p ⟨.internal .unmount cause, []⟩ p
  | removeMountPoint {cause} : 0 < p.mounts →
      Interrupted p ⟨.internal .removeMountPoint cause, []⟩ { p with mounts := p.mounts - 1 }
  | deactivate {cause} : p.Lockable →
      Interrupted p ⟨.internal .deactivate cause, []⟩ { p with mounts := 0, ground := .missing }

theorem Lockable.eq_up {p : Standing} (h : p.Lockable) (hm : p.mapped = true) : p = .up := by
  obtain ⟨mapped, mounts, ground⟩ := p
  obtain ⟨rfl, rfl⟩ := h
  cases hm
  rfl

theorem opened_eq_up_iff {p : Standing} (h : p.mounts = 0) :
    p.opened = .up ↔ p.ground ≠ .occupied := by
  obtain ⟨mapped, mounts, ground⟩ := p
  cases h
  cases ground <;> simp [opened, up]

theorem Interrupted.mapped {p q : Standing} {f : Failure} (h : Interrupted p f q) :
    q.mapped = p.mapped := by
  cases h <;> rfl

end Standing

-- ---------------------------------------------------------------------------
-- Laws of the backends
-- ---------------------------------------------------------------------------

section
variable (standing : σ → Standing) (calm : σ → Prop)

/-- The call does its work or nothing at all. It does it only where that is
possible, and always where it is possible and the system is calm. -/
def Attempts (possible : Standing → Prop) (after : Standing → Standing) (call : Call σ Unit)
    (s : σ) : Prop :=
  Triple call s
    (fun _ s' => possible (standing s) ∧ standing s' = after (standing s) ∧ (calm s → calm s'))
    (fun _ s' => standing s' = standing s ∧ (calm s → calm s' ∧ ¬ possible (standing s)))

/-- How the calls of a locking act on the system. In a calm system no call
fails without a reason in what is mounted and what lies below it. -/
structure LockLaws (b : Backends σ η) (i : VolumeIdentity) : Prop where
  unmount : ∀ s, Attempts standing calm (0 < ·.mounts)
    (fun p => { p with mounts := p.mounts - 1 }) (b.filesystem.unmount i.mountPoint) s
  removeDirectory : ∀ s, Attempts standing calm (fun p => p.mounts = 0 ∧ p.ground = .empty)
    (fun p => { p with ground := .missing }) (b.filesystem.removeDirectory i.mountPoint) s
  /-- A mapping from which nothing is mounted closes when it is asked to. -/
  deactivate : ∀ s, (standing s).mounts = 0 → Attempts standing calm (fun _ => True)
    (fun p => { p with mapped := false }) (b.crypto.deactivate i.container) s

/-- Where it succeeds, `x` changes the standing as `f` does. -/
def Brings (f : Standing → Standing) (x : EStateM ε σ α) : Prop :=
  ∀ s, Triple x s (fun _ s' => standing s' = f (standing s)) fun _ _ => True

/-- How the calls of an opening act on the system, where they succeed. -/
structure OpeningLaws (b : Backends σ η) (i : VolumeIdentity) : Prop where
  format : ∀ params, Brings standing id (b.crypto.format i.device params)
  addKeyslot : ∀ passphrase, Brings standing id (b.crypto.addKeyslot i.device passphrase)
  load : Brings standing id (b.crypto.load i.device)
  activate : ∀ passphrase, Brings standing (fun p => { p with mapped := true })
    (b.crypto.activate i.device i.container passphrase)
  makeFilesystem : ∀ t options,
    Brings standing id (b.filesystem.makeFilesystem i.mappedDevice t options)
  checkFilesystem : ∀ t options,
    Brings standing id (b.filesystem.checkFilesystem i.mappedDevice t options)
  directoryExists : ∀ s, standing (b.filesystem.directoryExists i.mountPoint s).2 = standing s
  present : ∀ s, (b.filesystem.directoryExists i.mountPoint s).1 = true →
    (standing s).ground ≠ .missing
  createDirectory : Brings standing
    (fun p => { p with ground := if p.ground = .missing then .empty else p.ground })
    (b.filesystem.createDirectory i.mountPoint)
  mount : ∀ t options, Brings standing (fun p => { p with mounts := p.mounts + 1 })
    (b.filesystem.mount i.mappedDevice i.mountPoint t options)

end

-- ---------------------------------------------------------------------------
-- Opening
-- ---------------------------------------------------------------------------

section
variable {standing : σ → Standing} {calm : σ → Prop}

namespace Brings

variable {f g : Standing → Standing} {x : EStateM ε σ α}

theorem bind {k : α → EStateM ε σ β} (h : Brings standing f x)
    (hk : ∀ a, Brings standing g (k a)) : Brings standing (g ∘ f) (x >>= k) := by
  intro s
  refine Triple.bind (h s) fun a s' hs => ?_
  refine Triple.mono (hk a s') (fun _ _ h => ?_) fun _ _ h => h
  rw [h, hs]
  rfl

/-- First a step that changes nothing. -/
theorem skip {k : α → EStateM ε σ β} (h : Brings standing id x)
    (hk : ∀ a, Brings standing g (k a)) : Brings standing g (x >>= k) :=
  h.bind hk

theorem map {k : α → β} (h : Brings standing f x) :
    Brings standing f (x >>= fun a => Pure.pure (k a)) :=
  h.bind (g := id) fun _ _ => rfl

theorem step {call : Call σ α} {fault : BackendError → Fault} (h : Brings standing f call) :
    Brings standing f (Volume.step call fault) := fun s =>
  Triple.step (Triple.mono (h s) (fun _ _ h => h) fun _ _ _ => trivial)

theorem undoing {undo : Call σ Unit} {body : EStateM Failure σ α} (h : Brings standing f body) :
    Brings standing f (Volume.undoing undo body) := fun s =>
  Triple.undoing (h s) fun _ _ _ => Triple.mono Triple.trivial (fun _ _ _ => trivial)
    fun _ _ _ => trivial

theorem require {v : Volume} {expected : LockState} {change : StateChange} :
    Brings standing id (v.require expected change : EStateM Failure σ Unit) := by
  intro s
  unfold Volume.require
  split
  · exact Triple.pure rfl
  · exact Triple.throw trivial

end Brings

namespace Volume

variable {b : Backends σ η} {v : Volume}

theorem mountFilesystem_brings (laws : OpeningLaws standing b v.identity) {t : FilesystemType} :
    Brings standing (fun p => { p.opened with mapped := p.mapped }) (v.mountFilesystem b t) := by
  have mounting : Brings standing _ (Volume.step (b.filesystem.mount v.identity.mappedDevice
    v.identity.mountPoint t v.settings.filesystem.mount) (.internal .mount)) :=
    (laws.mount t v.settings.filesystem.mount).step
  intro s
  unfold Volume.mountFilesystem
  refine Triple.bind (R := fun present s' => standing s' = standing s ∧
    (present = true → (standing s).ground ≠ .missing)) ?_ ?_
  · exact ⟨laws.directoryExists s, laws.present s⟩
  rintro present s₁ ⟨hs, hp⟩
  split
  · rename_i h
    refine Triple.mono (mounting s₁) (fun _ s₂ h₂ => ?_) fun _ _ h => h
    rw [h₂, hs]
    simp only [Standing.opened, if_neg (hp h)]
  · refine Triple.mono ((laws.createDirectory.step.bind fun _ => mounting.undoing) s₁)
      (fun _ s₂ h₂ => ?_) fun _ _ h => h
    rw [h₂, hs]
    rfl

theorem format_brings (laws : OpeningLaws standing b v.identity) {password : Bytes}
    {t : FilesystemType} : Brings standing Standing.opened (v.format b password t) := by
  rw [format_eq]
  refine Brings.require.skip fun _ => ?_
  refine (laws.format _).step.skip fun _ => ?_
  refine (laws.addKeyslot _).step.skip fun _ => ?_
  refine laws.load.step.skip fun _ => ?_
  refine (laws.activate password).step.bind (g := fun p => { p.opened with mapped := p.mapped })
    fun _ => Brings.map (Brings.undoing ?_)
  refine Brings.skip ?_ fun _ => mountFilesystem_brings laws
  exact (laws.makeFilesystem _ _).step.skip fun _ => (laws.checkFilesystem _ _).step

theorem unlock_brings (laws : OpeningLaws standing b v.identity) {password : Bytes} :
    Brings standing Standing.opened (v.unlock b password) := by
  rw [unlock_eq]
  refine Brings.require.skip fun _ => ?_
  refine laws.load.step.skip fun _ => ?_
  exact (laws.activate password).step.bind (g := fun p => { p.opened with mapped := p.mapped })
    fun _ => (mountFilesystem_brings laws).undoing.map

/-- A successful opening sets up all of it. -/
theorem opens_triple (laws : OpeningLaws standing b v.identity) {operation : Operation}
    (ho : operation.opens = true) (s : σ) :
    Triple (operation.run b v) s (fun a s' => a.2.state = .unlocked ∧
      a.2.identity = v.identity ∧ standing s' = (standing s).opened) (fun _ _ => True) := by
  rw [Operation.run_eq]
  cases operation with
  | format password t =>
    refine Triple.bind (Triple.mono (Triple.and format_leads (format_brings laws s))
      (fun _ _ h => h) fun _ _ _ => trivial) ?_
    rintro _ s' ⟨rfl, hs⟩
    exact Triple.pure ⟨rfl, rfl, hs⟩
  | unlock password =>
    refine Triple.bind (Triple.mono (Triple.and unlock_leads (unlock_brings laws s))
      (fun _ _ h => h) fun _ _ _ => trivial) ?_
    rintro _ s' ⟨rfl, hs⟩
    exact Triple.pure ⟨rfl, rfl, hs⟩
  | _ => cases ho

-- ---------------------------------------------------------------------------
-- Locking
-- ---------------------------------------------------------------------------

/-- A locking succeeds only where one filesystem is mounted on an empty
directory, and there always in a calm system. -/
theorem lock_attempt (laws : LockLaws standing calm b v.identity) (hu : v.state = .unlocked)
    (s : σ) : Triple (v.lock b) s
      (fun v' s' => v' = { v with state := .locked } ∧ (standing s).Lockable ∧
        standing s' = .down ∧ (calm s → calm s'))
      (fun f s' => (standing s).Interrupted f (standing s') ∧
        (calm s → calm s' ∧ ¬ (standing s).Lockable)) := by
  rw [lock_eq]
  refine Triple.bind (R := fun _ s₀ => s₀ = s) (by simp only [require, if_pos hu]; exact rfl) ?_
  rintro _ s rfl
  refine Triple.bind (Triple.step (Triple.mono (laws.unmount s) (fun _ _ h => h) ?_)) ?_
  · rintro cause s₁ ⟨h₁, hc₁⟩
    rw [h₁]
    refine ⟨.unmount, fun hc => ⟨(hc₁ hc).1, fun hl => (hc₁ hc).2 ?_⟩⟩
    show 0 < (standing s).mounts
    rw [hl.1]
    exact Nat.one_pos
  rintro _ s₁ ⟨hpos, h₁, hc₁⟩
  have hlockable : (standing s₁).mounts = 0 ∧ (standing s₁).ground = .empty ↔
      (standing s).Lockable := by
    rw [h₁]
    exact and_congr_left' (by show (standing s).mounts - 1 = 0 ↔ (standing s).mounts = 1; omega)
  refine Triple.bind (Triple.step (Triple.mono (laws.removeDirectory s₁) (fun _ _ h => h) ?_)) ?_
  · rintro cause s₂ ⟨h₂, hc₂⟩
    rw [h₂, h₁]
    exact ⟨.removeMountPoint hpos, fun hc => ⟨(hc₂ (hc₁ hc)).1,
      fun hl => (hc₂ (hc₁ hc)).2 (hlockable.mpr hl)⟩⟩
  rintro _ s₂ ⟨hempty, h₂, hc₂⟩
  have hl : (standing s).Lockable := hlockable.mp hempty
  have hbare : standing s₂ = { standing s with mounts := 0, ground := .missing } := by
    simp only [h₂, h₁, hl.1]
  have hnone : (standing s₂).mounts = 0 := by rw [hbare]
  refine Triple.bind (Triple.step (Triple.mono (laws.deactivate s₂ hnone) (fun _ _ h => h) ?_)) ?_
  · rintro cause s₃ ⟨h₃, hc₃⟩
    rw [h₃, hbare]
    exact ⟨.deactivate hl, fun hc => absurd trivial (hc₃ (hc₂ (hc₁ hc))).2⟩
  · rintro _ s₃ ⟨-, h₃, hc₃⟩
    refine Triple.pure ⟨rfl, hl, ?_, fun hc => hc₃ (hc₂ (hc₁ hc))⟩
    rw [h₃, hbare]
    rfl

-- ---------------------------------------------------------------------------
-- Locking again
-- ---------------------------------------------------------------------------

/-- Where nothing is mounted a locking fails in its first step. -/
theorem lock_unmounted (laws : LockLaws standing calm b v.identity) (hu : v.state = .unlocked)
    {s : σ} (hnone : (standing s).mounts = 0) :
    Triple (v.lock b) s (fun _ _ => False) (fun _ s' => standing s' = standing s) := by
  refine Triple.mono (lock_attempt laws hu s) ?_ ?_
  · rintro v' s' ⟨-, hl, -⟩
    rw [Standing.Lockable, hnone] at hl
    exact absurd hl.1 Nat.zero_ne_one
  · rintro f s' ⟨hi, -⟩
    generalize standing s' = q at hi
    cases hi with
    | unmount => rfl
    | removeMountPoint hpos => exact absurd hnone (Nat.ne_of_gt hpos)
    | deactivate hl => exact absurd (hnone.symm.trans hl.1) Nat.zero_ne_one

/-- No number of lockings changes anything. -/
def Stuck (standing : σ → Standing) (b : Backends σ η) (m : Managed σ) : Prop :=
  ∀ n, let m' := Nat.repeat (fun m => (Managed.perform m b .lock).2) n m
    m'.volume = m.volume ∧ standing m'.world = standing m.world

theorem stuck_of_unmounted (laws : LockLaws standing calm b v.identity)
    (hu : v.state = .unlocked) {s : σ} (hnone : (standing s).mounts = 0) :
    Stuck standing b ⟨v, s⟩ := by
  intro n
  induction n with
  | zero => exact ⟨rfl, rfl⟩
  | succ n ih =>
    simp only [Nat.repeat] at ih ⊢
    generalize Nat.repeat (fun m => (Managed.perform m b .lock).2) n ⟨v, s⟩ = m at ih ⊢
    obtain ⟨w, t⟩ := m
    obtain ⟨rfl, ht⟩ : w = v ∧ standing t = standing s := ih
    refine Managed.perform_of_triple (P := fun _ (m' : Managed σ) =>
      m'.volume = w ∧ standing m'.world = standing s) ?_
    rw [Operation.run_eq]
    refine Triple.bind (Triple.mono (lock_unmounted laws hu (by rw [ht, hnone]))
      (fun _ _ h => h) fun _ _ h => ⟨rfl, h.trans ht⟩) fun _ _ h => h.elim

end Volume

end

-- ---------------------------------------------------------------------------
-- A bench on which the kernel has a say
-- ---------------------------------------------------------------------------

namespace Memory

variable {δ η : Type} {i : VolumeIdentity}

/-- What a scene has of a volume. -/
def Scene.standing (i : VolumeIdentity) (c : Scene) : Standing where
  mapped := c.active i.container
  mounts := if (c.mounted i.mountPoint.key).isSome then 1 else 0
  ground := if c.directory i.mountPoint.key then .empty else .missing

namespace Bench

/-- The filesystems of a bench, where only a directory can be mounted on, only
what is mounted can be unmounted, and only a directory on which nothing is
mounted can be removed. -/
def kernelFilesystem : FilesystemBackend (Bench δ) :=
  { filesystem with
    mount := fun source target t options => do
      let w ← get
      if w.tree.isDirectory target && (w.tree.mountAt target).isNone then
        filesystem.mount source target t options
      else throw (.status CallKind.mount.name (-16))
    unmount := fun target => do
      if ((← get).tree.mountAt target).isSome then filesystem.unmount target
      else throw (.status CallKind.unmount.name (-22))
    removeDirectory := fun path => do
      let w ← get
      if w.tree.isDirectory path && (w.tree.mountAt path).isNone then
        filesystem.removeDirectory path
      else throw (.status CallKind.removeDirectory.name (-2)) }

def onKernel (d : BlockDevices δ η) : Backends (Bench δ) η :=
  { backends d with filesystem := kernelFilesystem }

variable {d : BlockDevices δ η}

/-- A call that first looks at the bench. -/
theorem looking {α : Type} {rest : Bench δ → Call (Bench δ) α} {w : Bench δ}
    {Q : α → Bench δ → Prop} {E : BackendError → Bench δ → Prop} (h : Triple (rest w) w Q E) :
    Triple (get >>= rest) w Q E :=
  Triple.bind (R := fun a w' => a = w ∧ w' = w) ⟨rfl, rfl⟩ fun _ _ ⟨ha, hw⟩ => ha ▸ hw ▸ h

theorem lockLaws : LockLaws (fun w => w.scene.standing i) Unarmed (onKernel d) i where
  unmount w := by
    refine looking ?_
    split
    · rename_i h
      have hm : (w.scene.mounted i.mountPoint.key).isSome = true := h
      refine Triple.mono unmount_triple ?_ ?_
      · rintro _ w' ⟨-, hs⟩
        simp [Scene.standing, Scene.setMount, Unarmed, hs, hm]
      · rintro cause w' ⟨hf, hs⟩
        exact ⟨by simp only [hs]; rfl, fun hw => absurd hw hf.not_unarmed⟩
    · rename_i h
      have hm : (w.scene.mounted i.mountPoint.key).isSome ≠ true := h
      refine Triple.throw ⟨rfl, fun hw => ⟨hw, ?_⟩⟩
      simp [Scene.standing, hm]
  removeDirectory w := by
    refine looking ?_
    split
    · rename_i h
      obtain ⟨hd, hm⟩ := Bool.and_eq_true_iff.mp h
      have hd : w.scene.directory i.mountPoint.key = true := hd
      have hm : (w.scene.mounted i.mountPoint.key).isNone = true := hm
      refine Triple.mono removeDirectory_triple ?_ ?_
      · intro _ w' hs
        simp [Scene.standing, Scene.setDirectory, Unarmed, hs, hd, hm]
      · rintro cause w' ⟨hf, hs⟩
        exact ⟨by simp only [hs], fun hw => absurd hw hf.not_unarmed⟩
    · rename_i h
      have hn : ¬ (w.scene.directory i.mountPoint.key && (w.scene.mounted i.mountPoint.key).isNone)
        = true := h
      refine Triple.throw ⟨rfl, fun hw => ⟨hw, ?_⟩⟩
      simpa [Scene.standing, and_comm] using hn
  deactivate w _ := by
    refine Triple.mono deactivate_triple ?_ ?_
    · rintro _ w' ⟨-, hs⟩
      simp [Scene.standing, Scene.setActive, Unarmed, hs]
    · rintro cause w' ⟨hf, hs⟩
      exact ⟨by simp only [hs]; rfl, fun hw => absurd hw hf.not_unarmed⟩

theorem Keeps.brings {α : Type} {call : Call (Bench δ) α}
    (h : ∀ c, Keeps (fun w : Bench δ => w.scene = c) (fun _ => True) call) :
    Brings (fun w : Bench δ => w.scene.standing i) id call := fun w =>
  Triple.mono (h _ w rfl) (fun _ _ h => congrArg (Scene.standing i) h) fun _ _ _ => trivial

theorem openingLaws : OpeningLaws (fun w => w.scene.standing i) (onKernel d) i where
  format _ := Keeps.brings fun _ => format_quiet
  addKeyslot _ := Keeps.brings fun _ => addKeyslot_quiet
  load := Keeps.brings fun _ => load_quiet
  activate _ := fun w => Triple.mono activate_triple (fun _ w' hs => by
    simp [Scene.standing, Scene.setActive, hs]) fun _ _ _ => trivial
  makeFilesystem _ _ := Keeps.brings fun _ => makeFilesystem_quiet
  checkFilesystem _ _ := Keeps.brings fun _ => checkFilesystem_quiet
  directoryExists w := congrArg (Scene.standing i) (scene_noted (by decide) (by decide))
  present w h := by
    have hd : w.scene.directory i.mountPoint.key = true := h
    simp [Scene.standing, hd]
  createDirectory w := Triple.mono createDirectory_triple (fun _ w' hs => by
    simp [Scene.standing, Scene.setDirectory, hs]) fun _ _ _ => trivial
  mount t options w := by
    refine looking ?_
    split
    · rename_i h
      have hm : (w.scene.mounted i.mountPoint.key).isNone = true := (Bool.and_eq_true_iff.mp h).2
      refine Triple.mono mount_triple (fun _ w' hs => ?_) fun _ _ _ => trivial
      simp [Scene.standing, Scene.setMount, hs, hm]
    · exact Triple.throw trivial

end Bench

end Memory

-- ---------------------------------------------------------------------------
-- The second attempt
-- ---------------------------------------------------------------------------

namespace Volume

section
variable {standing : σ → Standing} {calm : σ → Prop} {b : Backends σ η} {v : Volume}

/-- After an opening a locking has failed, and whatever made it fail is gone.
Locking again succeeds where the standing is as the opening leaves it on a
clean mount point: there, only if the first attempt could not even unmount and
the directory was not filled. Once it has unmounted the only filesystem there,
the volume cannot be locked any more. -/
theorem lock_again (laws : LockLaws standing calm b v.identity)
    (opening : OpeningLaws standing b v.identity) {operation : Operation}
    (ho : operation.opens = true) {s s₁ t t' u : σ} {answer : Operation.Answer} {v₁ : Volume}
    {f : Failure} (hopen : operation.run b v s = .ok (answer, v₁) s₁)
    (ht : standing t = standing s₁) (hlock : v₁.lock b t = .error f t')
    (hu : standing u = standing t') (hcalm : calm u) :
    (standing s).opened.Interrupted f (standing t') ∧
      ((∃ w, v₁.lock b u = .ok { v₁ with state := .locked } w ∧ standing w = .down) ↔
        standing t' = .up) ∧
      ((standing s).mounts = 0 → (standing t' = .up ↔
        (∃ cause, f = ⟨.internal .unmount cause, []⟩) ∧ (standing s).ground ≠ .occupied)) ∧
      ((standing t').mounts = 0 → Stuck standing b ⟨v₁, u⟩) := by
  have hopened := opens_triple opening ho s
  simp only [Triple, hopen] at hopened
  obtain ⟨hstate, hidentity, hs₁⟩ := hopened
  rw [← hidentity] at laws
  have hfirst := lock_attempt laws hstate t
  simp only [Triple, hlock, ht, hs₁] at hfirst
  obtain ⟨hi, -⟩ := hfirst
  refine ⟨hi, ?_, fun hclean => ?_, fun hnone => ?_⟩
  · refine ⟨?_, fun hup => ?_⟩
    · rintro ⟨w, hw, -⟩
      have hagain := lock_attempt laws hstate u
      simp only [Triple, hw, hu] at hagain
      exact hagain.2.1.eq_up hi.mapped
    · have hl : (standing u).Lockable := by
        rw [hu, hup]
        exact ⟨rfl, rfl⟩
      rcases (lock_attempt laws hstate u).cases with ⟨_, w, hw, rfl, -, hdown, -⟩ | ⟨_, w, -, -, hc⟩
      · exact ⟨w, hw, hdown⟩
      · exact absurd hl (hc hcalm).2
  · generalize standing t' = q at hi
    cases hi with
    | unmount => exact (Standing.opened_eq_up_iff hclean).trans (and_iff_right ⟨_, rfl⟩).symm
    | removeMountPoint _ => simp [Standing.opened, Standing.up, hclean, Fault.internal]
    | deactivate _ => simp [Standing.up, Fault.internal]
  · exact stuck_of_unmounted laws hstate (by rw [hu, hnone])

end

open Memory in
/-- On a bench with a kernel, a locking that could not unmount is tried again. -/
theorem lock_again_busyMount :
    let start := { sample.world with journal := sample.world.journal.arm .unmount (-16) }
    let opened := ((Managed.mk sample.volume start).perform (Bench.onKernel Disk.devices)
      (.format [112] .ext4)).2
    let failed := (opened.perform (Bench.onKernel Disk.devices) .lock).2
    failed.volume.state = .unlocked ∧
      ∃ w, opened.volume.lock (Bench.onKernel Disk.devices) (cleared failed).world =
        .ok { opened.volume with state := .locked } w ∧
        w.scene.standing opened.volume.identity = .down := by
  intro start opened failed
  have hopen : (Operation.format [112] .ext4).run (Bench.onKernel Disk.devices) sample.volume start =
    .ok (.done, opened.volume) opened.world := rfl
  have hlock : opened.volume.lock (Bench.onKernel Disk.devices) opened.world =
    .error ⟨.internal .unmount (.status "unmount" (-16)), []⟩ failed.world := rfl
  refine ⟨rfl, ?_⟩
  exact (lock_again (u := (cleared failed).world) Bench.lockLaws Bench.openingLaws rfl hopen rfl
    hlock rfl rfl).2.1.mpr rfl

open Memory in
/-- A locking that could not close the mapping is tried again in vain. -/
theorem not_lock_again :
    let start := { sample.world with journal := sample.world.journal.arm .deactivate (-5) }
    let opened := ((Managed.mk sample.volume start).perform (Bench.onKernel Disk.devices)
      (.format [112] .ext4)).2
    let failed := opened.perform (Bench.onKernel Disk.devices) .lock
    let again := (cleared failed.2).perform (Bench.onKernel Disk.devices) .lock
    opened.volume.state = .unlocked ∧
      failed.1 = .error ⟨.internal .deactivate (.status "deactivate" (-5)), []⟩ ∧
      again.1 = .error ⟨.internal .unmount (.status "unmount" (-22)), []⟩ ∧
      again.2.volume.state = .unlocked ∧ again.2.world.header.active "data" = true :=
  ⟨rfl, rfl, rfl, rfl, rfl⟩

end Volume

end EmmcVault
