import EmmcVault.Proofs.Opening

/-!
# The lock state tells the truth

Unlocked should mean that the mapping is active and the filesystem mounted, and
locked that neither is. Failures and failed undo steps leave more states than
these two; `LockInvariant` says which ones there are and what in the history
of the volume each of them takes.
-/

namespace EmmcVault.Memory

variable {δ η : Type}

namespace Event

variable {e : Event δ}

/-- The operation made a call of this kind, which no armed failure stopped. -/
def Did (e : Event δ) (kind : CallKind) : Prop :=
  e.before.world.journal.count kind < e.after.world.journal.count kind ∧
    e.before.world.journal.armed kind = none

/-- A formatting or unlocking that succeeded. -/
def Opened (e : Event δ) : Prop :=
  e.operation.opens = true ∧ ∃ answer, e.outcome = .ok answer

/-- A formatting or unlocking that failed, and whose undo steps could not
close the mapping. -/
def LeftMapping (e : Event δ) : Prop :=
  e.operation.opens = true ∧ ∃ f code, e.outcome = .error f ∧
    e.before.world.journal.armed .deactivate = some code ∧
    .status CallKind.deactivate.name code ∈ f.rollback

/-- A locking that failed after its unmounting. -/
def HalfLocked (e : Event δ) : Prop :=
  e.operation = .lock ∧ (∃ f, e.outcome = .error f) ∧ e.Did .unmount

end Event

/-- What the lock state says of the bench, given what has happened. -/
structure LockInvariant (events : List (Event δ)) (m : Managed (Bench δ)) : Prop where
  locked_unmounted : m.volume.state = .locked →
    m.world.tree.mountAt m.volume.identity.mountPoint = none
  unlocked_active : m.volume.state = .unlocked →
    m.world.header.active m.volume.identity.container = true
  /-- A mapping that is active behind a locked volume was left by a failed
  opening, and nothing has closed it since. -/
  locked_active : m.volume.state = .locked →
    m.world.header.active m.volume.identity.container = true →
    ∃ later e earlier, events = later ++ e :: earlier ∧ e.LeftMapping ∧
      ∀ x ∈ later, ¬ x.Did .deactivate
  /-- An unlocked volume was opened, and where nothing is mounted a locking
  has failed half way since it was opened last. -/
  unlocked_opened : m.volume.state = .unlocked →
    ∃ later e earlier, events = later ++ e :: earlier ∧ e.Opened ∧ (∀ x ∈ later, ¬ x.Opened) ∧
      (m.world.tree.mountAt m.volume.identity.mountPoint = none → ∃ x ∈ later, x.HalfLocked)
  mounted_volume : ∀ mount, m.world.tree.mountAt m.volume.identity.mountPoint = some mount →
    mount = ⟨m.volume.identity.mappedDevice, m.volume.fsType, m.volume.settings.filesystem.mount⟩ ∧
      m.world.tree.isDirectory m.volume.identity.mountPoint = true

namespace Scene

variable {v : Volume} {c c' : Scene} {f : Failure} {r : List BackendError}

theorem Cleared.mounted (h : Cleared v c r c') : c'.mounted = c.mounted := by
  cases h <;> rfl

theorem Cleared.armed (h : Cleared v c r c') : c'.armed = c.armed := by
  cases h <;> rfl

theorem GivenUp.mounted (h : GivenUp v c f c') : c'.mounted = c.mounted := by
  cases h with
  | early => rfl
  | late hcleared hclosed =>
    cases hclosed <;> exact hcleared.mounted

/-- A mapping that is active after a failed opening was not touched, or could
not be closed. -/
theorem GivenUp.active (h : GivenUp v c f c') (ha : c'.active v.identity.container = true) :
    c' = c ∨ ∃ code, c.armed .deactivate = some code ∧
      .status CallKind.deactivate.name code ∈ f.rollback := by
  cases h with
  | early => exact .inl rfl
  | late hcleared hclosed =>
    right
    cases hclosed with
    | closed => simp [setActive] at ha
    | @left code harmed =>
      refine ⟨code, ?_, by simp⟩
      rw [hcleared.armed] at harmed
      exact harmed

end Scene

namespace LockInvariant

variable {events : List (Event δ)} {m : Managed (Bench δ)}

/-- The invariant of a volume and a scene, whichever bench shows it. -/
theorem of_scene {v : Volume} {c : Scene} (hv : m.volume = v) (hc : m.world.scene = c)
    (hmounted : ∀ mount, c.mounted v.identity.mountPoint.key = some mount →
      mount = ⟨v.identity.mappedDevice, v.fsType, v.settings.filesystem.mount⟩ ∧
        c.directory v.identity.mountPoint.key = true)
    (hstate : (v.state = .locked ∧ c.mounted v.identity.mountPoint.key = none ∧
        (c.active v.identity.container = true →
          ∃ later e earlier, events = later ++ e :: earlier ∧ e.LeftMapping ∧
            ∀ x ∈ later, ¬ x.Did .deactivate)) ∨
      (v.state = .unlocked ∧ c.active v.identity.container = true ∧
        ∃ later e earlier, events = later ++ e :: earlier ∧ e.Opened ∧ (∀ x ∈ later, ¬ x.Opened) ∧
          (c.mounted v.identity.mountPoint.key = none → ∃ x ∈ later, x.HalfLocked))) :
    LockInvariant events m := by
  subst hv hc
  rcases hstate with ⟨hl, hnone, hleft⟩ | ⟨hu, hactive, hopened⟩
  · exact ⟨fun _ => hnone, by simp [hl], fun _ => hleft, by simp [hl], hmounted⟩
  · exact ⟨by simp [hu], fun _ => hactive, by simp [hu], fun _ => hopened, hmounted⟩

/-- Of the world only the mappings and the directory tree matter. -/
theorem world {w : Bench δ} (h : LockInvariant events m) (hh : w.header = m.world.header)
    (ht : w.tree = m.world.tree) : LockInvariant events { m with world := w } := by
  constructor
  · intro hl
    rw [ht]
    exact h.locked_unmounted hl
  · intro hu
    rw [hh]
    exact h.unlocked_active hu
  · intro hl ha
    rw [hh] at ha
    exact h.locked_active hl ha
  · intro hu
    rw [ht]
    exact h.unlocked_opened hu
  · intro mount hmount
    rw [ht] at hmount ⊢
    exact h.mounted_volume mount hmount

/-- An event that neither opens the volume nor closes its mapping carries the
invariant on where the scene is as before. -/
theorem carry {e : Event δ} {metadata : VolumeMetadata} {unmounts : Nat}
    (ih : LockInvariant events e.before) (hv : e.after.volume = { e.before.volume with metadata })
    (hc : e.after.world.scene = { e.before.world.scene with unmounts }) (ho : ¬ e.Opened) :
    LockInvariant (e :: events) e.after := by
  have hd : ¬ e.Did .deactivate := by
    rintro ⟨hlt, -⟩
    have heq := congrArg Scene.deactivations hc
    exact Nat.ne_of_gt hlt heq
  refine of_scene hv hc ih.mounted_volume ?_
  rcases hs : e.before.volume.state with _ | _
  · refine .inl ⟨rfl, ih.locked_unmounted hs, fun ha => ?_⟩
    obtain ⟨later, x, earlier, rfl, hx, hlater⟩ := ih.locked_active hs ha
    exact ⟨e :: later, x, earlier, rfl, hx, List.forall_mem_cons.mpr ⟨hd, hlater⟩⟩
  · refine .inr ⟨rfl, ih.unlocked_active hs, ?_⟩
    obtain ⟨later, x, earlier, rfl, hx, hlater, hhalf⟩ := ih.unlocked_opened hs
    refine ⟨e :: later, x, earlier, rfl, hx, List.forall_mem_cons.mpr ⟨ho, hlater⟩, fun hm => ?_⟩
    obtain ⟨y, hy, hyh⟩ := hhalf hm
    exact ⟨y, List.mem_cons_of_mem _ hy, hyh⟩

/-- A successful opening starts a new account. -/
theorem opened {e : Event δ} {t : FilesystemType} (ho : e.Opened)
    (hv : e.after.volume = { e.before.volume with fsType := t, state := .unlocked })
    (hc : e.after.world.scene = (e.before.world.scene.setActive
      e.before.volume.identity.container true).mountedOn e.before.volume t) :
    LockInvariant (e :: events) e.after := by
  refine of_scene hv hc ?_ (.inr ⟨rfl, ?_, [], e, events, rfl, ho, by simp, ?_⟩)
  · intro mount hmount
    simp only [Scene.mountedOn, Scene.setMount, Scene.setDirectory, if_true,
      Option.some.injEq] at hmount ⊢
    exact ⟨hmount.symm, trivial⟩
  · simp [Scene.mountedOn, Scene.setMount, Scene.setDirectory, Scene.setActive]
  · simp [Scene.mountedOn, Scene.setMount]

/-- A locking that stopped after its unmounting accounts for an open volume
with nothing mounted. -/
theorem halfLocked {e : Event δ} {c : Scene} (ih : LockInvariant events e.before)
    (hu : e.before.volume.state = .unlocked) (hv : e.after.volume = e.before.volume)
    (hc : e.after.world.scene = c) (ho : ¬ e.Opened) (he : e.HalfLocked)
    (ha : c.active = e.before.world.scene.active)
    (hm : c.mounted e.before.volume.identity.mountPoint.key = none) :
    LockInvariant (e :: events) e.after := by
  obtain ⟨later, x, earlier, rfl, hx, hlater, -⟩ := ih.unlocked_opened hu
  refine of_scene hv hc ?_ (.inr ⟨hu, ?_, e :: later, x, earlier, rfl, hx,
    List.forall_mem_cons.mpr ⟨ho, hlater⟩, fun _ => ⟨e, List.mem_cons_self, he⟩⟩)
  · intro mount hmount
    rw [hm] at hmount
    cases hmount
  · rw [ha]
    exact ih.unlocked_active hu

theorem step {e : Event δ} (ih : LockInvariant events e.before)
    (hm : Scene.Moves e.before.volume e.before.world.scene e.operation e.outcome e.after.volume
      e.after.world.scene) : LockInvariant (e :: events) e.after := by
  generalize hv : e.after.volume = v' at hm
  generalize hc : e.after.world.scene = c' at hm
  generalize hop : e.operation = operation at hm
  generalize hout : e.outcome = outcome at hm
  have failed : ∀ {f}, outcome = .error f → ¬ e.Opened := by
    rintro f rfl ⟨-, answer, ha⟩
    rw [hout] at ha
    cases ha
  cases hm with
  | formatted _ => exact opened ⟨by rw [hop]; rfl, _, hout⟩ hv hc
  | unlocked _ => exact opened ⟨by rw [hop]; rfl, _, hout⟩ hv hc
  | @givenUp _ f _ hl ho hgiven =>
    have hnone := ih.locked_unmounted hl
    refine of_scene hv hc ?_ (.inl ⟨hl, ?_, fun ha => ?_⟩)
    · intro mount hmount
      rw [hgiven.mounted] at hmount
      rw [show e.before.world.scene.mounted _ = none from hnone] at hmount
      cases hmount
    · rw [hgiven.mounted]
      exact hnone
    · rcases hgiven.active ha with hsame | ⟨code, harmed, hnoted⟩
      · subst hsame
        exact (carry ih hv hc (failed rfl)).locked_active (by rw [hv]; exact hl)
          (by rw [hv]; exact (congrArg (Scene.active · _) hc).trans ha)
      · exact ⟨[], e, events, rfl, ⟨hop ▸ ho, f, code, hout, harmed, hnoted⟩, by simp⟩
  | locked hu =>
    refine of_scene hv hc ?_ (.inl ⟨rfl, ?_, ?_⟩)
    · simp [Scene.locked, Scene.setMount, Scene.setDirectory, Scene.setActive]
    · simp [Scene.locked, Scene.setMount, Scene.setDirectory, Scene.setActive]
    · simp [Scene.locked, Scene.setActive]
  | @halfLocked f _ hu hhalf =>
    have stopped : e.before.world.journal.armed .unmount = none →
        e.after.world.scene.unmounts = e.before.world.scene.unmounts + 1 → e.HalfLocked := by
      intro harmed hcount
      refine ⟨hop, ⟨f, hout⟩, ?_, harmed⟩
      exact Nat.lt_of_lt_of_eq (Nat.lt_succ_self _) hcount.symm
    cases hhalf with
    | mounted _ => exact carry ih hv hc (failed rfl)
    | unmounted harmed =>
      exact halfLocked ih hu hv hc (failed rfl) (stopped harmed (congrArg Scene.unmounts hc)) rfl
        (by simp [Scene.setMount])
    | removed harmed _ =>
      exact halfLocked ih hu hv hc (failed rfl) (stopped harmed (congrArg Scene.unmounts hc)) rfl
        (by simp [Scene.setMount, Scene.setDirectory])
  | refused _ _ => exact carry ih hv hc (failed rfl)
  | other he =>
    refine carry ih hv hc ?_
    rintro ⟨ho, -⟩
    rw [hop] at ho
    cases operation <;> simp [Operation.opens, Operation.expects?] at ho he

/-- The invariant of every state that a locked volume can reach, if its mapping
is closed and nothing mounted at the start. -/
theorem of_history {d : BlockDevices δ η} {R : δ → δ → Prop} {start : Managed (Bench δ)}
    (hlocked : start.volume.state = .locked)
    (hclosed : start.world.header.active start.volume.identity.container = false)
    (hnone : start.world.tree.mountAt start.volume.identity.mountPoint = none)
    (h : History (Bench.backends d) R start events m) : LockInvariant events m := by
  induction h with
  | start =>
    refine ⟨fun _ => hnone, by simp [hlocked], by simp [hclosed], by simp [hlocked], ?_⟩
    simp [hnone]
  | perform operation _ ih => exact step (e := .of _ _ operation) ih (perform_moves _ operation)
  | arm kind code _ ih => exact ih.world rfl rfl
  | disarm _ ih => exact ih.world rfl rfl
  | rearrange device _ _ ih => exact ih.world rfl rfl

/-- A formatting that fails in its last step and cannot be undone leaves the
mapping active behind a locked volume. -/
theorem of_history_leftMapping :
    ∃ events m, History Bench.onDisk (fun _ _ => False) sample events m ∧
      m.volume.state = .locked ∧ m.world.header.active "data" = true ∧ LockInvariant events m := by
  have hstart : History Bench.onDisk (fun _ _ => False) sample [] sample := .start
  have hstuck := (hstart.arm .mount (-5)).arm .deactivate (-16)
  refine ⟨_, _, hstuck.perform (.format [112] .ext4), ?_, ?_, ?_⟩
  · rfl
  · rfl
  · exact of_history rfl rfl rfl (hstuck.perform (.format [112] .ext4))

end LockInvariant

end EmmcVault.Memory
