import EmmcVault.Proofs.Effect

/-!
# Operations as transitions

As an operation that fails leaves the volume as it was, a run of one can be read
as a task on the world alone that gives the volume afterwards when it succeeds.
The operations of a volume in that form, with the equations that lead their
steps over into it.
-/

namespace EmmcVault

open Text Managed

variable {σ η α β : Type}

-- ---------------------------------------------------------------------------
-- Tasks
-- ---------------------------------------------------------------------------

namespace Managed.Task

/-- What a task that starts at `v` does to the world, and the volume it leads to. -/
def startedAt (v : Volume) (x : Task σ α) : EStateM Failure σ (α × Volume) := fun s =>
  match x ⟨v, s⟩ with
  | .ok a m => .ok (a, m.volume) m.world
  | .error failure m => .error failure m.world

variable {v : Volume}

theorem startedAt_pure {a : α} : startedAt v (pure a : Task σ α) = pure (a, v) := rfl

theorem startedAt_bind {x : Task σ α} {f : α → Task σ β} :
    startedAt v (x >>= f) = startedAt v x >>= fun r => startedAt r.2 (f r.1) := by
  funext s
  show (match EStateM.bind x f ⟨v, s⟩ with
    | .ok b m => .ok (b, m.volume) m.world
    | .error failure m => .error failure m.world) =
      EStateM.bind (startedAt v x) (fun r => startedAt r.2 (f r.1)) s
  unfold EStateM.bind startedAt
  cases x ⟨v, s⟩ <;> rfl

theorem startedAt_reading {body : Volume → EStateM Failure σ α} :
    startedAt v (reading body) = body v >>= fun a => pure (a, v) := by
  funext s
  show (match reading body ⟨v, s⟩ with
    | .ok a m => .ok (a, m.volume) m.world
    | .error failure m => .error failure m.world) =
      EStateM.bind (body v) (fun a => pure (a, v)) s
  unfold EStateM.bind reading
  cases body v s <;> rfl

theorem startedAt_assign {change : Volume → Volume} :
    startedAt v (assign change : Task σ Unit) = pure ((), change v) := rfl

theorem startedAt_withDevice {d : BlockDevices σ η} {mode : OpenMode}
    {refused : BackendError → Fault} {body : Task (σ × η) α} :
    startedAt v (withDevice d mode refused body) = d.withHandle v.identity.device mode
      (fun cause => ⟨refused cause, []⟩) (startedAt v body) := by
  funext s
  unfold startedAt withDevice BlockDevices.withHandle
  cases d.openHandle v.identity.device mode s with
  | ok handle s => cases hb : body ⟨v, (s, handle)⟩ <;> simp only [hb]
  | error cause s => rfl

/-- Where the task leads, the volume leads. -/
theorem startedAt_leads {x : Task σ α} {s : σ} {P : Volume → Prop}
    (h : Triple x ⟨v, s⟩ (fun _ m => P m.volume) fun _ _ => True) :
    Triple (Prod.snd <$> startedAt v x) s (fun v' _ => P v') fun _ _ => True := by
  refine Triple.bind (R := fun r _ => P r.2) ?_ fun _ _ h => Triple.pure h
  unfold Triple at h
  unfold Triple startedAt
  cases hx : x ⟨v, s⟩ <;> simp only [hx] at h ⊢
  exact h

end Managed.Task

open Managed.Task

theorem BlockDevices.map_withHandle {ε : Type} {d : BlockDevices σ η} {path : Path}
    {mode : OpenMode} {refused : BackendError → ε} {body : EStateM ε (σ × η) α} (f : α → β) :
    f <$> d.withHandle path mode refused body = d.withHandle path mode refused (f <$> body) := by
  funext s
  show EStateM.map f (d.withHandle path mode refused body) s =
    d.withHandle path mode refused (EStateM.map f body) s
  unfold EStateM.map BlockDevices.withHandle
  cases d.openHandle path mode s with
  | ok handle s => cases hb : body (s, handle) <;> simp only [hb]
  | error e s => rfl

-- ---------------------------------------------------------------------------
-- Operations
-- ---------------------------------------------------------------------------

namespace Volume

variable (b : Backends σ η) (v : Volume)

def format (password : Bytes) (t : FilesystemType) : EStateM Failure σ Volume :=
  Prod.snd <$> startedAt v (Managed.format b password t)

def unlock (password : Bytes) : EStateM Failure σ Volume :=
  Prod.snd <$> startedAt v (Managed.unlock b password)

def lock : EStateM Failure σ Volume :=
  Prod.snd <$> startedAt v (Managed.lock b)

def refresh : EStateM Failure σ Volume :=
  Prod.snd <$> startedAt v (Managed.refresh b)

variable {b v}

theorem format_eq {password : Bytes} {t : FilesystemType} : v.format b password t = (do
    v.require .locked .format
    step (b.crypto.format v.identity.device v.settings.encryption) (.internal .formatHeader)
    let _ ← step (b.crypto.addKeyslot v.identity.device password) (.internal .addKeyslot)
    let _ ← step (b.crypto.load v.identity.device) (.internal .loadHeader)
    let _ ← step (b.crypto.activate v.identity.device v.identity.container password)
      (.internal .activate)
    undoing (b.crypto.deactivate v.identity.container) do
      v.makeFilesystem b t
      v.mountFilesystem b t
    pure { v with fsType := t, state := .unlocked }) := by
  simp only [format, Managed.format, call, startedAt_bind, startedAt_reading, startedAt_assign,
    map_eq_pure_bind, bind_assoc, pure_bind]

theorem unlock_eq {password : Bytes} : v.unlock b password = (do
    v.require .locked .unlock
    let _ ← step (b.crypto.load v.identity.device) (.notFound .loadHeader)
    let _ ← step (b.crypto.activate v.identity.device v.identity.container password)
      (.internal .activate)
    undoing (b.crypto.deactivate v.identity.container) (v.mountFilesystem b v.fsType)
    pure { v with state := .unlocked }) := by
  simp only [unlock, Managed.unlock, call, startedAt_bind, startedAt_reading, startedAt_assign,
    map_eq_pure_bind, bind_assoc, pure_bind]

theorem lock_eq : v.lock b = (do
    v.require .unlocked .lock
    step (b.filesystem.unmount v.identity.mountPoint) (.internal .unmount)
    step (b.filesystem.removeDirectory v.identity.mountPoint) (.internal .removeMountPoint)
    step (b.crypto.deactivate v.identity.container) (.internal .deactivate)
    pure { v with state := .locked }) := by
  simp only [lock, Managed.lock, call, startedAt_bind, startedAt_reading, startedAt_assign,
    map_eq_pure_bind, bind_assoc, pure_bind]

theorem format_leads {password : Bytes} {t : FilesystemType} {s : σ} :
    Triple (v.format b password t) s (fun v' _ => v' = { v with fsType := t, state := .unlocked })
      (fun _ _ => True) :=
  startedAt_leads (Triple.mono (format_moves rfl) (fun _ _ h => h) fun _ _ _ => trivial)

theorem unlock_leads {password : Bytes} {s : σ} :
    Triple (v.unlock b password) s (fun v' _ => v' = { v with state := .unlocked })
      (fun _ _ => True) :=
  startedAt_leads (Triple.mono (unlock_moves rfl) (fun _ _ h => h) fun _ _ _ => trivial)

theorem startedAt_refresh : startedAt v (Managed.refresh b) = b.devices.withHandle
    v.identity.device .read (fun cause => ⟨.internal .openDevice cause, []⟩) (do
      let bytes ← step b.devices.size (.internal .querySize)
      let register ← step b.devices.readExtCsd (.internal .readRegister)
      pure ((v.measured bytes register).metadata, v.measured bytes register)) := by
  unfold Managed.refresh
  rw [startedAt_withDevice]
  simp only [call, startedAt_bind, startedAt_reading, startedAt_assign, bind_assoc, pure_bind]
  rfl

theorem refresh_eq : v.refresh b = b.devices.withHandle v.identity.device .read
    (fun cause => ⟨.internal .openDevice cause, []⟩) (do
      let bytes ← step b.devices.size (.internal .querySize)
      let register ← step b.devices.readExtCsd (.internal .readRegister)
      pure (v.measured bytes register)) := by
  rw [refresh, startedAt_refresh, BlockDevices.map_withHandle]
  simp only [map_eq_pure_bind, bind_assoc, pure_bind]

/-- What is told of the device is what is noted of it. -/
theorem startedAt_refresh_eq :
    startedAt v (Managed.refresh b) = (fun v => (v.metadata, v)) <$> v.refresh b := by
  rw [refresh_eq, startedAt_refresh, BlockDevices.map_withHandle]
  simp only [map_eq_pure_bind, bind_assoc, pure_bind]

end Volume

/-- The answer of a successful operation and the volume after it. -/
def Operation.run (b : Backends σ η) (v : Volume) (operation : Operation) :
    EStateM Failure σ (Operation.Answer × Volume) :=
  startedAt v (operation.task b)

theorem Operation.run_eq {b : Backends σ η} {v : Volume} (operation : Operation) :
    operation.run b v = match operation with
      | .format password t => do return (.done, ← v.format b password t)
      | .unlock password => do return (.done, ← v.unlock b password)
      | .lock => do return (.done, ← v.lock b)
      | .changePassword old new => do
        v.changePassword b old new
        return (.done, v)
      | .erase request => do return (.erased (← v.erase b request), v)
      | .enableBkops => do return (.bkops (← v.enableBkops b), v)
      | .refresh => do
        let v ← v.refresh b
        return (.measured v.metadata, v) := by
  cases operation with
  | refresh =>
    simp only [run, task, startedAt_bind, Volume.startedAt_refresh_eq, startedAt_pure,
      map_eq_pure_bind, bind_assoc, pure_bind]
  | _ =>
    simp only [run, task, Volume.format, Volume.unlock, Volume.lock, startedAt_bind,
      startedAt_reading, startedAt_pure, map_eq_pure_bind, bind_assoc, pure_bind]

/-- An operation that fails leaves the volume as it was. -/
theorem Operation.task_spares {b : Backends σ η} {m : Managed σ} (operation : Operation) :
    Triple (operation.task b) m (fun _ _ => True) fun _ m' => m'.volume = m.volume := by
  refine Triple.mono operation.task_becomes (fun _ _ _ => trivial) fun f m' h => ?_
  generalize m'.volume = v' at h ⊢
  cases h
  rfl

theorem Managed.perform_eq (m : Managed σ) (b : Backends σ η) (operation : Operation) :
    m.perform b operation = match operation.run b m.volume m.world with
      | .ok (answer, volume) world => (.ok answer, ⟨volume, world⟩)
      | .error failure world => (.error failure, { m with world }) := by
  have hspared := operation.task_spares (b := b) (m := m)
  unfold Triple at hspared
  unfold perform Operation.run startedAt
  cases hx : operation.task b m with
  | ok answer m' => rfl
  | error failure m' =>
    simp only [hx] at hspared ⊢
    rw [← hspared]

end EmmcVault
