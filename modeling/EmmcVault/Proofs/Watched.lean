import EmmcVault.Proofs.Footprint

/-!
# Watching backends

Any backends can be watched: the same backends over a world that also keeps
every call made on them and what it gave, in order.
-/

namespace EmmcVault

open Text

variable {σ η α : Type}

/-- A call on the backends of a volume. -/
inductive BackendCall where
  | format (device : Path) (params : EncryptionParams)
  | addKeyslot (device : Path) (passphrase : Bytes)
  | load (device : Path)
  | activate (device : Path) (name : String) (passphrase : Bytes)
  | deactivate (name : String)
  | destroyKeyslot (device : Path) (slot : UInt32)
  | maxKeyslots (version : LuksVersion)
  | keyslotStatus (device : Path) (slot : UInt32)
  | changePassphrase (device : Path) (old new : Bytes)
  | makeFilesystem (device : Path) (t : FilesystemType) (options : List String)
  | checkFilesystem (device : Path) (t : FilesystemType) (options : List String)
  | mount (source target : Path) (t : FilesystemType) (options : MountOptions)
  | unmount (target : Path)
  | createDirectory (path : Path)
  | removeDirectory (path : Path)
  | directoryExists (path : Path)
  | openHandle (path : Path) (mode : OpenMode)
  | request (q : DeviceRequest)
  | close

/-- What a call gave; of a success only a yes or no is kept. -/
inductive Reply where
  | done
  | present (answer : Bool)
  | failed (cause : BackendError)

structure Exchange where
  call : BackendCall
  reply : Reply

/-- The message of a call that failed. -/
def Exchange.complaint? (x : Exchange) : Option String :=
  match x.reply with
  | .failed cause => some cause.message
  | _ => none

/-- A world with the calls made on it. -/
structure Watched (σ : Type) where
  world : σ
  trace : List Exchange := []

namespace Watched

def watch (c : BackendCall) (call : Call σ α) : Call (Watched σ) α := fun w =>
  match call w.world with
  | .ok a world => .ok a ⟨world, w.trace ++ [⟨c, .done⟩]⟩
  | .error e world => .error e ⟨world, w.trace ++ [⟨c, .failed e⟩]⟩

/-- A query that cannot fail. -/
def ask (c : BackendCall) (query : StateM σ Bool) : StateM (Watched σ) Bool := fun w =>
  let (answer, world) := query w.world
  (answer, ⟨world, w.trace ++ [⟨c, .present answer⟩]⟩)

/-- A request to an open device. -/
def watchOpen (q : DeviceRequest) (call : Call (σ × η) α) : Call (Watched σ × η) α :=
  fun (w, h) =>
    match call (w.world, h) with
    | .ok a (world, h) => .ok a (⟨world, w.trace ++ [⟨.request q, .done⟩]⟩, h)
    | .error e (world, h) => .error e (⟨world, w.trace ++ [⟨.request q, .failed e⟩]⟩, h)

section
variable {c : BackendCall} {q : DeviceRequest} {w : Watched σ}

theorem watch_triple {call : Call σ α} {Q : α → Watched σ → Prop}
    {E : BackendError → Watched σ → Prop}
    (h : Triple call w.world (fun a s => Q a ⟨s, w.trace ++ [⟨c, .done⟩]⟩)
      (fun cause s => E cause ⟨s, w.trace ++ [⟨c, .failed cause⟩]⟩)) :
    Triple (watch c call) w Q E := by
  unfold Triple watch at *
  cases hx : call w.world <;> simp only [hx] at h ⊢ <;> exact h

theorem watchOpen_triple {e : η} {call : Call (σ × η) α} {Q : α → Watched σ × η → Prop}
    {E : BackendError → Watched σ × η → Prop}
    (h : Triple call (w.world, e)
      (fun a t => Q a (⟨t.1, w.trace ++ [⟨.request q, .done⟩]⟩, t.2))
      (fun cause t => E cause (⟨t.1, w.trace ++ [⟨.request q, .failed cause⟩]⟩, t.2))) :
    Triple (watchOpen q call) (w, e) Q E := by
  unfold Triple watchOpen at *
  cases hx : call (w.world, e) <;> simp only [hx] at h ⊢ <;> exact h

/-- A watched call keeps what one more exchange about it keeps. -/
theorem watch_keeps {K : Watched σ → Prop} {call : Call σ α}
    (h : ∀ {s s' trace reply}, K ⟨s, trace⟩ → K ⟨s', trace ++ [⟨c, reply⟩]⟩) :
    Keeps K (fun _ => True) (watch c call) := fun _ hw =>
  watch_triple (Triple.mono Triple.trivial (fun _ _ _ => h hw) fun _ _ _ => ⟨h hw, trivial⟩)

theorem watchOpen_keeps {K : Watched σ → Prop} {call : Call (σ × η) α}
    (h : ∀ {s s' trace reply}, K ⟨s, trace⟩ → K ⟨s', trace ++ [⟨.request q, reply⟩]⟩) :
    Keeps (fun u : Watched σ × η => K u.1) (fun _ => True) (watchOpen q call) := fun _ hw =>
  watchOpen_triple (Triple.mono Triple.trivial (fun _ _ _ => h hw) fun _ _ _ => ⟨h hw, trivial⟩)

end

end Watched

open Watched

/-- The same backends, watched. -/
def Backends.watched (b : Backends σ η) : Backends (Watched σ) η where
  crypto.format device params := watch (.format device params) (b.crypto.format device params)
  crypto.addKeyslot device passphrase :=
    watch (.addKeyslot device passphrase) (b.crypto.addKeyslot device passphrase)
  crypto.load device := watch (.load device) (b.crypto.load device)
  crypto.activate device name passphrase :=
    watch (.activate device name passphrase) (b.crypto.activate device name passphrase)
  crypto.deactivate name := watch (.deactivate name) (b.crypto.deactivate name)
  crypto.destroyKeyslot device slot :=
    watch (.destroyKeyslot device slot) (b.crypto.destroyKeyslot device slot)
  crypto.maxKeyslots version := watch (.maxKeyslots version) (b.crypto.maxKeyslots version)
  crypto.keyslotStatus device slot :=
    watch (.keyslotStatus device slot) (b.crypto.keyslotStatus device slot)
  crypto.changePassphrase device old new :=
    watch (.changePassphrase device old new) (b.crypto.changePassphrase device old new)
  filesystem.makeFilesystem device t options :=
    watch (.makeFilesystem device t options) (b.filesystem.makeFilesystem device t options)
  filesystem.checkFilesystem device t options :=
    watch (.checkFilesystem device t options) (b.filesystem.checkFilesystem device t options)
  filesystem.mount source target t options :=
    watch (.mount source target t options) (b.filesystem.mount source target t options)
  filesystem.unmount target := watch (.unmount target) (b.filesystem.unmount target)
  filesystem.createDirectory path :=
    watch (.createDirectory path) (b.filesystem.createDirectory path)
  filesystem.removeDirectory path :=
    watch (.removeDirectory path) (b.filesystem.removeDirectory path)
  filesystem.directoryExists path :=
    ask (.directoryExists path) (b.filesystem.directoryExists path)
  devices.openHandle path mode := watch (.openHandle path mode) (b.devices.openHandle path mode)
  devices.read length := watchOpen (.read length) (b.devices.read length)
  devices.write bytes := watchOpen (.write bytes) (b.devices.write bytes)
  devices.sync := watchOpen .sync b.devices.sync
  devices.size := watchOpen .size b.devices.size
  devices.command c data := watchOpen (.command c data) (b.devices.command c data)
  devices.close := fun (w, h) =>
    ⟨b.devices.close (w.world, h), w.trace ++ [⟨.close, .done⟩]⟩

end EmmcVault
