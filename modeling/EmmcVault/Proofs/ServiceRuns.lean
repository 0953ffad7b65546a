import EmmcVault.Proofs.Classification
import EmmcVault.Proofs.History
import EmmcVault.Proofs.HostLog
import EmmcVault.Service.Program

/-!
# What a run of the service knows of earlier ones

Each run attaches the volume anew. It learns from the system whether an earlier
run left the volume open, but not with which filesystem it was formatted: what
unlocking mounts is the type that the configuration names, whatever type a run
before has picked.
-/

namespace EmmcVault

open Text Watched

variable {σ η : Type}

def BackendCall.mountType? : BackendCall → Option FilesystemType
  | mount _ _ t _ => some t
  | _ => none

/-- The types with which an operation on the volume may call for a mount. -/
def Operation.Mounts (v : Volume) : Operation → FilesystemType → Prop
  | format _ t => (· = t)
  | unlock _ => (· = v.fsType)
  | _ => fun _ => False

/-- All mounts so far were called for with types in `P`. -/
def Watched.MountsOnly (P : FilesystemType → Prop) (w : Watched σ) : Prop :=
  ∀ x ∈ w.trace, ∀ t, x.call.mountType? = some t → P t

-- ---------------------------------------------------------------------------
-- One operation
-- ---------------------------------------------------------------------------

section
variable {P : FilesystemType → Prop}

theorem Watched.MountsOnly.snoc {s s' : σ} {trace : List Exchange} {x : Exchange}
    (h : MountsOnly P ⟨s, trace⟩) (hx : ∀ t, x.call.mountType? = some t → P t) :
    MountsOnly P ⟨s', trace ++ [x]⟩ := by
  intro y hy
  obtain hy | hy := List.mem_append.mp hy
  · exact h y hy
  · obtain rfl := List.mem_singleton.mp hy
    exact hx

/-- A call that is no mount. -/
theorem Watched.MountsOnly.other {s s' : σ} {trace : List Exchange} {x : Exchange}
    (h : MountsOnly P ⟨s, trace⟩) (hx : x.call.mountType? = none) :
    MountsOnly P ⟨s', trace ++ [x]⟩ :=
  h.snoc fun _ ht => by cases hx.symm.trans ht

theorem Watched.watch_mountsOnly {α : Type} {c : BackendCall} {call : Call σ α}
    (hc : ∀ t, c.mountType? = some t → P t) :
    Keeps (MountsOnly P) (fun _ => True) (watch c call) :=
  watch_keeps fun hw => hw.snoc hc

theorem Watched.watch_other {α : Type} {c : BackendCall} {call : Call σ α}
    (hc : c.mountType? = none) : Keeps (MountsOnly P) (fun _ => True) (watch c call) :=
  watch_mountsOnly fun _ ht => by cases hc.symm.trans ht

variable {b : Backends σ η} {v : Volume}

theorem Backends.watched_crypto_mountsOnly : b.watched.crypto.Preserves (MountsOnly P) where
  format _ _ := watch_other rfl
  addKeyslot _ _ := watch_other rfl
  load _ := watch_other rfl
  activate _ _ _ := watch_other rfl
  deactivate _ := watch_other rfl
  destroyKeyslot _ _ := watch_other rfl
  maxKeyslots _ := watch_other rfl
  keyslotStatus _ _ := watch_other rfl
  changePassphrase _ _ _ := watch_other rfl

theorem Backends.watched_respects_mountsOnly (q : DeviceRequest) :
    q.Respects b.watched.devices fun u => MountsOnly P u.1 := by
  cases q <;> exact watchOpen_keeps fun hw => hw.other rfl

theorem Backends.watched_brackets_mountsOnly {path : Path} {mode : OpenMode} {w : Watched σ}
    (hw : MountsOnly P w) :
    b.watched.devices.Brackets path mode w (fun u => MountsOnly P u.1) (MountsOnly P) where
  opening := Triple.mono (watch_other rfl w hw) (fun _ _ h => h) fun _ _ h => h.1
  closing := fun _ hu => hu.other rfl

namespace Volume

theorem mountFilesystem_mountsOnly {t : FilesystemType} (ht : P t) :
    Keeps (MountsOnly P) (fun _ => True) (v.mountFilesystem b.watched t) := by
  have mounting : Keeps (MountsOnly P) (fun _ => True) (Volume.step (b.watched.filesystem.mount
      v.identity.mappedDevice v.identity.mountPoint t v.settings.filesystem.mount)
      (.internal .mount)) := by
    refine Keeps.step (watch_mountsOnly ?_) fun _ => trivial
    rintro _ ⟨⟩
    exact ht
  refine Keeps.bind (fun w hw => Watched.MountsOnly.other hw rfl) fun present => ?_
  split
  · exact mounting
  · refine Keeps.bind (Keeps.step (watch_other rfl) fun _ => trivial) fun _ => ?_
    exact Keeps.undoing (watch_other rfl) mounting fun _ => trivial

theorem format_mountsOnly {password : Bytes} {t : FilesystemType} (ht : P t) :
    Keeps (MountsOnly P) (fun _ => True) (v.format b.watched password t) := by
  rw [format_eq]
  refine Keeps.bind require_keeps fun _ => ?_
  refine Keeps.bind (Keeps.step (watch_other rfl) fun _ => trivial) fun _ => ?_
  refine Keeps.bind (Keeps.step (watch_other rfl) fun _ => trivial) fun _ => ?_
  refine Keeps.bind (Keeps.step (watch_other rfl) fun _ => trivial) fun _ => ?_
  refine Keeps.bind (Keeps.step (watch_other rfl) fun _ => trivial) fun _ => ?_
  refine Keeps.bind (Keeps.undoing (watch_other rfl) ?_ fun _ => trivial) fun _ => Keeps.pure
  refine Keeps.bind ?_ fun _ => mountFilesystem_mountsOnly ht
  refine Keeps.bind (Keeps.step (watch_other rfl) fun _ => trivial) fun _ => ?_
  exact Keeps.step (watch_other rfl) fun _ => trivial

theorem unlock_mountsOnly {password : Bytes} (ht : P v.fsType) :
    Keeps (MountsOnly P) (fun _ => True) (v.unlock b.watched password) := by
  rw [unlock_eq]
  refine Keeps.bind require_keeps fun _ => ?_
  refine Keeps.bind (Keeps.step (watch_other rfl) fun _ => trivial) fun _ => ?_
  refine Keeps.bind (Keeps.step (watch_other rfl) fun _ => trivial) fun _ => ?_
  exact Keeps.bind (Keeps.undoing (watch_other rfl) (mountFilesystem_mountsOnly ht)
    fun _ => trivial) fun _ => Keeps.pure

theorem lock_mountsOnly : Keeps (MountsOnly P) (fun _ => True) (v.lock b.watched) := by
  rw [lock_eq]
  refine Keeps.bind require_keeps fun _ => ?_
  refine Keeps.bind (Keeps.step (watch_other rfl) fun _ => trivial) fun _ => ?_
  refine Keeps.bind (Keeps.step (watch_other rfl) fun _ => trivial) fun _ => ?_
  exact Keeps.bind (Keeps.step (watch_other rfl) fun _ => trivial) fun _ => Keeps.pure

theorem erase_mountsOnly {request : EraseRequest} :
    Keeps (MountsOnly P) (fun _ => True) (v.erase b.watched request) := by
  intro w hw
  by_cases hr : v.Refuses request
  · exact Triple.of_error (erase_refused hr) ⟨hw, trivial⟩
  · exact Triple.mono (erase_triple hr hw (fun _ _ => Backends.watched_brackets_mountsOnly hw)
      (fun q _ => Backends.watched_respects_mountsOnly q)
      fun _ => Backends.watched_crypto_mountsOnly.erasing)
      (fun _ _ h => h) fun _ _ h => ⟨h.1, trivial⟩

end Volume

theorem Operation.run_mountsOnly (operation : Operation) :
    Keeps (MountsOnly (operation.Mounts v)) (fun _ => True) (operation.run b.watched v) := by
  rw [run_eq]
  cases operation with
  | format password t => exact Keeps.bind (Volume.format_mountsOnly rfl) fun _ => Keeps.pure
  | unlock password => exact Keeps.bind (Volume.unlock_mountsOnly rfl) fun _ => Keeps.pure
  | lock => exact Keeps.bind Volume.lock_mountsOnly fun _ => Keeps.pure
  | changePassword old new =>
    exact Keeps.bind (Volume.changePassword_keeps Backends.watched_crypto_mountsOnly)
      fun _ => Keeps.pure
  | erase request => exact Keeps.bind Volume.erase_mountsOnly fun _ => Keeps.pure
  | enableBkops =>
    refine Keeps.bind (fun w hw => Triple.mono (Volume.enableBkops_triple
      (Backends.watched_brackets_mountsOnly hw) (fun _ => Backends.watched_respects_mountsOnly _)
      (Backends.watched_respects_mountsOnly _)) (fun _ _ h => h) fun _ _ h => ⟨h, trivial⟩)
      fun _ => Keeps.pure
  | refresh =>
    refine Keeps.bind (fun w hw => Triple.mono (Volume.refresh_triple
      (Backends.watched_brackets_mountsOnly hw) (Backends.watched_respects_mountsOnly _)
      fun _ => Backends.watched_respects_mountsOnly _) (fun _ _ h => h)
      fun _ _ h => ⟨h, trivial⟩) fun _ => Keeps.pure

end

-- ---------------------------------------------------------------------------
-- Runs of the service
-- ---------------------------------------------------------------------------

namespace Service

open Linux

/-- A run of the service: what it was asked for, how it ended and the calls it
made on the backends. -/
structure Run where
  operation : Operation
  ending : Except ServiceError (Except Failure Outcome)
  calls : List Exchange

variable (h : Host σ η)

/-- A run on watched backends, and the world after it. -/
def Config.watchedRun (c : Config) (operation : Operation) (s : σ) : Run × σ :=
  match c.attach h s with
  | .error e s => (⟨operation, .error e, []⟩, s)
  | .ok (backends, volume) s =>
    let (ending, m) := execute backends.watched ⟨volume, ⟨{ world := s }, []⟩⟩ operation
    (⟨operation, .ok ending, m.world.trace⟩, m.world.world.world)

/-- Runs of the service, the newest first, each of which attaches the volume
anew. Between them anything may happen to the system. -/
inductive Runs (c : Config) : List Run → σ → Prop
  | start (s) : Runs c [] s
  | run {runs s} (operation : Operation) : Runs c runs s →
      Runs c ((c.watchedRun h operation s).1 :: runs) (c.watchedRun h operation s).2
  | meanwhile {runs s} (s') : Runs c runs s → Runs c runs s'

variable {h} {c : Config} {operation : Operation} {s : σ}

theorem execute_watched (operation : Operation) {b : Backends σ η} {v : Volume} :
    ∃ trace, execute b.watched ⟨v, ⟨s, []⟩⟩ operation =
      ((execute b ⟨v, s⟩ operation).1, ⟨(execute b ⟨v, s⟩ operation).2.volume,
        ⟨(execute b ⟨v, s⟩ operation).2.world, trace⟩⟩) := by
  obtain ⟨trace, hrun, -⟩ := Operation.run_classified b v operation s
  refine ⟨trace, ?_⟩
  simp only [execute, Managed.perform_eq, hrun]
  cases operation.run b v s with
  | ok a s' => cases operation <;> rfl
  | error f s' => cases operation <;> rfl

/-- A watched run is a run of the program. -/
theorem carryOut_watchedRun : Program.carryOut h c operation s =
    match (c.watchedRun h operation s).1.ending with
    | .error e => .error e (c.watchedRun h operation s).2
    | .ok result => .ok (.ofResult operation result) (c.watchedRun h operation s).2 := by
  show EStateM.bind _ _ _ = _
  unfold EStateM.bind Config.watchedRun
  cases c.attach h s with
  | error e s' => rfl
  | ok a s' =>
    obtain ⟨trace, hrun⟩ := execute_watched operation (b := a.1) (v := a.2) (s := { world := s' })
    simp only [hrun]

theorem execute_world {b : Backends σ η} {m : Managed σ} :
    (execute b m operation).2 = (m.perform b operation).2 := by
  unfold execute
  obtain ⟨answer, m'⟩ := m.perform b operation
  cases operation <;> cases answer <;> rfl

theorem Config.attach_triple : Triple (c.attach h) s
    (fun a _ => a.2.fsType = c.settings.filesystem.fsType) (fun _ _ => True) := by
  refine Triple.bind Triple.trivial fun b s' _ => ?_
  exact Triple.bind (R := fun _ _ => True) trivial fun w s'' _ => Triple.pure rfl

theorem Config.watchedRun_mounts {x : Exchange} (hx : x ∈ (c.watchedRun h operation s).1.calls)
    {t : FilesystemType} (ht : x.call.mountType? = some t) :
    (∃ password, operation = .format password t) ∨
      ∃ password, operation = .unlock password ∧ t = c.settings.filesystem.fsType := by
  have hattach := Config.attach_triple (h := h) (c := c) (s := s)
  unfold Config.watchedRun at hx
  unfold Triple at hattach
  cases hc : c.attach h s with
  | error e s' =>
    rw [hc] at hx
    cases hx
  | ok a s' =>
    rw [hc] at hx hattach
    have hmounts : MountsOnly (operation.Mounts a.2)
        ((Managed.mk a.2 ⟨{ world := s' }, []⟩).perform a.1.watched operation).2.world :=
      Managed.perform_of_triple (P := fun _ m => MountsOnly (operation.Mounts a.2) m.world)
        (Triple.mono (operation.run_mountsOnly _ fun _ hx => absurd hx List.not_mem_nil)
          (fun _ _ h => h) fun _ _ h => h.1)
    rw [← execute_world] at hmounts
    have hallowed := hmounts x hx t ht
    cases operation with
    | format password u => exact .inl ⟨password, hallowed ▸ rfl⟩
    | unlock password => exact .inr ⟨password, rfl, hallowed.trans hattach⟩
    | _ => exact hallowed.elim

end Service

-- ---------------------------------------------------------------------------
-- A system with one encrypted device
-- ---------------------------------------------------------------------------

/-- Whether the device is mapped, the filesystem made on it, whether there is a
mount point and whether something is mounted there. -/
structure Box where
  mapped : Bool := false
  made : Option FilesystemType := none
  directory : Bool := false
  mounted : Bool := false

namespace Box

open Linux

def config : Service.Config where
  volume := { device := .ofString "/dev/mmcblk0p5", minBytes := 0, maxBytes := 1024 }

/-- Opening and closing move the mapping, and each of the tools that make
filesystems leaves its own. Of the header only its version is shown. -/
def runTool (r : ToolRun) : SystemCall Box ToolOutput := fun s =>
  let command := r.args.head?
  if command = some (Utf8.encode "open") then .ok {} { s with mapped := true }
  else if command = some (Utf8.encode "close") then .ok {} { s with mapped := false }
  else if command = some (Utf8.encode "luksDump") then
    .ok { out := Utf8.encode "Version: 2\n" } s
  else
    match FilesystemType.all.find? (·.mkfsTool = r.program) with
    | some t => .ok {} { s with made := some t }
    | none => .ok {} s

/-- The kernel mounts a filesystem under the type with which it was made. -/
def host : Host (Attended Box) Unit :=
  { Host.ofTools (fun s p => p != config.identity.mappedDevice || s.mapped) runTool with
    isDirectory := fun w _ => w.world.directory
    makeDirectory := fun _ w => .ok () { w with world.directory := true }
    removeDirectory := fun _ w =>
      if w.world.mounted then .error (.kernel .busy) w
      else .ok () { w with world.directory := false }
    mount := fun c w =>
      if w.world.mapped && w.world.directory && w.world.made == some c.fsType then
        .ok () { w with world.mounted := true }
      else .error .invalid w
    unmount := fun _ w =>
      if w.world.mounted then .ok () { w with world.mounted := false } else .error .invalid w }

/-- The runs for some operations, the newest first, and the system after them. -/
def after : List Operation → List Service.Run × Attended Box
  | [] => ([], { world := {} })
  | operation :: earlier =>
    let (r, s) := config.watchedRun host operation (after earlier).2
    (r :: (after earlier).1, s)

theorem after_runs (operations : List Operation) :
    Service.Runs host config (after operations).1 (after operations).2 := by
  induction operations with
  | nil => exact .start _
  | cons operation earlier ih => exact .run operation ih

end Box

-- ---------------------------------------------------------------------------
-- All runs
-- ---------------------------------------------------------------------------

namespace Service

open Linux

variable {h : Host σ η} {c : Config} {s : σ}

/-- Of all runs of the service, only a formatting calls for a mount with the
type that was asked for, and only an unlocking calls for one besides: with the
type that the configuration names. -/
theorem Runs.mounts_asked_or_configured {runs : List Run} (hr : Runs h c runs s) :
    ∀ r ∈ runs, ∀ x ∈ r.calls, ∀ t, x.call.mountType? = some t →
      (∃ password, r.operation = .format password t) ∨
        ∃ password, r.operation = .unlock password ∧ t = c.settings.filesystem.fsType := by
  induction hr with
  | start s => exact fun r hr => absurd hr List.not_mem_nil
  | @run runs s operation _ ih =>
    refine List.forall_mem_cons.mpr ⟨fun x hx t ht => ?_, ih⟩
    have hoperation : (c.watchedRun h operation s).1.operation = operation := by
      unfold Config.watchedRun
      cases c.attach h s <;> rfl
    rw [hoperation]
    exact Config.watchedRun_mounts hx ht
  | meanwhile s' _ ih => exact ih

/-- The third of three runs. -/
theorem Runs.mounts_asked_or_configured_box :
    ∃ r ∈ (Box.after [.unlock [112], .lock, .format [112] .xfs]).1, ∃ x ∈ r.calls,
      x.call.mountType? = some .ext4 ∧ ((∃ password, r.operation = .format password .ext4) ∨
        ∃ password, r.operation = .unlock password ∧
          .ext4 = Box.config.settings.filesystem.fsType) := by
  have hmount : ∃ r ∈ (Box.after [.unlock [112], .lock, .format [112] .xfs]).1, ∃ x ∈ r.calls,
      x.call.mountType? = some .ext4 := by
    decide +kernel
  obtain ⟨r, hr, x, hx, ht⟩ := hmount
  exact ⟨r, hr, x, hx, ht, (Box.after_runs _).mounts_asked_or_configured r hr x hx _ ht⟩

/-- The run that formats picks a type other than the configured one. Another
run locks the volume, and the one after it cannot open it. -/
theorem not_type_survives :
    Box.config.validate = .ok () ∧
      (Box.after [.unlock [112], .lock, .format [112] .xfs]).1.map
          (fun r => (r.ending, r.calls.filterMap (·.call.mountType?))) =
        [(.ok (.error ⟨.internal .mount (.status "mount" (-22)), []⟩), [.ext4]),
          (.ok (.ok (.state .locked)), []), (.ok (.ok (.state .unlocked)), [.xfs])] := by
  decide +kernel

end Service

end EmmcVault
