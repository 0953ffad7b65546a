import EmmcVault.Proofs.EraseFailures

/-!
# The kinds of failures

Every failure of an operation has the kind that its first failing call fixes.
Where no call failed, the lock state ruled the operation out, the block size is
zero, or the operation objects to what it was given. The kinds that no call is
blamed with are reported exactly where they apply.
-/

namespace EmmcVault

open Watched

variable {ε σ η α β : Type}

namespace Operation

/-- The kind of the failures that a failing call causes. -/
def blames : Operation → BackendCall → BackendError → ErrorKind
  | .unlock _, .load _, _ => .resourceNotFound
  | .enableBkops, .openHandle .., _ => .bkopsIoctlFailure
  | .enableBkops, .request (.command c _), _ =>
    if c = .sendExtCsd then .bkopsIoctlFailure else .bkopsEnableFailure
  | .erase request, call, cause => request.blames call cause
  | _, _, _ => .internalFailure

/-- The kinds of objections where every call succeeded. A register that is not
as long as it must be counts as not read. -/
inductive Objects : Operation → ErrorKind → Prop
  | erase {request kind} : request.Objects kind → Objects (.erase request) kind
  | bkopsUnsupported : Objects .enableBkops .bkopsUnsupported
  | bkopsRegister : Objects .enableBkops .bkopsIoctlFailure
  | refreshRegister : Objects .refresh .internalFailure

/-- The lock state of `v` rules the operation out. -/
def ForbiddenBy (v : Volume) : Operation → Prop
  | .format .. | .unlock _ => v.state ≠ .locked
  | .lock => v.state ≠ .unlocked
  | .erase request => v.Refuses request
  | _ => False

/-- An erase with no size to move data by. -/
def BlocklessOn (v : Volume) : Operation → Prop
  | .erase _ => v.settings.erase.blockSize = 0
  | _ => False

/-- How an operation on `v` that made these calls ends. What the machine cannot
work with has no kind, since no program goes on after it. -/
inductive Classified (v : Volume) (operation : Operation) :
    List Exchange → Option Failure → Prop
  | succeeded {trace} : firstFailure? trace = none → Classified v operation trace none
  | forbidden {f} : operation.ForbiddenBy v → f.kind = .invalidState →
      Classified v operation [] (some f)
  | blockless {f} : ¬ operation.ForbiddenBy v → operation.BlocklessOn v →
      f.kind = .internalFailure → Classified v operation [] (some f)
  | failed {trace call cause f} : ¬ operation.ForbiddenBy v → ¬ operation.BlocklessOn v →
      firstFailure? trace = some (call, cause) → f.kind = operation.blames call cause →
      Classified v operation trace (some f)
  | objected {trace f} : ¬ operation.ForbiddenBy v → ¬ operation.BlocklessOn v →
      firstFailure? trace = none → operation.Objects f.kind → Classified v operation trace (some f)
  | halted {trace f} : ¬ operation.ForbiddenBy v → ¬ operation.BlocklessOn v →
      firstFailure? trace = none → f.fault.exceedsMachine = true →
      Classified v operation trace (some f)

def Blames (operation : Operation) (call : BackendCall) (cause : BackendError) (f : Failure) :
    Prop :=
  f.kind = operation.blames call cause

def Objected (operation : Operation) (f : Failure) : Prop :=
  operation.Objects f.kind ∨ f.fault.exceedsMachine = true

end Operation

namespace Volume

variable {b : Backends σ η} {v : Volume}

/-- Blamed on a call that does not read the header. -/
def BlamesMounting (call : BackendCall) (_ : BackendError) (f : Failure) : Prop :=
  f.kind = .internalFailure ∧ ∀ device, call ≠ .load device

theorem mountFilesystem_explains {t : FilesystemType} :
    Explains Watched.mk BlamesMounting (fun _ => False) (v.mountFilesystem b.watched t)
      (v.mountFilesystem b t) := by
  refine Explains.bind Explains.query fun present => ?_
  split
  · exact Explains.step (Explains.watch fun _ => ⟨rfl, nofun⟩)
  · refine Explains.bind (Explains.step (Explains.watch fun _ => ⟨rfl, nofun⟩)) fun _ => ?_
    refine Explains.undoing (fun _ _ _ _ h => h) ?_
    exact Explains.step (Explains.watch fun _ => ⟨rfl, nofun⟩)

theorem format_explains {password : Text.Bytes} {t : FilesystemType} (hl : v.state = .locked) :
    Explains Watched.mk (Operation.format password t).Blames (fun _ => False)
      (v.format b.watched password t) (v.format b password t) := by
  simp only [Volume.format_eq, Volume.require, if_pos hl, pure_bind]
  refine Explains.bind (Explains.step (Explains.watch fun _ => rfl)) fun _ => ?_
  refine Explains.bind (Explains.step (Explains.watch fun _ => rfl)) fun _ => ?_
  refine Explains.bind (Explains.step (Explains.watch fun _ => rfl)) fun _ => ?_
  refine Explains.bind (Explains.step (Explains.watch fun _ => rfl)) fun _ => ?_
  refine Explains.bind (Explains.undoing (fun _ _ _ _ h => h) ?_) fun _ => Explains.pure
  refine Explains.bind ?_ fun _ =>
    mountFilesystem_explains.mono (fun _ _ _ h => h.1) fun _ h => h
  refine Explains.bind (Explains.step (Explains.watch fun _ => rfl)) fun _ => ?_
  exact Explains.step (Explains.watch fun _ => rfl)

theorem unlock_explains {password : Text.Bytes} (hl : v.state = .locked) :
    Explains Watched.mk (Operation.unlock password).Blames (fun _ => False)
      (v.unlock b.watched password) (v.unlock b password) := by
  simp only [Volume.unlock_eq, Volume.require, if_pos hl, pure_bind]
  refine Explains.bind (Explains.step (Explains.watch fun _ => rfl)) fun _ => ?_
  refine Explains.bind (Explains.step (Explains.watch fun _ => rfl)) fun _ => ?_
  refine Explains.bind (Explains.undoing (fun _ _ _ _ h => h) ?_) fun _ => Explains.pure
  refine mountFilesystem_explains.mono (fun call cause f h => ?_) fun _ h => h
  cases call with
  | load device => exact (h.2 device rfl).elim
  | _ => exact h.1

theorem lock_explains (hu : v.state = .unlocked) :
    Explains Watched.mk Operation.lock.Blames (fun _ => False) (v.lock b.watched) (v.lock b) := by
  simp only [Volume.lock_eq, Volume.require, if_pos hu, pure_bind]
  refine Explains.bind (Explains.step (Explains.watch fun _ => rfl)) fun _ => ?_
  refine Explains.bind (Explains.step (Explains.watch fun _ => rfl)) fun _ => ?_
  exact Explains.bind (Explains.step (Explains.watch fun _ => rfl)) fun _ => Explains.pure

theorem changePassword_explains {old new : Text.Bytes} :
    Explains Watched.mk (Operation.changePassword old new).Blames (fun _ => False)
      (v.changePassword b.watched old new) (v.changePassword b old new) := by
  refine Explains.bind (Explains.step (Explains.watch fun _ => rfl)) fun _ => ?_
  exact Explains.bind (Explains.step (Explains.watch fun _ => rfl)) fun _ => Explains.pure

theorem erase_explains {request : EraseRequest} (hr : ¬ v.Refuses request)
    (hb : v.settings.erase.blockSize ≠ 0) :
    Explains Watched.mk (Operation.erase request).Blames (Operation.erase request).Objected
      (v.erase b.watched request) (v.erase b request) := by
  rw [erase_admitted hr, erase_admitted hr]
  refine Explains.adaptExcept ((EraseTarget.run_explains hb).mono (fun _ _ _ h => h) ?_)
  rintro f (ho | hm)
  · exact .inl (.erase ho)
  · exact .inr hm

theorem enableBkops_explains :
    Explains Watched.mk Operation.enableBkops.Blames Operation.enableBkops.Objected
      (v.enableBkops b.watched) (v.enableBkops b) := by
  refine Explains.withHandle (fun _ => rfl) ?_
  refine Explains.bind (Explains.step (BlockDevices.readExtCsd_explains (fun _ _ => ?_)
    fun _ => .inl .bkopsRegister)) fun register => ?_
  · simp only [Operation.Blames, Operation.blames, ↓reduceIte]
    rfl
  split
  · exact Explains.throw (.inl .bkopsUnsupported)
  · split
    · exact Explains.pure
    · refine Explains.bind (Explains.step (Explains.watchOpen fun _ => ?_)) fun _ => Explains.pure
      have hne : Mmc.Command.enableBkops ≠ .sendExtCsd := by decide
      simp only [Operation.Blames, Operation.blames, if_neg hne]
      rfl

theorem refresh_explains :
    Explains Watched.mk Operation.refresh.Blames Operation.refresh.Objected
      (v.refresh b.watched) (v.refresh b) := by
  rw [Volume.refresh_eq, Volume.refresh_eq]
  refine Explains.withHandle (fun _ => rfl) ?_
  refine Explains.bind (Explains.step (Explains.watchOpen fun _ => rfl)) fun bytes => ?_
  refine Explains.bind (Explains.step (BlockDevices.readExtCsd_explains (fun _ _ => rfl)
    fun _ => .inl .refreshRegister)) fun register => ?_
  exact Explains.pure

end Volume

namespace Operation

variable {b : Backends σ η} {v : Volume} {operation : Operation}

theorem run_explains (hf : ¬ operation.ForbiddenBy v) (hb : ¬ operation.BlocklessOn v) :
    Explains Watched.mk operation.Blames operation.Objected (operation.run b.watched v)
      (operation.run b v) := by
  have quiet : ∀ {β : Type} {x : EStateM Failure (Watched σ) β} {y : EStateM Failure σ β},
      Explains Watched.mk operation.Blames (fun _ => False) x y →
      Explains Watched.mk operation.Blames operation.Objected x y := fun h =>
    h.mono (fun _ _ _ h => h) fun _ h => h.elim
  rw [run_eq, run_eq]
  cases operation with
  | format password t =>
    have hl : v.state = .locked := Decidable.not_not.mp hf
    exact Explains.bind (quiet (Volume.format_explains hl)) fun _ => Explains.pure
  | unlock password =>
    have hl : v.state = .locked := Decidable.not_not.mp hf
    exact Explains.bind (quiet (Volume.unlock_explains hl)) fun _ => Explains.pure
  | lock =>
    have hu : v.state = .unlocked := Decidable.not_not.mp hf
    exact Explains.bind (quiet (Volume.lock_explains hu)) fun _ => Explains.pure
  | changePassword old new =>
    exact Explains.bind (quiet Volume.changePassword_explains) fun _ => Explains.pure
  | erase request => exact Explains.bind (Volume.erase_explains hf hb) fun _ => Explains.pure
  | enableBkops => exact Explains.bind Volume.enableBkops_explains fun _ => Explains.pure
  | refresh => exact Explains.bind Volume.refresh_explains fun _ => Explains.pure

theorem run_forbidden (h : operation.ForbiddenBy v) :
    ∃ f : Failure, f.kind = .invalidState ∧
      ∀ {σ η : Type} (b : Backends σ η) (s : σ), operation.run b v s = .error f s := by
  cases operation with
  | format password t =>
    refine ⟨⟨.wrongState .format v.identity.container v.state, []⟩, rfl, fun b s => ?_⟩
    simp only [run_eq, Volume.format_eq, Volume.require, if_neg h]
    rfl
  | unlock password =>
    refine ⟨⟨.wrongState .unlock v.identity.container v.state, []⟩, rfl, fun b s => ?_⟩
    simp only [run_eq, Volume.unlock_eq, Volume.require, if_neg h]
    rfl
  | lock =>
    refine ⟨⟨.wrongState .lock v.identity.container v.state, []⟩, rfl, fun b s => ?_⟩
    simp only [run_eq, Volume.lock_eq, Volume.require, if_neg h]
    rfl
  | erase request =>
    refine ⟨⟨.unlockedForErase request.method, []⟩, rfl, fun b s => ?_⟩
    simp only [run_eq, bind, EStateM.bind, Volume.erase_refused h]
  | changePassword old new => exact h.elim
  | enableBkops => exact h.elim
  | refresh => exact h.elim

theorem run_blockless (hf : ¬ operation.ForbiddenBy v) (hb : operation.BlocklessOn v) :
    ∃ f : Failure, f.kind = .internalFailure ∧
      ∀ {σ η : Type} (b : Backends σ η) (s : σ), operation.run b v s = .error f s := by
  cases operation with
  | erase request =>
    refine ⟨⟨.zeroBlockSize, []⟩, rfl, fun b s => ?_⟩
    have hzero : ¬ 0 < (v.eraseTarget b).settings.blockSize.toNat := by
      rw [show (v.eraseTarget b).settings.blockSize = 0 from hb]
      decide
    simp only [run_eq, Volume.erase_admitted hf, EraseTarget.run, dif_neg hzero]
    rfl
  | format => exact hb.elim
  | unlock => exact hb.elim
  | lock => exact hb.elim
  | changePassword => exact hb.elim
  | enableBkops => exact hb.elim
  | refresh => exact hb.elim

theorem run_classified (b : Backends σ η) (v : Volume) (operation : Operation) (s : σ) :
    ∃ trace, operation.run b.watched v ⟨s, []⟩ = tracked Watched.mk (operation.run b v s) trace ∧
      Classified v operation trace (failure? (operation.run b v s)) := by
  by_cases hf : operation.ForbiddenBy v
  · obtain ⟨f, hkind, hrun⟩ := run_forbidden hf
    refine ⟨[], ?_, ?_⟩
    · rw [hrun, hrun]
      rfl
    · rw [hrun]
      exact .forbidden hf hkind
  by_cases hb : operation.BlocklessOn v
  · obtain ⟨f, hkind, hrun⟩ := run_blockless hf hb
    refine ⟨[], ?_, ?_⟩
    · rw [hrun, hrun]
      rfl
    · rw [hrun]
      exact .blockless hf hb hkind
  obtain ⟨trace, hx, he⟩ := run_explains (b := b) hf hb s []
  refine ⟨trace, hx, ?_⟩
  cases hy : failure? (operation.run b v s) with
  | none =>
    rw [hy] at he
    cases he with
    | succeeded hn => exact .succeeded hn
  | some f =>
    rw [hy] at he
    cases he with
    | failed hfirst hk => exact .failed hf hb hfirst hk
    | objected hn ho =>
      obtain ho | hm := ho
      · exact .objected hf hb hn ho
      · exact .halted hf hb hn hm

-- ---------------------------------------------------------------------------
-- Kinds that no call is blamed with
-- ---------------------------------------------------------------------------

/-- The operation fails, and with this kind. -/
def FailsWith (b : Backends σ η) (v : Volume) (operation : Operation) (s : σ) (kind : ErrorKind) :
    Prop :=
  ∃ f s', operation.run b v s = .error f s' ∧ f.kind = kind

def callKinds : List ErrorKind :=
  [.resourceNotFound, .internalFailure, .eraseError, .bkopsIoctlFailure, .bkopsEnableFailure]

theorem blames_mem (operation : Operation) (call : BackendCall) (cause : BackendError) :
    operation.blames call cause ∈ callKinds := by
  unfold blames EraseRequest.blames
  repeat' split
  all_goals decide

theorem kind_of_exceedsMachine {f : Fault} (h : f.exceedsMachine = true) :
    f.kind = .internalFailure := by
  cases f <;> first | rfl | cases h

theorem Classified.kind_cases {trace : List Exchange} {f : Failure}
    (h : Classified v operation trace (some f)) :
    operation.ForbiddenBy v ∧ f.kind = .invalidState ∨ f.kind ∈ callKinds ∨
      ¬ operation.BlocklessOn v ∧ operation.Objects f.kind := by
  cases h with
  | forbidden hf hk => exact .inl ⟨hf, hk⟩
  | blockless _ _ hk => exact .inr (.inl (hk ▸ by decide))
  | failed _ _ _ hk => exact .inr (.inl (hk ▸ blames_mem _ _ _))
  | objected _ hb _ ho => exact .inr (.inr ⟨hb, ho⟩)
  | halted _ _ _ hm =>
    have hk : f.kind = .internalFailure := kind_of_exceedsMachine hm
    exact .inr (.inl (hk ▸ by decide))

theorem FailsWith.cases {s : σ} {kind : ErrorKind} (h : FailsWith b v operation s kind) :
    operation.ForbiddenBy v ∧ kind = .invalidState ∨ kind ∈ callKinds ∨
      ¬ operation.BlocklessOn v ∧ operation.Objects kind := by
  obtain ⟨f, s', hrun, rfl⟩ := h
  obtain ⟨trace, -, hc⟩ := run_classified b v operation s
  rw [hrun] at hc
  exact hc.kind_cases

theorem failsWith_invalidState_iff {s : σ} :
    FailsWith b v operation s .invalidState ↔ operation.ForbiddenBy v := by
  constructor
  · intro h
    obtain ⟨hf, -⟩ | hc | ⟨-, ho⟩ := h.cases
    · exact hf
    · exact absurd hc (by decide)
    · cases ho with
      | erase ho => cases ho
  · intro hf
    obtain ⟨f, hkind, hrun⟩ := run_forbidden hf
    exact ⟨f, s, hrun b s, hkind⟩

end Operation

namespace Volume

variable {b : Backends σ η} {v : Volume} {s : σ}

/-- Opened in this mode, the volume's device answers the call so. -/
def Answers (b : Backends σ η) (v : Volume) (s : σ) (mode : OpenMode) (call : Call (σ × η) α)
    (a : α) : Prop :=
  ∃ handle s' t, b.devices.openHandle v.identity.device mode s = .ok handle s' ∧
    call (s', handle) = .ok a t

/-- A failure after an answer is one that the answer leads to. -/
theorem withHandle_answered {mode : OpenMode} {refused : BackendError → ε} {call : Call (σ × η) α}
    {fault : BackendError → ε} {rest : α → EStateM ε (σ × η) β} {E : ε → Prop}
    (ho : ∀ cause, E (refused cause)) (hc : ∀ cause, E (fault cause))
    (hr : ∀ a t, v.Answers b s mode call a → Triple (rest a) t (fun _ _ => True) fun e _ => E e) :
    Triple (b.devices.withHandle v.identity.device mode refused
      (call.adaptExcept fault >>= rest)) s (fun _ _ => True) fun e _ => E e := by
  refine Triple.withHandle (J := fun t => b.devices.openHandle v.identity.device mode s =
    .ok t.2 t.1) (Triple.mono Triple.self (fun _ _ h => h) fun cause _ _ => ho cause)
    fun t hopen => ?_
  refine Triple.bind (Triple.adaptExcept (Triple.mono Triple.self (fun _ _ h => h)
    fun cause _ _ => hc cause)) fun a t' ha => ?_
  exact hr a t' ⟨t.2, t.1, t', hopen, ha⟩

/-- After this answer, what follows it alone decides. -/
theorem withHandle_given {mode : OpenMode} {refused : BackendError → ε} {call : Call (σ × η) α}
    {fault : BackendError → ε} {rest : α → EStateM ε (σ × η) β} {a : α} {E : ε → Prop}
    (ha : v.Answers b s mode call a)
    (hr : ∀ t, Triple (rest a) t (fun _ _ => False) fun e _ => E e) :
    Triple (b.devices.withHandle v.identity.device mode refused
      (call.adaptExcept fault >>= rest)) s (fun _ _ => False) fun e _ => E e := by
  obtain ⟨handle, s', t, hopen, hcall⟩ := ha
  refine Triple.withHandle (J := fun u => u = (s', handle)) (Triple.of_ok hopen rfl) ?_
  rintro _ rfl
  exact Triple.bind (R := fun a' _ => a' = a) (Triple.adaptExcept (Triple.of_ok hcall rfl))
    fun a' t' h => h ▸ hr t'

end Volume

-- ---------------------------------------------------------------------------
-- Background operations and geometry
-- ---------------------------------------------------------------------------

theorem Volume.erase_verifyGeometry {b : Backends σ η} {v : Volume}
    (hb : v.settings.erase.blockSize ≠ 0) :
    v.erase b .verifyGeometry =
      (VerifyGeometry.run (v.eraseTarget b)).adaptExcept (⟨·, []⟩) := by
  have admitted : ¬ v.Refuses .verifyGeometry := fun hr => Bool.false_ne_true hr.1
  rw [erase_admitted admitted, EraseTarget.run_eq (EraseSettings.blockSize_pos hb)]

theorem GeometryBounds.require_tooSmall_iff {g : GeometryBounds} {bytes : UInt64} :
    (∃ f, g.require bytes = .error f ∧ f.kind = .geometryTooSmall) ↔ bytes < g.minBytes := by
  unfold GeometryBounds.require GeometryBounds.check
  by_cases hmin : bytes < g.minBytes
  · simp [hmin, Fault.kind]
  · by_cases hmax : g.maxBytes < bytes <;> simp [hmin, hmax, Fault.kind]

theorem GeometryBounds.require_tooLarge_iff {g : GeometryBounds} {bytes : UInt64} :
    (∃ f, g.require bytes = .error f ∧ f.kind = .geometryTooLarge) ↔
      g.minBytes ≤ bytes ∧ g.maxBytes < bytes := by
  unfold GeometryBounds.require GeometryBounds.check
  by_cases hmin : bytes < g.minBytes
  · simp [hmin, UInt64.not_le.mpr hmin, Fault.kind]
  · by_cases hmax : g.maxBytes < bytes <;>
      simp [hmin, hmax, UInt64.not_lt.mp hmin, Fault.kind]

namespace Operation

variable {b : Backends σ η} {v : Volume} {operation : Operation} {s : σ} {kind : ErrorKind}

theorem FailsWith.of_triple
    (h : Triple (operation.run b v) s (fun _ _ => False) fun f _ => f.kind = kind) :
    FailsWith b v operation s kind := by
  obtain ⟨a, s', -, hfalse⟩ | ⟨f, s', hrun, hk⟩ := h.cases
  · exact hfalse.elim
  · exact ⟨f, s', hrun, hk⟩

theorem FailsWith.elim {P : Prop} (h : FailsWith b v operation s kind)
    (ht : Triple (operation.run b v) s (fun _ _ => True) fun f _ => f.kind = kind → P) : P := by
  obtain ⟨f, s', hrun, hk⟩ := h
  unfold Triple at ht
  rw [hrun] at ht
  exact ht hk

theorem failsWith_bkopsUnsupported_iff :
    FailsWith b v operation s .bkopsUnsupported ↔ operation = .enableBkops ∧
      ∃ register, v.Answers b s .readWrite b.devices.readExtCsd register ∧
        register.bkopsSupported = false := by
  constructor
  · intro h
    obtain ⟨-, hk⟩ | hk | ⟨-, ho⟩ := h.cases
    · cases hk
    · exact absurd hk (by decide)
    cases ho with
    | erase ho => cases ho
    | bkopsUnsupported =>
      refine ⟨rfl, h.elim ?_⟩
      rw [run_eq]
      refine Triple.bind (R := fun _ _ => True) ?_ fun _ _ _ => Triple.pure trivial
      refine Volume.withHandle_answered nofun nofun fun register t ha => ?_
      split
      · rename_i hs
        exact Triple.throw fun _ => ⟨register, ha, by simpa using hs⟩
      · split
        · exact Triple.pure trivial
        · refine Triple.bind (R := fun _ _ => True) (Triple.step ?_) fun _ _ _ =>
            Triple.pure trivial
          exact Triple.mono Triple.trivial (fun _ _ h => h) fun _ _ _ => nofun
  · rintro ⟨rfl, register, ha, hs⟩
    refine FailsWith.of_triple ?_
    rw [run_eq]
    refine Triple.bind (R := fun _ _ => False) ?_ fun _ _ h => h.elim
    refine Volume.withHandle_given ha fun t => ?_
    simp only [hs]
    exact Triple.throw rfl

/-- An objection to the geometry, in either direction. -/
theorem failsWith_geometry_iff (hg : kind = .geometryTooSmall ∨ kind = .geometryTooLarge) :
    FailsWith b v operation s kind ↔ operation = .erase .verifyGeometry ∧
      v.settings.erase.blockSize ≠ 0 ∧ ∃ bytes, v.Answers b s .read b.devices.size bytes ∧
        ∃ f, v.bounds.require bytes = .error f ∧ f.kind = kind := by
  constructor
  · intro h
    obtain ⟨-, hk⟩ | hk | ⟨hb, ho⟩ := h.cases
    · rcases hg with rfl | rfl <;> cases hk
    · rcases hg with rfl | rfl <;> exact absurd hk (by decide)
    have hop : operation = .erase .verifyGeometry := by
      rcases hg with rfl | rfl <;> cases ho with
      | erase ho => cases ho; rfl
    subst hop
    refine ⟨rfl, hb, h.elim ?_⟩
    rw [run_eq]
    refine Triple.bind (R := fun _ _ => True) ?_ fun _ _ _ => Triple.pure trivial
    rw [Volume.erase_verifyGeometry hb]
    refine Triple.adaptExcept (Volume.withHandle_answered (fun cause hk => ?_) (fun cause hk => ?_)
      fun bytes t ha => ?_)
    -- what refuses to open is blamed on a call, and no call is blamed with these kinds
    · have hopen : (Fault.opening cause).kind ∈ callKinds :=
        blames_mem (.erase .verifyGeometry) (.openHandle v.identity.device .read) cause
      rw [show (Fault.opening cause).kind = kind from hk] at hopen
      rcases hg with rfl | rfl <;> exact absurd hopen (by decide)
    · rcases hg with rfl | rfl <;> cases hk
    · refine Triple.bind (R := fun _ _ => True) (Triple.ofExcept (fun _ _ => trivial)
        fun f hf hk => ?_) fun _ _ _ => Triple.pure trivial
      exact ⟨bytes, ha, f, hf, hk⟩
  · rintro ⟨rfl, hb, bytes, ha, f, hf, hk⟩
    refine FailsWith.of_triple ?_
    rw [run_eq]
    refine Triple.bind (R := fun _ _ => False) ?_ fun _ _ h => h.elim
    rw [Volume.erase_verifyGeometry hb]
    refine Triple.adaptExcept (Volume.withHandle_given ha fun t => ?_)
    refine Triple.bind (R := fun _ _ => False) ?_ fun _ _ h => h.elim
    refine Triple.ofExcept (fun _ hok => ?_) fun g hg => ?_
    · exact nomatch hf.symm.trans hok
    · cases hf.symm.trans hg
      exact hk

/-- Every failure is classified by its first failing call, and the kinds that
callers act on come of nothing else than what they stand for. -/
theorem failures_classified (b : Backends σ η) (v : Volume) (operation : Operation) (s : σ) :
    (∃ trace, operation.run b.watched v ⟨s, []⟩ = tracked Watched.mk (operation.run b v s) trace ∧
      Classified v operation trace (failure? (operation.run b v s))) ∧
    (FailsWith b v operation s .invalidState ↔ operation.ForbiddenBy v) ∧
    (FailsWith b v operation s .bkopsUnsupported ↔ operation = .enableBkops ∧
      ∃ register, v.Answers b s .readWrite b.devices.readExtCsd register ∧
        register.bkopsSupported = false) ∧
    (FailsWith b v operation s .geometryTooSmall ↔ operation = .erase .verifyGeometry ∧
      v.settings.erase.blockSize ≠ 0 ∧ ∃ bytes, v.Answers b s .read b.devices.size bytes ∧
        bytes < v.bounds.minBytes) ∧
    (FailsWith b v operation s .geometryTooLarge ↔ operation = .erase .verifyGeometry ∧
      v.settings.erase.blockSize ≠ 0 ∧ ∃ bytes, v.Answers b s .read b.devices.size bytes ∧
        v.bounds.minBytes ≤ bytes ∧ v.bounds.maxBytes < bytes) := by
  refine ⟨run_classified b v operation s, failsWith_invalidState_iff,
    failsWith_bkopsUnsupported_iff, ?_, ?_⟩
  · simp only [← GeometryBounds.require_tooSmall_iff]
    exact failsWith_geometry_iff (.inl rfl)
  · simp only [← GeometryBounds.require_tooLarge_iff]
    exact failsWith_geometry_iff (.inr rfl)

end Operation

end EmmcVault
