import EmmcVault.Memory.Bench
import EmmcVault.Proofs.History
import EmmcVault.Proofs.Watched

/-!
# What is called, and what is undone

Formatting and unlocking follow a plan, a list of calls some of which come with
a call that undoes them. `Course` says what becomes of a plan: all of it is
done, or one call fails and the calls before it are undone, the newest first.
Whatever the backends answer, the calls made on them are such a course.
-/

namespace EmmcVault

open Text Watched

variable {σ η α β : Type}

-- ---------------------------------------------------------------------------
-- Plans and their courses
-- ---------------------------------------------------------------------------

inductive PlannedStep where
  /-- A call, how its failure is reported and what undoes it. -/
  | attempt (call : BackendCall) (words : String) (undo? : Option BackendCall := none)
      (kind : ErrorKind := .internalFailure)
  /-- The question whether there is a directory, and the answer. -/
  | find (path : Path) (present : Bool)

namespace PlannedStep

def undo? : PlannedStep → Option BackendCall
  | attempt _ _ undo? _ => undo?
  | find .. => none

/-- The step as it goes on record when it succeeds. -/
def passed : PlannedStep → Exchange
  | attempt call .. => ⟨call, .done⟩
  | find path present => ⟨.directoryExists path, .present present⟩

end PlannedStep

/-- What becomes of a plan. A failing call ends it and is reported alone; then
the calls made before it are undone, the newest first, and then the `pending`
ones of steps before the plan. An undo call that fails stops none of the
others, and its message is added to the report. -/
inductive Course (plan : List PlannedStep) (pending : List BackendCall) :
    List Exchange → Option StorageError → Prop
  | completed : Course plan pending (plan.map PlannedStep.passed) none
  | stopped (steps) {call words undo? kind rest cause undone} :
      plan = steps ++ .attempt call words undo? kind :: rest →
      undone.map Exchange.call = steps.reverse.filterMap PlannedStep.undo? ++ pending →
      Course plan pending (steps.map PlannedStep.passed ++ ⟨call, .failed cause⟩ :: undone)
        (some ⟨kind, s!"{words}: {cause}", undone.filterMap Exchange.complaint?⟩)

namespace Course

variable {plan : List PlannedStep} {pending : List BackendCall} {trace : List Exchange}
  {report? : Option StorageError} {p : PlannedStep} {e : StorageError}

/-- A step that passed comes before the course of the rest, to which it leaves
its undo call. -/
theorem cons (h : Course plan (p.undo?.toList ++ pending) trace report?) :
    Course (p :: plan) pending (p.passed :: trace) report? := by
  cases h with
  | completed => exact completed
  | @stopped steps call words undo? kind rest cause undone hplan hundone =>
    subst hplan
    refine stopped (p :: steps) rfl ?_
    rw [hundone]
    cases hu : p.undo? <;> simp [hu]

theorem first {call : BackendCall} {words : String} {undo? : Option BackendCall} {kind : ErrorKind}
    {cause : BackendError} :
    Course (.attempt call words undo? kind :: plan) [] [⟨call, .failed cause⟩]
      (some ⟨kind, s!"{words}: {cause}", []⟩) :=
  @stopped _ _ [] _ _ _ _ _ _ [] rfl rfl

/-- One more call is undone after the others. -/
theorem undone {x : Exchange} (h : Course plan pending trace (some e)) :
    Course plan (pending ++ [x.call]) (trace ++ [x])
      (some { e with rollback := e.rollback ++ x.complaint?.toList }) := by
  cases h with
  | @stopped steps call words undo? kind rest cause undone hplan hundone =>
    have hcalls : (undone ++ [x]).map Exchange.call =
        steps.reverse.filterMap PlannedStep.undo? ++ (pending ++ [x.call]) := by
      rw [List.map_append, hundone, List.append_assoc]
      rfl
    have hmessages : (undone ++ [x]).filterMap Exchange.complaint? =
        undone.filterMap Exchange.complaint? ++ x.complaint?.toList := by
      cases hx : x.complaint? <;> simp [hx]
    rw [List.append_assoc, ← hmessages]
    exact stopped steps hplan hcalls

theorem owing {more : List BackendCall} (h : Course plan pending trace none) :
    Course plan more trace none := by
  cases h with
  | completed => exact completed

end Course

-- ---------------------------------------------------------------------------
-- Watched operations
-- ---------------------------------------------------------------------------

/-- The same outcome in a watched world. -/
def Watched.after (r : EStateM.Result Failure σ α) (trace : List Exchange) :
    EStateM.Result Failure (Watched σ) α :=
  match r with
  | .ok a world => .ok a ⟨world, trace⟩
  | .error f world => .error f ⟨world, trace⟩

def reported? : EStateM.Result Failure σ α → Option StorageError
  | .ok .. => none
  | .error f _ => some f.report

/-- Watched, `y` is `x`, and its calls are the course of a plan that depends on
whether a directory is missing. -/
def Follows (x : EStateM Failure (Watched σ) α) (y : EStateM Failure σ α)
    (pending : List BackendCall) (plan : Bool → List PlannedStep) : Prop :=
  ∀ s before, ∃ missing trace, x ⟨s, before⟩ = after (y s) (before ++ trace) ∧
    Course (plan missing) pending trace (reported? (y s))

namespace Follows

variable {x : EStateM Failure (Watched σ) α} {y : EStateM Failure σ α} {c : BackendCall}
  {call : Call σ α} {fault : BackendError → Fault} {words : String} {kind : ErrorKind}
  {undo? : Option BackendCall} {pending : List BackendCall} {plan : Bool → List PlannedStep}

theorem pure {a : α} : Follows (Pure.pure a) (Pure.pure a : EStateM Failure σ α) pending
    fun _ => [] := by
  intro s before
  refine ⟨false, [], ?_, .completed⟩
  rw [List.append_nil]
  rfl

theorem map {g : α → β} (h : Follows x y pending plan) :
    Follows (x >>= fun a => Pure.pure (g a)) (y >>= fun a => Pure.pure (g a)) pending plan := by
  intro s before
  obtain ⟨missing, trace, hx, hc⟩ := h s before
  refine ⟨missing, trace, ?_, ?_⟩
  · show EStateM.bind _ _ _ = after (EStateM.bind _ _ _) _
    unfold EStateM.bind
    rw [hx]
    cases y s <;> rfl
  · show Course _ _ _ (reported? (EStateM.bind _ _ _))
    unfold EStateM.bind
    cases hy : y s <;> rw [hy] at hc <;> exact hc

/-- The next call of the plan; if it fails nothing after it is called. -/
theorem next {f' : α → EStateM Failure (Watched σ) β} {f : α → EStateM Failure σ β}
    (hfault : ∀ cause, (fault cause).kind = kind ∧ (fault cause).message = s!"{words}: {cause}")
    (h : ∀ a, Follows (f' a) (f a) undo?.toList plan) :
    Follows (Volume.step (watch c call) fault >>= f') (Volume.step call fault >>= f) []
      fun missing => .attempt c words undo? kind :: plan missing := by
  intro s before
  cases hcall : call s with
  | ok a s' =>
    obtain ⟨missing, trace, hx, hc⟩ := h a s' (before ++ [⟨c, .done⟩])
    have hy : (Volume.step call fault >>= f) s = f a s' := by
      simp only [bind, EStateM.bind, Volume.step, EStateM.adaptExcept, hcall]
    refine ⟨missing, ⟨c, .done⟩ :: trace, ?_, ?_⟩
    · rw [hy, List.append_cons, ← hx]
      simp only [bind, EStateM.bind, Volume.step, EStateM.adaptExcept, watch, hcall]
    · rw [hy]
      exact Course.cons (by simpa [PlannedStep.undo?] using hc)
  | error cause s' =>
    have hy : (Volume.step call fault >>= f) s = .error ⟨fault cause, []⟩ s' := by
      simp only [bind, EStateM.bind, Volume.step, EStateM.adaptExcept, hcall]
    refine ⟨false, [⟨c, .failed cause⟩], ?_, ?_⟩
    · rw [hy]
      simp only [bind, EStateM.bind, Volume.step, EStateM.adaptExcept, watch, hcall, after]
    · obtain ⟨hkind, hmessage⟩ := hfault cause
      rw [hy, reported?, Failure.report, hkind, hmessage]
      exact Course.first

/-- The last call of a plan. -/
theorem last (hfault : ∀ cause, (fault cause).kind = kind ∧
    (fault cause).message = s!"{words}: {cause}") :
    Follows (Volume.step (watch c call) fault) (Volume.step call fault) []
      fun _ => [.attempt c words none kind] := by
  have h : Follows (Volume.step (watch c call) fault >>= Pure.pure)
      (Volume.step call fault >>= Pure.pure) [] fun _ => [.attempt c words none kind] :=
    next hfault fun _ => pure
  rwa [bind_pure, bind_pure] at h

theorem undoing {undo : Call σ Unit} (h : Follows x y [] plan) :
    Follows (Volume.undoing (watch c undo) x) (Volume.undoing undo y) [c] plan := by
  intro s before
  obtain ⟨missing, trace, hx, hc⟩ := h s before
  cases hy : y s with
  | ok a s' =>
    rw [hy] at hx hc
    have hu : Volume.undoing undo y s = .ok a s' := by
      simp only [Volume.undoing, hy]
    refine ⟨missing, trace, ?_, ?_⟩
    · rw [hu]
      simp only [Volume.undoing, hx, after]
    · rw [hu]
      exact hc.owing
  | error f s' =>
    rw [hy] at hx hc
    cases hundo : undo s' with
    | ok _ s'' =>
      have hu : Volume.undoing undo y s = .error f s'' := by
        simp only [Volume.undoing, hy, hundo]
      refine ⟨missing, trace ++ [⟨c, .done⟩], ?_, ?_⟩
      · rw [hu, ← List.append_assoc]
        simp only [Volume.undoing, hx, after, watch, hundo]
      · have hcourse := Course.undone (x := ⟨c, .done⟩) hc
        rw [hu]
        simpa [Exchange.complaint?, reported?] using hcourse
    | error cause s'' =>
      have hu : Volume.undoing undo y s =
          .error { f with rollback := f.rollback ++ [cause] } s'' := by
        simp only [Volume.undoing, hy, hundo]
      refine ⟨missing, trace ++ [⟨c, .failed cause⟩], ?_, ?_⟩
      · rw [hu, ← List.append_assoc]
        simp only [Volume.undoing, hx, after, watch, hundo]
      · have hcourse := Course.undone (x := ⟨c, .failed cause⟩) hc
        rw [hu]
        simpa [Exchange.complaint?, reported?, Failure.report] using hcourse

/-- The plan after a question is the one for its answer. -/
theorem query {q : StateM σ Bool} {path : Path} {f' : Bool → EStateM Failure (Watched σ) β}
    {f : Bool → EStateM Failure σ β}
    (h : ∀ present, Follows (f' present) (f present) [] fun _ => plan (!present)) :
    Follows
      ((fun w => let (a, w) := ask (.directoryExists path) q w; .ok a w) >>= f')
      ((fun s => let (a, s) := q s; .ok a s) >>= f) []
      fun missing => .find path (!missing) :: plan missing := by
  intro s before
  obtain ⟨_, trace, hx, hc⟩ := h (q s).1 (q s).2
    (before ++ [⟨.directoryExists path, .present (q s).1⟩])
  refine ⟨!(q s).1, ⟨.directoryExists path, .present (q s).1⟩ :: trace, ?_, ?_⟩
  · rw [List.append_cons]
    exact hx
  · show Course (.find path (!!(q s).1) :: plan !(q s).1) _ _ _
    rw [Bool.not_not]
    exact Course.cons hc

end Follows

-- ---------------------------------------------------------------------------
-- Formatting and unlocking
-- ---------------------------------------------------------------------------

namespace Volume

variable {b : Backends σ η} {v : Volume}

def mountPlan (v : Volume) (t : FilesystemType) (missing : Bool) : List PlannedStep :=
  let target := v.identity.mountPoint
  .find target (!missing) ::
    ((if missing then
      [.attempt (.createDirectory target) "create mount point" (some (.removeDirectory target))]
    else []) ++
    [.attempt (.mount v.identity.mappedDevice target t v.settings.filesystem.mount) "mount"])

def formatPlan (v : Volume) (password : Bytes) (t : FilesystemType) (missing : Bool) :
    List PlannedStep :=
  let device := v.identity.device
  let mapped := v.identity.mappedDevice
  let name := v.identity.container
  let options := v.settings.filesystem
  [.attempt (.format device v.settings.encryption) "format volume header",
    .attempt (.addKeyslot device password) "add keyslot",
    .attempt (.load device) "load volume header",
    .attempt (.activate device name password) "activate volume" (some (.deactivate name)),
    .attempt (.makeFilesystem mapped t (options.mkfsOptionsFor t)) "mkfs",
    .attempt (.checkFilesystem mapped t options.fsckOptions) "fsck"] ++ v.mountPlan t missing

/-- A header that cannot be loaded is reported as not found here. -/
def unlockPlan (v : Volume) (password : Bytes) (missing : Bool) : List PlannedStep :=
  let device := v.identity.device
  let name := v.identity.container
  [.attempt (.load device) "load volume header" none .resourceNotFound,
    .attempt (.activate device name password) "activate volume" (some (.deactivate name))] ++
    v.mountPlan v.fsType missing

theorem mountFilesystem_follows {t : FilesystemType} :
    Follows (v.mountFilesystem b.watched t) (v.mountFilesystem b t) [] (v.mountPlan t) := by
  refine Follows.query fun present => ?_
  cases present with
  | true => exact Follows.last fun _ => ⟨rfl, rfl⟩
  | false =>
    refine Follows.next (fun _ => ⟨rfl, rfl⟩) fun _ => ?_
    exact Follows.undoing (Follows.last fun _ => ⟨rfl, rfl⟩)

theorem format_follows {password : Bytes} {t : FilesystemType} (hl : v.state = .locked) :
    Follows (v.format b.watched password t) (v.format b password t) []
      (v.formatPlan password t) := by
  simp only [Volume.format_eq, Volume.require, if_pos hl, pure_bind]
  refine Follows.next (fun _ => ⟨rfl, rfl⟩) fun _ => ?_
  refine Follows.next (fun _ => ⟨rfl, rfl⟩) fun _ => ?_
  refine Follows.next (fun _ => ⟨rfl, rfl⟩) fun _ => ?_
  refine Follows.next (fun _ => ⟨rfl, rfl⟩) fun _ => ?_
  refine Follows.map (Follows.undoing ?_)
  unfold Volume.makeFilesystem
  rw [bind_assoc, bind_assoc]
  refine Follows.next (fun _ => ⟨rfl, rfl⟩) fun _ => ?_
  refine Follows.next (fun _ => ⟨rfl, rfl⟩) fun _ => ?_
  exact mountFilesystem_follows

theorem unlock_follows {password : Bytes} (hl : v.state = .locked) :
    Follows (v.unlock b.watched password) (v.unlock b password) [] (v.unlockPlan password) := by
  simp only [Volume.unlock_eq, Volume.require, if_pos hl, pure_bind]
  refine Follows.next (fun _ => ⟨rfl, rfl⟩) fun _ => ?_
  refine Follows.next (fun _ => ⟨rfl, rfl⟩) fun _ => ?_
  exact Follows.map (Follows.undoing mountFilesystem_follows)

/-- The calls that opening a locked volume makes, by a new format or by a
password, and the report of it. -/
theorem opening_follows_plan (hl : v.state = .locked) (password : Bytes) (s : σ) :
    (∀ t, ∃ missing trace,
      v.format b.watched password t ⟨s, []⟩ = after (v.format b password t s) trace ∧
        Course (v.formatPlan password t missing) [] trace (reported? (v.format b password t s))) ∧
    ∃ missing trace,
      v.unlock b.watched password ⟨s, []⟩ = after (v.unlock b password s) trace ∧
        Course (v.unlockPlan password missing) [] trace (reported? (v.unlock b password s)) := by
  constructor
  · intro t
    exact format_follows hl s []
  · exact unlock_follows hl s []

open Memory in
/-- A mount that fails, and a directory made for it that cannot be removed. -/
theorem opening_follows_plan_stuck :
    let w : Bench Disk := { sample.world with
      journal := (sample.world.journal.arm .mount (-5)).arm .removeDirectory (-39) }
    sample.volume.state = .locked ∧
      ∃ missing trace,
        sample.volume.format Bench.onDisk.watched [112] .ext4 ⟨w, []⟩ =
          after (sample.volume.format Bench.onDisk [112] .ext4 w) trace ∧
        Course (sample.volume.formatPlan [112] .ext4 missing) [] trace
          (some ⟨.internalFailure, "mount: mount returned -5", ["remove_directory returned -39"]⟩) := by
  intro w
  refine ⟨rfl, ?_⟩
  have hreport : reported? (sample.volume.format Bench.onDisk [112] .ext4 w) =
      some ⟨.internalFailure, "mount: mount returned -5", ["remove_directory returned -39"]⟩ := by
    decide +kernel
  rw [← hreport]
  exact (opening_follows_plan rfl [112] w).1 .ext4

end Volume

end EmmcVault
