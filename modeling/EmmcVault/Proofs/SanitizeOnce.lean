import EmmcVault.Proofs.RawDevice
import EmmcVault.Proofs.WriteOrder

/-!
# A sanitize is started once

The command that wipes the card stands behind the opening of the device, the
register, the length and the plan made of both. It is sent once if all of them
went well and not at all otherwise, and what it answers ends the erase. A disk
in memory keeps its data whenever the erase fails.
-/

namespace EmmcVault

open Memory Transcribed

variable {σ η : Type}

-- ---------------------------------------------------------------------------
-- What a transcript tells of a sanitize
-- ---------------------------------------------------------------------------

/-- The request for the register, with an empty buffer of its size. -/
def DeviceRequest.fetch : DeviceRequest :=
  .command .sendExtCsd ⟨Array.replicate Mmc.Command.sendExtCsd.dataLength 0⟩

namespace Line

/-- The opening of a device with its answer. -/
def opening? : Line → Option (Path × OpenMode × Except BackendError Unit)
  | ⟨.openHandle path mode, answer⟩ => some (path, mode, answer)
  | _ => none

/-- The answer to a request for the register. -/
def fetch? : Line → Option (Except BackendError ByteArray)
  | ⟨.request (.command c _), answer⟩ =>
    if c.opcode = Mmc.Command.sendExtCsdOpcode then some answer else none
  | _ => none

/-- The answer to a request for the size. -/
def size? : Line → Option (Except BackendError UInt64)
  | ⟨.request .size, answer⟩ => some answer
  | _ => none

/-- A switch with its answer. -/
def switch? : Line → Option (Mmc.Command × Except BackendError ByteArray)
  | ⟨.request (.command c _), answer⟩ =>
    if c.opcode = Mmc.Command.switchOpcode then some (c, answer) else none
  | _ => none

end Line

namespace SanitizeErase

/-- The register came with the request, or the card was asked for it and gave it. -/
def Knows (given : Option Mmc.ExtCsd) (lines : List Line) (register : Mmc.ExtCsd) : Prop :=
  given = some register ∨ given = none ∧ ∃ image, lines.filterMap Line.fetch? = [.ok image] ∧
    Mmc.ExtCsd.ofBytes? image = some register

/-- The count came with the request, or the device was asked for its size and gave it. -/
def Measures (bytes : Option UInt64) (lines : List Line) (expected : UInt64) : Prop :=
  bytes = some expected ∨ bytes = none ∧ lines.filterMap Line.size? = [.ok expected]

/-- All that has to go well before the card may be wiped. -/
structure Cleared (device : Path) (bytes : Option UInt64) (given : Option Mmc.ExtCsd)
    (lines : List Line) (expected : UInt64) (plan : SanitizePlan) : Prop where
  opened : lines.filterMap Line.opening? = [(device, .readWrite, .ok ())]
  measured : Measures bytes lines expected
  planned : ∃ register, Knows given lines register ∧
    SanitizePlan.ofRegister register expected = .ok plan

/-- The register came with the request, or these lines fetched it. -/
inductive Fetched : Option Mmc.ExtCsd → List Line → Mmc.ExtCsd → Prop
  | given {register} : Fetched (some register) [] register
  | read {image register} : Mmc.ExtCsd.ofBytes? image = some register →
      Fetched none [⟨.request .fetch, .ok image⟩] register

/-- The lines of checks that went well. -/
def checks (device : Path) (fetched : List Line) (bytes : Option UInt64) (expected : UInt64) :
    List Line :=
  ⟨.openHandle device .readWrite, .ok ()⟩ :: fetched ++ measuring bytes expected

/-- The transcripts of a sanitize and what it gives. -/
inductive Course (device : Path) (bytes : Option UInt64) (given : Option Mmc.ExtCsd) :
    List Line → Except Fault EraseReport → Prop
  | refused (cause) :
      Course device bytes given [⟨.openHandle device .readWrite, .error cause⟩]
        (.error (.opening cause))
  | unread (cause) (absent : given = none) :
      Course device bytes given
        [⟨.openHandle device .readWrite, .ok ()⟩, ⟨.request .fetch, .error cause⟩,
          ⟨.close, .ok ()⟩]
        (.error (.internal .readRegister cause))
  | malformed (cause) {image} (absent : given = none)
      (refused : Mmc.ExtCsd.ofBytes? image = none) :
      Course device bytes given
        [⟨.openHandle device .readWrite, .ok ()⟩, ⟨.request .fetch, .ok image⟩, ⟨.close, .ok ()⟩]
        (.error (.internal .readRegister cause))
  | unmeasured (cause) {fetched register} (known : Fetched given fetched register)
      (whole : bytes = none) :
      Course device bytes given
        (⟨.openHandle device .readWrite, .ok ()⟩ :: fetched ++
          [⟨.request .size, .error cause⟩, ⟨.close, .ok ()⟩])
        (.error (.internal .querySize cause))
  | unplanned {fetched register expected f} (known : Fetched given fetched register)
      (asked : bytes.getD expected = expected)
      (refused : SanitizePlan.ofRegister register expected = .error f) :
      Course device bytes given
        (checks device fetched bytes expected ++ [⟨.close, .ok ()⟩]) (.error f)
  | started {fetched register expected plan} (answer) (known : Fetched given fetched register)
      (asked : bytes.getD expected = expected)
      (planned : SanitizePlan.ofRegister register expected = .ok plan) :
      Course device bytes given
        (checks device fetched bytes expected ++
          [⟨.request (.command (.startSanitize plan.timeoutMs) .empty), answer⟩,
            ⟨.close, .ok ()⟩])
        ((answer.mapError (Fault.internal .sanitize)).map fun _ => ⟨.sanitize, expected⟩)

-- ---------------------------------------------------------------------------
-- A sanitize runs such a course
-- ---------------------------------------------------------------------------

section
variable {b : Backends σ η} {v : Volume} {bytes : Option UInt64} {given : Option Mmc.ExtCsd}

theorem run_transcribes :
    Transcribes Transcribed.mk (run (v.eraseTarget b.transcribed) bytes given)
      (run (v.eraseTarget b) bytes given) []
      (fun report lines => Course v.identity.device bytes given lines (.ok report))
      (fun f lines => Course v.identity.device bytes given lines (.error f)) := by
  refine Transcribes.withHandle (fun cause => .refused cause) ?_
  refine Transcribes.bind (R := fun register lines => ∃ fetched, Fetched given fetched register ∧
    lines = ⟨.openHandle v.identity.device .readWrite, .ok ()⟩ :: fetched) ?_ ?_
  · cases given with
    | some register => exact Transcribes.pure ⟨[], .given, rfl⟩
    | none =>
      refine Transcribes.orFault (Transcribes.bind (R := fun image lines => lines =
        [⟨.openHandle v.identity.device .readWrite, .ok ()⟩, ⟨.request .fetch, .ok image⟩])
        (Transcribes.takeOpen (fun _ _ _ _ => rfl) fun cause => .unread cause rfl) ?_)
      rintro image _ rfl
      cases hread : Mmc.ExtCsd.ofBytes? image with
      | some register => exact Transcribes.pure ⟨_, .read hread, rfl⟩
      | none => exact Transcribes.throw (.malformed _ rfl hread)
  rintro register _ ⟨fetched, known, rfl⟩
  refine Transcribes.bind (R := fun expected lines => bytes.getD expected = expected ∧ lines =
    checks v.identity.device fetched bytes expected) ?_ ?_
  · cases bytes with
    | some n => exact Transcribes.pure ⟨rfl, (List.append_nil _).symm⟩
    | none =>
      refine Transcribes.orFault (Transcribes.takeOpen (fun _ _ _ _ => ⟨rfl, rfl⟩) fun cause => ?_)
      rw [List.append_assoc]
      exact .unmeasured cause known rfl
  rintro expected _ ⟨asked, rfl⟩
  cases hplan : SanitizePlan.ofRegister register expected with
  | error f => exact Transcribes.throw (.unplanned known asked hplan)
  | ok plan =>
    refine Transcribes.bind (R := fun p lines => p = plan ∧ lines =
      checks v.identity.device fetched bytes expected) (Transcribes.pure ⟨rfl, rfl⟩) ?_
    rintro plan _ ⟨rfl, rfl⟩
    refine Transcribes.bind (R := fun image lines => lines =
      checks v.identity.device fetched bytes expected ++
        [⟨.request (.command (.startSanitize plan.timeoutMs) .empty), .ok image⟩])
      (Transcribes.orFault (Transcribes.takeOpen (fun _ _ _ _ => rfl) fun cause => ?_)) ?_
    · rw [List.append_assoc]
      exact .started (.error cause) known asked hplan
    · rintro image _ rfl
      refine Transcribes.pure ?_
      rw [List.append_assoc]
      exact .started (.ok image) known asked hplan

end

-- ---------------------------------------------------------------------------
-- What a course tells
-- ---------------------------------------------------------------------------

section
variable {device : Path} {bytes : Option UInt64} {given : Option Mmc.ExtCsd} {fetched : List Line}
  {register : Mmc.ExtCsd} {expected : UInt64} {plan : SanitizePlan} {lines rest : List Line}
  {r : Except Fault EraseReport}

theorem checks_opening (known : Fetched given fetched register) :
    (checks device fetched bytes expected).filterMap Line.opening? =
      [(device, .readWrite, .ok ())] := by
  cases known <;> cases bytes <;> rfl

theorem checks_switch (known : Fetched given fetched register) :
    (checks device fetched bytes expected).filterMap Line.switch? = [] := by
  cases known <;> cases bytes <;> rfl

theorem knows_iff {r : Mmc.ExtCsd} (known : Fetched given fetched register)
    (silent : rest.filterMap Line.fetch? = []) :
    Knows given (checks device fetched bytes expected ++ rest) r ↔ r = register := by
  have hfetched : (checks device fetched bytes expected).filterMap Line.fetch? =
      fetched.filterMap Line.fetch? := by
    cases known <;> cases bytes <;> rfl
  rw [Knows, List.filterMap_append, silent, List.append_nil, hfetched]
  cases known with
  | given => simp [eq_comm]
  | @read image _ hread =>
    constructor
    · rintro (h | ⟨-, image', himage, hread'⟩)
      · cases h
      · cases himage
        exact Option.some.inj (hread'.symm.trans hread)
    · rintro rfl
      exact .inr ⟨rfl, image, rfl, hread⟩

theorem measures_iff {n : UInt64} (known : Fetched given fetched register)
    (asked : bytes.getD expected = expected) (silent : rest.filterMap Line.size? = []) :
    Measures bytes (checks device fetched bytes expected ++ rest) n ↔ n = expected := by
  have hsize : (checks device fetched bytes expected).filterMap Line.size? =
      (measuring bytes expected).filterMap Line.size? := by
    cases known <;> rfl
  rw [Measures, List.filterMap_append, silent, List.append_nil, hsize]
  cases bytes with
  | some m =>
    obtain rfl : m = expected := asked
    simp [eq_comm]
  | none =>
    have hanswer : (measuring none expected).filterMap Line.size? = [.ok expected] := rfl
    simp [hanswer, eq_comm]

/-- After the checks, the erase is cleared for the plan of what they gave. -/
theorem cleared_iff {n : UInt64} (known : Fetched given fetched register)
    (asked : bytes.getD expected = expected)
    (hopening : rest.filterMap Line.opening? = [])
    (hfetch : rest.filterMap Line.fetch? = []) (hsize : rest.filterMap Line.size? = []) :
    Cleared device bytes given (checks device fetched bytes expected ++ rest) n plan ↔
      n = expected ∧ SanitizePlan.ofRegister register expected = .ok plan := by
  constructor
  · rintro ⟨-, hn, r, hr, hplan⟩
    obtain rfl := (measures_iff known asked hsize).mp hn
    obtain rfl := (knows_iff known hfetch).mp hr
    exact ⟨rfl, hplan⟩
  · rintro ⟨rfl, hplan⟩
    refine ⟨?_, (measures_iff known asked hsize).mpr rfl, register,
      (knows_iff known hfetch).mpr rfl, hplan⟩
    rw [List.filterMap_append, hopening, checks_opening known, List.append_nil]

/-- Cleared, the command of the plan is sent once and its answer ends the erase. -/
theorem Course.started_of_cleared (h : Course device bytes given lines r)
    (cleared : Cleared device bytes given lines expected plan) :
    ∃ answer, lines.filterMap Line.switch? = [(.startSanitize plan.timeoutMs, answer)] ∧
      r = (answer.mapError (Fault.internal .sanitize)).map fun _ => ⟨.sanitize, expected⟩ := by
  cases h with
  | refused cause => cases cleared.opened
  | unread cause absent =>
    obtain ⟨register, hgiven | ⟨-, image, himage, -⟩, -⟩ := cleared.planned
    · cases hgiven.symm.trans absent
    · cases himage
  | malformed cause absent refused =>
    obtain ⟨register, hgiven | ⟨-, image, himage, hread⟩, -⟩ := cleared.planned
    · cases hgiven.symm.trans absent
    · cases himage
      cases hread.symm.trans refused
  | unmeasured cause known whole =>
    obtain hgiven | ⟨-, hsize⟩ := cleared.measured
    · cases hgiven.symm.trans whole
    · cases known <;> cases hsize
  | unplanned known asked refused =>
    obtain ⟨-, hplan⟩ := (cleared_iff known asked rfl rfl rfl).mp cleared
    cases hplan.symm.trans refused
  | started answer known asked planned =>
    obtain ⟨rfl, hplan⟩ := (cleared_iff known asked rfl rfl rfl).mp cleared
    cases hplan.symm.trans planned
    refine ⟨answer, ?_, rfl⟩
    rw [List.filterMap_append, checks_switch known]
    rfl

/-- Not cleared, the erase fails and switches nothing. -/
theorem Course.unstarted (h : Course device bytes given lines r)
    (uncleared : ¬ ∃ expected plan, Cleared device bytes given lines expected plan) :
    lines.filterMap Line.switch? = [] ∧ ∃ f, r = .error f := by
  cases h with
  | refused cause => exact ⟨rfl, _, rfl⟩
  | unread cause absent => exact ⟨rfl, _, rfl⟩
  | malformed cause absent refused => exact ⟨rfl, _, rfl⟩
  | unmeasured cause known whole =>
    refine ⟨?_, _, rfl⟩
    cases known <;> rfl
  | unplanned known asked refused =>
    refine ⟨?_, _, rfl⟩
    rw [List.filterMap_append, checks_switch known]
    rfl
  | started answer known asked planned =>
    exact absurd ⟨_, _, (cleared_iff known asked rfl rfl rfl).mpr ⟨rfl, planned⟩⟩ uncleared

/-- The card is asked for its register once, and only if the request brings none. -/
def FetchesOnce (device : Path) (given : Option Mmc.ExtCsd) (lines : List Line) : Prop :=
  (lines.filterMap Line.fetch?).length ≤ 1 ∧ (lines.filterMap Line.fetch? ≠ [] ↔
    given = none ∧ lines.filterMap Line.opening? = [(device, .readWrite, .ok ())])

theorem Fetched.fetchesOnce (known : Fetched given fetched register)
    (hopening : rest.filterMap Line.opening? = []) (hfetch : rest.filterMap Line.fetch? = []) :
    FetchesOnce device given (⟨.openHandle device .readWrite, .ok ()⟩ :: fetched ++ rest) := by
  unfold FetchesOnce
  rw [List.filterMap_append, List.filterMap_append, hopening, hfetch, List.append_nil,
    List.append_nil]
  cases known with
  | given => exact ⟨Nat.zero_le _, fun h => absurd rfl h, nofun⟩
  | read => exact ⟨Nat.le_refl _, fun _ => ⟨rfl, rfl⟩, fun _ => nofun⟩

theorem Course.fetchesOnce (h : Course device bytes given lines r) :
    FetchesOnce device given lines := by
  cases h with
  | refused cause => exact ⟨Nat.zero_le _, nofun, nofun⟩
  | unread cause absent => exact ⟨Nat.le_refl _, fun _ => ⟨absent, rfl⟩, fun _ => nofun⟩
  | malformed cause absent refused =>
    exact ⟨Nat.le_refl _, fun _ => ⟨absent, rfl⟩, fun _ => nofun⟩
  | unmeasured cause known whole => exact known.fetchesOnce rfl rfl
  | unplanned known asked refused =>
    rw [checks, List.append_assoc]
    cases bytes <;> exact known.fetchesOnce rfl rfl
  | started answer known asked planned =>
    rw [checks, List.append_assoc]
    cases bytes <;> exact known.fetchesOnce rfl rfl

end

-- ---------------------------------------------------------------------------
-- A disk in memory
-- ---------------------------------------------------------------------------

/-- A sanitize that fails leaves the data of the disk as they are. -/
theorem run_onDisk {v : Volume} {bytes : Option UInt64} {given : Option Mmc.ExtCsd}
    {w : Bench Disk} :
    Triple (run (v.eraseTarget Bench.onDisk) bytes given) w (fun _ _ => True)
      (fun _ w' => w'.device.data = w.device.data) := by
  have hbrackets : (Bench.devices Disk.devices).Brackets v.identity.device .readWrite w
      (fun u => u.1.device.data = w.device.data) (fun w' => w'.device.data = w.device.data) :=
    Bench.brackets_device (Disk.brackets (P := fun data _ => data = w.device.data) rfl)
  have hlooks : ∀ {q : DeviceRequest}, q.Looks → q.Respects (Bench.devices Disk.devices)
      fun u => u.1.device.data = w.device.data := fun hq =>
    Bench.respects_device (Disk.looks_respects (P := fun data _ => data = w.device.data) hq)
  refine Triple.withHandle (J := fun u => u.1.device.data = w.device.data) hbrackets.opening
    fun u hu => ?_
  refine Triple.bind (R := fun _ u => u.1.device.data = w.device.data) ?_ fun register u hu => ?_
  · cases given with
    | some register => exact Triple.pure hu
    | none => exact Triple.orFault (Triple.mono (BlockDevices.readExtCsd_keeps
        (fun data => hlooks (q := .command .sendExtCsd data) rfl) u hu) (fun _ _ h => h)
        fun _ _ h => h.1)
  refine Triple.bind (R := fun _ u => u.1.device.data = w.device.data) ?_ fun expected u hu => ?_
  · exact Triple.mono (EraseTarget.length_keeps (fun _ => hlooks (q := .size) trivial) u hu)
      (fun _ _ h => h) fun _ _ h => h.1
  cases SanitizePlan.ofRegister register expected with
  | error f => exact Triple.throw hu
  | ok plan =>
    refine Triple.bind (R := fun _ u => u.1.device.data = w.device.data) (Triple.pure hu)
      fun plan u hu => ?_
    refine Triple.bind (R := fun _ _ => True) (Triple.orFault (Bench.onDevice_triple
      (Triple.mono (Disk.switch_triple (by decide : Mmc.Command.switchOpcode ≠ _)
        Mmc.Command.switchIndex?_startSanitize Mmc.Command.switchValue?_startSanitize)
        (fun _ _ _ => trivial) ?_))) fun _ _ _ => Triple.pure trivial
    rintro cause _ rfl
    exact hu

/-- Whatever the request brings along and the device answers, the card is told to
wipe itself exactly if the device was opened, the register and the length are
known and they make a plan. It is told once, with the time of this plan, by
writing one to octet 165 of the register; then the erase ends as the command
did. Otherwise no command switches anything and the erase fails. The register is
read, once, exactly if the request brings none and the device is open. A disk in
memory keeps its data if the erase fails. -/
theorem starts_once_cleared (v : Volume) (bytes : Option UInt64) (given : Option Mmc.ExtCsd) :
    (∀ {σ η : Type} (b : Backends σ η) (s : σ),
      ∃ lines, run (v.eraseTarget b.transcribed) bytes given ⟨s, []⟩ =
          ending Transcribed.mk (run (v.eraseTarget b) bytes given s) lines ∧
        Course v.identity.device bytes given lines (outcome (run (v.eraseTarget b) bytes given s)) ∧
        ((∃ c answer, lines.filterMap Line.switch? = [(c, answer)]) ↔
          ∃ expected plan, Cleared v.identity.device bytes given lines expected plan) ∧
        (∀ expected plan, Cleared v.identity.device bytes given lines expected plan →
          ∃ answer, lines.filterMap Line.switch? = [(.startSanitize plan.timeoutMs, answer)] ∧
            outcome (run (v.eraseTarget b) bytes given s) =
              (answer.mapError (Fault.internal .sanitize)).map fun _ => ⟨.sanitize, expected⟩) ∧
        ((¬ ∃ expected plan, Cleared v.identity.device bytes given lines expected plan) →
          lines.filterMap Line.switch? = [] ∧
            ∃ f, outcome (run (v.eraseTarget b) bytes given s) = .error f) ∧
        FetchesOnce v.identity.device given lines) ∧
    (∀ timeout, (Mmc.Command.startSanitize timeout).switchIndex? = some 165 ∧
      (Mmc.Command.startSanitize timeout).switchValue? = some 1 ∧
      (Mmc.Command.startSanitize timeout).timeoutMs = timeout) ∧
    ∀ (w : Bench Disk) f w', run (v.eraseTarget Bench.onDisk) bytes given w = .error f w' →
      w'.device.data = w.device.data := by
  refine ⟨fun {σ η} b s => ?_, fun timeout => ?_, fun w f w' hrun => run_onDisk.error hrun⟩
  · obtain ⟨lines, hrun, hcourse⟩ := (run_transcribes (b := b)).runs s
    refine ⟨lines, hrun, hcourse, ⟨?_, ?_⟩, fun _ _ => hcourse.started_of_cleared,
      hcourse.unstarted, hcourse.fetchesOnce⟩
    · rintro ⟨c, answer, hsent⟩
      refine Classical.byContradiction fun huncleared => ?_
      rw [(hcourse.unstarted huncleared).1] at hsent
      cases hsent
    · rintro ⟨expected, plan, hcleared⟩
      obtain ⟨answer, hsent, -⟩ := hcourse.started_of_cleared hcleared
      exact ⟨_, answer, hsent⟩
  · exact ⟨Mmc.Command.switchIndex?_startSanitize, Mmc.Command.switchValue?_startSanitize, rfl⟩

end SanitizeErase

end EmmcVault
