import EmmcVault.Linux.Backends
import EmmcVault.Proofs.Triple

/-!
# What is asked of the system

Any host can be logged: the same host over a world that also keeps all that was
done with tools on it and every change to its files and mounts that was asked
for, in order. Requests to open files are not kept. A log tells the world
afterwards, and which tools were run.
-/

namespace EmmcVault.Linux

open Text

variable {ε σ η α β : Type}

inductive HostCall where
  | start (c : ToolCommand)
  | feed (input : Bytes)
  | wait
  | makeDirectory (path : Path)
  | removeDirectory (path : Path)
  | mount (c : MountCall)
  | unmount (path : Path)
  | readFile (path : Path)
  | createFile (path : Path) (permissions : Nat)
  | writeFile (path : Path) (contents : Bytes)
  | removeFile (path : Path)
  | openFile (path : Path) (mode : OpenMode)
  | openOrCreate (path : Path)
deriving DecidableEq, Repr

namespace HostCall

/-- What is written to a tool before anything else is asked for. -/
def fed? : List HostCall → Option Bytes
  | feed input :: _ => some input
  | _ => none

/-- The tools that were started, each with what was written to it. -/
def runs : List HostCall → List ToolRun
  | [] => []
  | start c :: later => ⟨c.program, c.args, fed? later⟩ :: runs later
  | _ :: later => runs later

/-- What a call makes of the world, whatever it answers. -/
def effect (h : Host σ η) : HostCall → σ → σ
  | start c => settled (h.start c)
  | feed input => settled (h.feed input)
  | wait => settled h.wait
  | makeDirectory path => settled (h.makeDirectory path)
  | removeDirectory path => settled (h.removeDirectory path)
  | mount c => settled (h.mount c)
  | unmount path => settled (h.unmount path)
  | readFile path => settled (h.readFile path)
  | createFile path permissions => settled (h.createFile path permissions)
  | writeFile path contents => settled (h.writeFile path contents)
  | removeFile path => settled (h.removeFile path)
  | openFile path mode => settled (h.openFile path mode)
  | openOrCreate path => settled (h.openOrCreate path)

theorem fed?_append_start {calls later : List HostCall} {c : ToolCommand} :
    fed? (calls ++ start c :: later) = fed? calls := by
  cases calls with
  | nil => rfl
  | cons first calls => cases first <;> rfl

/-- A start ends what was asked of the tools before. -/
theorem runs_append_start {calls later : List HostCall} {c : ToolCommand} :
    runs (calls ++ start c :: later) = runs calls ++ runs (start c :: later) := by
  induction calls with
  | nil => rfl
  | cons first calls ih =>
    cases first with
    | start d => simp only [List.cons_append, runs, ih, fed?_append_start]
    | _ => exact ih

end HostCall

/-- The world after some calls, from the first to the last. -/
def Host.replay (h : Host σ η) (w : σ) (calls : List HostCall) : σ :=
  calls.foldl (fun w c => c.effect h w) w

theorem Host.replay_append {h : Host σ η} {w : σ} {calls more : List HostCall} :
    h.replay w (calls ++ more) = h.replay (h.replay w calls) more :=
  List.foldl_append

/-- A world with what was asked of it. -/
structure Logged (σ : Type) where
  world : σ
  calls : List HostCall := []

namespace Logged

def runs (s : Logged σ) : List ToolRun := HostCall.runs s.calls

def log (c : HostCall) (call : EStateM ε σ α) : EStateM ε (Logged σ) α := fun s =>
  match call s.world with
  | .ok a world => .ok a ⟨world, s.calls ++ [c]⟩
  | .error e world => .error e ⟨world, s.calls ++ [c]⟩

/-- A request to an open file. -/
def onOpen (call : EStateM ε (σ × η) α) : EStateM ε (Logged σ × η) α := fun (s, file) =>
  match call (s.world, file) with
  | .ok a (world, file) => .ok a ({ s with world }, file)
  | .error e (world, file) => .error e ({ s with world }, file)

end Logged

open Logged

/-- The same host, logged. -/
def Host.logged (h : Host σ η) : Host (Logged σ) η where
  hasTool s tool := h.hasTool s.world tool
  start c := log (.start c) (h.start c)
  feed input := log (.feed input) (h.feed input)
  wait := log .wait h.wait
  pathExists s path := h.pathExists s.world path
  isDirectory s path := h.isDirectory s.world path
  makeDirectory path := log (.makeDirectory path) (h.makeDirectory path)
  removeDirectory path := log (.removeDirectory path) (h.removeDirectory path)
  mount c := log (.mount c) (h.mount c)
  unmount path := log (.unmount path) (h.unmount path)
  readFile path := log (.readFile path) (h.readFile path)
  temporaryPath s := h.temporaryPath s.world
  createFile path permissions := log (.createFile path permissions) (h.createFile path permissions)
  writeFile path contents := log (.writeFile path contents) (h.writeFile path contents)
  fileLength s path := h.fileLength s.world path
  removeFile path := log (.removeFile path) (h.removeFile path)
  openFile path mode := log (.openFile path mode) (h.openFile path mode)
  openOrCreate path := log (.openOrCreate path) (h.openOrCreate path)
  isRegular := fun (s, file) => h.isRegular (s.world, file)
  read length := onOpen (h.read length)
  write bytes := onOpen (h.write bytes)
  sync := onOpen h.sync
  length := onOpen h.length
  deviceSize := onOpen h.deviceSize
  cardCommand words data := onOpen (h.cardCommand words data)
  tryLock := onOpen h.tryLock
  close := fun (s, file) => { s with world := h.close (s.world, file) }

/-- A host on which nothing can be done. -/
def Host.closed (pathExists : σ → Path → Bool) : Host σ Unit where
  hasTool _ _ := true
  start _ := throw (.kernel .accessDenied)
  feed _ := throw (.kernel .badHandle)
  wait := throw (.kernel .noChild)
  pathExists
  isDirectory _ _ := false
  makeDirectory _ := throw (.kernel .accessDenied)
  removeDirectory _ := throw (.kernel .accessDenied)
  mount _ := throw .accessDenied
  unmount _ := throw .accessDenied
  readFile _ := throw (.kernel .accessDenied)
  temporaryPath _ := .ofString "/tmp/file"
  createFile _ _ := throw (.kernel .accessDenied)
  writeFile _ _ := throw (.kernel .accessDenied)
  fileLength _ _ := none
  removeFile _ := throw (.kernel .accessDenied)
  openFile _ _ := throw (.kernel .accessDenied)
  openOrCreate _ := throw (.kernel .accessDenied)
  isRegular _ := false
  read _ := throw (.kernel .badHandle)
  write _ := throw (.kernel .badHandle)
  sync := throw (.kernel .badHandle)
  length := throw (.kernel .badHandle)
  deviceSize := throw .badHandle
  cardCommand _ _ := throw .badHandle
  tryLock := throw (.kernel .badHandle)
  close := fun (s, _) => s

/-- A world in which a tool may have been started, and been given its input. -/
structure Attended (σ : Type) where
  world : σ
  tool : Option ToolRun := none

/-- A host on which tools run and nothing else can be done. What a tool does, it
does when it has all its input. -/
def Host.ofTools (pathExists : σ → Path → Bool) (run : ToolRun → SystemCall σ ToolOutput) :
    Host (Attended σ) Unit :=
  { Host.closed fun w p => pathExists w.world p with
    start c := fun w => .ok () { w with tool := some ⟨c.program, c.args, none⟩ }
    feed input := fun w => .ok () { w with tool := w.tool.map ({ · with input := some input }) }
    wait := fun w =>
      match w.tool with
      | none => .error (.kernel .noChild) w
      | some r =>
        match run r w.world with
        | .ok out world => .ok out { world }
        | .error e world => .error e { world } }

theorem Host.ofTools_run {pathExists : σ → Path → Bool}
    {run : ToolRun → SystemCall σ ToolOutput} {r : ToolRun} {w : Attended σ} {out : ToolOutput}
    {world : σ} (h : run r w.world = .ok out world) :
    (Host.ofTools pathExists run).run r w = .ok out { world } := by
  obtain ⟨program, args, input⟩ := r
  cases input <;>
    simp only [Host.run, feedInput, ofTools, bind, EStateM.bind, pure, EStateM.pure,
      ToolRun.command, Option.map_some, h]

-- ---------------------------------------------------------------------------
-- What a log says of the world
-- ---------------------------------------------------------------------------

/-- From `s` to `s'` the host was asked for these calls and for nothing else. -/
structure Logged.Grows (h : Host σ η) (s : Logged σ) (added : List HostCall) (s' : Logged σ) :
    Prop where
  calls : s'.calls = s.calls ++ added
  world : s'.world = h.replay s.world added

variable {h : Host σ η}

namespace Logged

theorem Grows.refl (s : Logged σ) : s.Grows h [] s := ⟨by simp, rfl⟩

theorem Grows.trans {s t u : Logged σ} {calls more : List HostCall} (h₁ : s.Grows h calls t)
    (h₂ : t.Grows h more u) : s.Grows h (calls ++ more) u where
  calls := by rw [h₂.calls, h₁.calls, List.append_assoc]
  world := by rw [h₂.world, h₁.world, Host.replay_append]

theorem log_triple {c : HostCall} {call : EStateM ε σ α} (hc : c.effect h = settled call)
    {s : Logged σ} {Q : α → σ → Prop} {E : ε → σ → Prop} (hq : Triple call s.world Q E) :
    Triple (log c call) s (fun a s' => s.Grows h [c] s' ∧ Q a s'.world)
      (fun e s' => s.Grows h [c] s' ∧ E e s'.world) := by
  have hworld : h.replay s.world [c] = settled call s.world := congrFun hc s.world
  unfold Triple at hq
  unfold Triple log
  cases hx : call s.world <;> simp only [settled, hx] at hworld hq <;>
    exact ⟨⟨rfl, hworld.symm⟩, hq⟩

theorem settled_log {c : HostCall} {call : EStateM ε σ α} {s : Logged σ} :
    settled (log c call) s = ⟨settled call s.world, s.calls ++ [c]⟩ := by
  unfold settled log
  cases call s.world <;> rfl

theorem settled_log_grows {c : HostCall} {call : EStateM ε σ α}
    (hc : c.effect h = settled call) (s : Logged σ) : s.Grows h [c] (settled (log c call) s) := by
  rw [settled_log]
  exact ⟨rfl, (congrFun hc s.world).symm⟩

end Logged

-- ---------------------------------------------------------------------------
-- Running tools
-- ---------------------------------------------------------------------------

/-- What a run to the end asks of the system. -/
def ToolRun.calls (r : ToolRun) : List HostCall :=
  .start r.command :: ((r.input.map HostCall.feed).toList ++ [.wait])

/-- What a run asks of the system: the tool is started, given its input and
waited for, up to the first of these that fails. -/
inductive ToolRun.Asks (h : Host σ η) (w : σ) (r : ToolRun) : List HostCall → Prop
  | unstarted {e w'} (hs : h.start r.command w = .error e w') : Asks h w r [.start r.command]
  | unfed {input e w₁ w₂} (hi : r.input = some input) (hs : h.start r.command w = .ok () w₁)
      (hf : h.feed input w₁ = .error e w₂) : Asks h w r [.start r.command, .feed input]
  | whole : Asks h w r r.calls

theorem HostCall.runs_append_calls {calls : List HostCall} {r : ToolRun} :
    runs (calls ++ r.calls) = runs calls ++ [r] := by
  obtain ⟨program, args, input⟩ := r
  rw [ToolRun.calls, runs_append_start]
  cases input <;> rfl

section
variable {s : Logged σ} {r : ToolRun} {P : ToolOutput → σ → Prop}

/-- A logged run ends as the run itself does. -/
theorem Host.run_logged : Triple (h.logged.run r) s
    (fun out s' => s.Grows h r.calls s' ∧ h.run r s.world = .ok out s'.world)
    (fun e s' => (∃ calls, r.Asks h s.world calls ∧ s.Grows h calls s') ∧
      h.run r s.world = .error e s'.world) := by
  obtain ⟨program, args, input⟩ := r
  unfold Host.run
  refine Triple.bind (Triple.mono (log_triple rfl Triple.self) (fun _ _ h => h) ?_) ?_
  · rintro e s₁ ⟨hg, hs⟩
    exact ⟨⟨_, .unstarted hs, hg⟩, by simp only [bind, EStateM.bind, hs]⟩
  rintro _ s₁ ⟨hg₁, hs⟩
  refine Triple.bind (R := fun _ s₂ => s.Grows h
    (.start (ToolRun.command ⟨program, args, input⟩) :: (input.map HostCall.feed).toList) s₂ ∧
      h.feedInput input s₁.world = .ok () s₂.world) ?_ ?_
  · cases input with
    | none => exact Triple.pure ⟨hg₁, rfl⟩
    | some input =>
      refine Triple.mono (log_triple rfl Triple.self) (fun _ _ h => ⟨hg₁.trans h.1, h.2⟩) ?_
      rintro e s₂ ⟨hg₂, hf⟩
      exact ⟨⟨_, .unfed rfl hs hf, hg₁.trans hg₂⟩,
        by simp only [feedInput, bind, EStateM.bind, hs, hf]⟩
  rintro _ s₂ ⟨hg₂, hf⟩
  refine Triple.mono (log_triple rfl Triple.self) ?_ ?_
  · rintro out s₃ ⟨hg₃, hw⟩
    exact ⟨hg₂.trans hg₃, by simp only [bind, EStateM.bind, hs, hf, hw]⟩
  · rintro e s₃ ⟨hg₃, hw⟩
    exact ⟨⟨_, .whole, hg₂.trans hg₃⟩, by simp only [bind, EStateM.bind, hs, hf, hw]⟩

theorem ToolReport.succeeded_ofOutput {out : ToolOutput} (h : out.code = some 0) :
    (ToolReport.ofOutput out).succeeded = true := by
  simp [ToolReport.succeeded, ToolReport.ofOutput, h]

/-- The tool ends, and with this output. -/
def Host.Runs (h : Host σ η) (r : ToolRun) (w : σ) (P : ToolOutput → σ → Prop) : Prop :=
  ∃ out w', h.run r w = .ok out w' ∧ P out w'

theorem Host.Runs.report (hrun : h.Runs r s.world P) :
    Triple (h.logged.report r) s
      (fun report s' => ∃ out, report = .ofOutput out ∧ P out s'.world ∧
        s'.runs = s.runs ++ [r]) (fun _ _ => False) := by
  obtain ⟨out, w', hok, hp⟩ := hrun
  refine Triple.bind (R := fun a s' => a = out ∧ s'.world = w' ∧ s.Grows h r.calls s')
    (Triple.adaptExcept (Triple.mono run_logged ?_ ?_)) ?_
  · rintro printed s' ⟨hg, hrun⟩
    cases hok.symm.trans hrun
    exact ⟨rfl, rfl, hg⟩
  · rintro e s' ⟨-, hrun⟩
    cases hok.symm.trans hrun
  · rintro printed s' ⟨rfl, rfl, hg⟩
    refine Triple.pure ⟨printed, rfl, hp, ?_⟩
    rw [runs, hg.calls, HostCall.runs_append_calls, runs]

theorem Host.Runs.checked (hrun : h.Runs r s.world fun out w => out.code = some 0 ∧ P out w) :
    Triple (h.logged.runChecked r) s
      (fun report s' => ∃ out, report = .ofOutput out ∧ P out s'.world ∧
        s'.runs = s.runs ++ [r]) (fun _ _ => False) := by
  refine Triple.bind hrun.report ?_
  rintro _ s' ⟨out, rfl, ⟨hcode, hp⟩, hruns⟩
  simp only [ToolReport.succeeded_ofOutput hcode]
  exact Triple.pure ⟨out, rfl, hp, hruns⟩

end

theorem Session.onWorld_triple {call : EStateM ε σ α} {s : Session σ} {Q : α → Session σ → Prop}
    {E : ε → Session σ → Prop}
    (h : Triple call s.world (fun a world => Q a { s with world })
      (fun e world => E e { s with world })) : Triple (Session.onWorld call) s Q E := by
  unfold Triple at h
  unfold Triple Session.onWorld
  cases hc : call s.world <;> simp only [hc] at h ⊢ <;> exact h

end EmmcVault.Linux
