import EmmcVault.Proofs.Secrecy

/-!
# How a passphrase reaches its tool

A passphrase is what is written to the standard input of one run, or all that a
key file holds while one run can read it; no other call of the system is given
it. The arguments of the run are fixed before the passphrase is. However a call
ends, it leaves no key file behind that the system lets it remove.
-/

namespace EmmcVault.Linux

open Text

variable {ε σ τ η α β : Type}

variable {h : Host σ η}

/-- Made at `t` the call asks what this run asks of the system, and to the end
where it succeeds; the log is where `log` says. For the obstacle alone it fails
without asking anything. -/
def Logged.FeedsFrom (h : Host σ η) (log : τ → Logged σ) (obstacle : Prop) (r : ToolRun) (t : τ)
    (x : EStateM ε τ α) : Prop :=
  Triple x t (fun _ t' => (log t).Grows h r.calls (log t'))
    (fun _ t' => obstacle ∧ (log t).Grows h [] (log t') ∨
      ∃ calls, r.Asks h (log t).world calls ∧ (log t).Grows h calls (log t'))

/-- The call does so whenever it is made. -/
def Logged.FeedsUnless (h : Host σ η) (log : τ → Logged σ) (obstacle : Prop) (r : ToolRun)
    (x : EStateM ε τ α) : Prop :=
  ∀ t, FeedsFrom h log obstacle r t x

open Logged

/-- A run that must succeed asks no more than a run. -/
theorem Host.runChecked_triple {r : ToolRun} {s : Logged σ} :
    Triple (h.logged.runChecked r) s (fun _ => s.Grows h r.calls)
      (fun _ s' => ∃ calls, r.Asks h s.world calls ∧ s.Grows h calls s') := by
  unfold Host.runChecked Host.report
  refine Triple.bind (R := fun _ => s.Grows h r.calls) ?_ fun report s' hs => ?_
  · exact Triple.bind (Triple.adaptExcept (Triple.mono run_logged (fun _ _ h => h.1)
      fun _ _ h => h.1)) fun _ _ hs => Triple.pure hs
  · split
    · exact Triple.pure hs
    · exact Triple.throw ⟨_, .whole, hs⟩

theorem pathArg_ends {s : σ} {p : Path} :
    Triple (Cryptsetup.pathArg p) s (fun arg s' => arg = p.octets ∧ s' = s)
      (fun _ s' => p.text? = none ∧ s' = s) := by
  unfold Cryptsetup.pathArg
  split
  · exact Triple.pure ⟨rfl, rfl⟩
  · exact Triple.throw ⟨Option.not_isSome_iff_eq_none.mp ‹_›, rfl⟩

theorem pathArg_feeds {p : Path} {r : ToolRun} {f : Bytes → SystemTask (Logged σ) α}
    (hf : ∀ s : Logged σ, Triple (f p.octets) s (fun _ => s.Grows h r.calls)
      (fun _ s' => ∃ calls, r.Asks h s.world calls ∧ s.Grows h calls s')) :
    FeedsUnless h id (p.text? = none) r (Cryptsetup.pathArg p >>= f) := by
  intro s
  refine Triple.bind (Triple.mono pathArg_ends (fun _ _ h => h) ?_) ?_
  · rintro _ _ ⟨hp, rfl⟩
    exact .inl ⟨hp, .refl _⟩
  · rintro _ _ ⟨rfl, rfl⟩
    exact Triple.mono (hf _) (fun _ _ h => h) fun _ _ h => .inr h

-- ---------------------------------------------------------------------------
-- Standard input
-- ---------------------------------------------------------------------------

namespace Cryptsetup

variable (h) (program : String) (device : Path)

theorem writeHeader_feeds (params : EncryptionParams) : ∃ args, ∀ passphrase,
    FeedsUnless h id (device.text? = none) ⟨program, args, some passphrase⟩
      (writeHeader h.logged program device params passphrase) := by
  refine ⟨["luksFormat", "--batch-mode", "--type", params.version.name, "--cipher",
    params.cipherSpec, "--key-size", toString params.keySizeBits, "--key-slot", "0",
    "--key-file", "-"].map Utf8.encode ++ [device.octets], fun passphrase => ?_⟩
  exact pathArg_feeds fun _ => Triple.bind Host.runChecked_triple fun _ _ hg => Triple.pure hg

theorem activate_feeds (name : String) : ∃ args, ∀ passphrase,
    FeedsUnless h id (device.text? = none) ⟨program, args, some passphrase⟩
      (activate h.logged program device name passphrase) := by
  refine ⟨["open", "--verbose", "--type", "luks", "--key-file", "-"].map Utf8.encode ++
    [device.octets, Utf8.encode name], fun passphrase => ?_⟩
  exact pathArg_feeds fun _ => Triple.bind Host.runChecked_triple fun _ _ hg => Triple.pure hg

end Cryptsetup

-- ---------------------------------------------------------------------------
-- Key files
-- ---------------------------------------------------------------------------

/-- What is relied on of the system's files; `file?` gives the permissions and
the contents of a file that is there. -/
structure Host.FileLaws (h : Host σ η) (file? : σ → Path → Option (Nat × Bytes)) : Prop where
  /-- Random names are not in use. -/
  fresh : ∀ w, file? w (h.temporaryPath w) = none
  created : ∀ w path permissions, Triple (h.createFile path permissions) w
    (fun _ w' => file? w' path = some (permissions, []))
    (fun _ w' => file? w' path = file? w path)
  written : ∀ w path permissions old contents, file? w path = some (permissions, old) →
    Triple (h.writeFile path contents) w
      (fun _ w' => file? w' path = some (permissions, contents)) (fun _ _ => True)
  removed : ∀ w path, Triple (h.removeFile path) w (fun _ w' => file? w' path = none)
    (fun _ _ => True)

def keyMade (key : Path) (secret : Bytes) : List HostCall :=
  [.createFile key Host.ownerOnly, .writeFile key secret]

/-- A key file is overwritten with zeros if it is still there. -/
inductive Scrub (key : Path) : List HostCall → Prop
  | nothing : Scrub key []
  | zeros {n} : Scrub key [.writeFile key (List.replicate n 0)]

/-- The calls that hand a secret to a run by a key file. A run finds the secret
in the file, which is then its owner's alone. It is not reached only if the file
cannot be made or named or written, or if the obstacle is met before. -/
inductive ThroughFile (h : Host σ η) (file? : σ → Path → Option (Nat × Bytes)) (w : σ) (key : Path)
    (secret : Bytes) (r : ToolRun) (obstacle : Prop) : List HostCall → Prop
  | nothing (ho : obstacle) : ThroughFile h file? w key secret r obstacle []
  | refused {e w'} (hc : h.createFile key Host.ownerOnly w = .error e w') :
      ThroughFile h file? w key secret r obstacle [.createFile key Host.ownerOnly]
  | unwritten {e w₁ w₂ scrub} (hc : h.createFile key Host.ownerOnly w = .ok () w₁)
      (hw : h.writeFile key secret w₁ = .error e w₂) (hs : Scrub key scrub) :
      ThroughFile h file? w key secret r obstacle
        (keyMade key secret ++ (scrub ++ [.removeFile key]))
  | unnamed {scrub} (ht : key.text? = none) (hs : Scrub key scrub) :
      ThroughFile h file? w key secret r obstacle
        (keyMade key secret ++ (scrub ++ [.removeFile key]))
  | used {asked scrub} (hs : Scrub key scrub)
      (hfile : file? (h.replay w (keyMade key secret)) key = some (Host.ownerOnly, secret))
      (hr : r.Asks h (h.replay w (keyMade key secret)) asked) :
      ThroughFile h file? w key secret r obstacle
        (keyMade key secret ++ asked ++ (scrub ++ [.removeFile key]))

/-- After some calls from `w` on the key file is gone, unless the last of them
was its removal and the system refused that. -/
inductive KeyGone (h : Host σ η) (file? : σ → Path → Option (Nat × Bytes)) (w : σ) (key : Path)
    (calls : List HostCall) (w' : σ) : Prop
  | gone (hf : file? w' key = none)
  | kept {before e} (hc : calls = before ++ [.removeFile key])
      (hr : h.removeFile key (h.replay w before) = .error e w')

/-- From `s` to `s'` the secret was handed to a run, and the key file is gone.
The run knows the file by its path. -/
structure Logged.Hands (h : Host σ η) (file? : σ → Path → Option (Nat × Bytes)) (s : Logged σ)
    (secret : Bytes) (r : Path → ToolRun) (obstacle : Prop) (calls : List HostCall)
    (s' : Logged σ) : Prop where
  grows : s.Grows h calls s'
  through : ThroughFile h file? s.world (h.temporaryPath s.world) secret
    (r (h.temporaryPath s.world)) obstacle calls
  gone : KeyGone h file? s.world (h.temporaryPath s.world) calls s'.world

/-- The call hands the secret to a run by a key file. Where it succeeds the run
came to its end. -/
def HandsOver (h : Host σ η) (file? : σ → Path → Option (Nat × Bytes)) (log : τ → Logged σ)
    (obstacle : Prop) (secret : Bytes) (r : Path → ToolRun) (x : EStateM ε τ α) : Prop :=
  ∀ t, Triple x t
    (fun _ t' => ∃ calls, (r (h.temporaryPath (log t).world)).calls <:+: calls ∧
      (log t).Hands h file? secret r obstacle calls (log t'))
    (fun _ t' => ∃ calls, (log t).Hands h file? secret r obstacle calls (log t'))

theorem Host.withSecret_triple {h : Host σ η} {s : σ} {secret : Bytes}
    {body : Path → SystemTask σ α} {Q : α → σ → Prop} {E : SystemError → σ → Prop}
    (hc : Triple (h.createFile (h.temporaryPath s) ownerOnly) s
      (fun _ t => Triple (do
          (h.writeFile (h.temporaryPath s) secret).adaptExcept SystemError.io
          body (h.temporaryPath s)) t
        (fun a u => Q a (h.shred (h.temporaryPath s) u))
        (fun e u => E e (h.shred (h.temporaryPath s) u)))
      (fun e t => E (.io e) t)) :
    Triple (h.withSecret secret body) s Q E := by
  unfold Triple Host.withSecret
  obtain ⟨_, t, hx, ht⟩ | ⟨e, t, hx, ht⟩ := hc.cases
  · obtain ⟨a, u, hy, hu⟩ | ⟨e, u, hy, hu⟩ := ht.cases <;> simp only [hx, hy] <;> exact hu
  · simp only [hx]
    exact ht

section
variable {file? : σ → Path → Option (Nat × Bytes)} {s t : Logged σ} {secret : Bytes}
  {r : Path → ToolRun} {obstacle : Prop}

variable (hf : h.FileLaws file?)
include hf

/-- Of a key file nothing is left but what the system refuses to remove. -/
theorem Host.FileLaws.shred (key : Path) (s : Logged σ) :
    ∃ scrub, Scrub key scrub ∧ s.Grows h (scrub ++ [.removeFile key]) (h.logged.shred key s) ∧
      KeyGone h file? s.world key (scrub ++ [.removeFile key]) (h.logged.shred key s).world := by
  have removing (t : Logged σ) {scrub} (ht : s.Grows h scrub t) :
      s.Grows h (scrub ++ [.removeFile key]) (settled (h.logged.removeFile key) t) ∧
        KeyGone h file? s.world key (scrub ++ [.removeFile key])
          (settled (h.logged.removeFile key) t).world := by
    unfold settled
    obtain ⟨_, u, hu, hg, hgone, -⟩ | ⟨e, u, hu, hg, -, hr⟩ :=
      (log_triple (c := .removeFile key) (h := h) rfl
        ((hf.removed t.world key).and Triple.self)).cases <;>
      simp only [Host.logged, hu]
    · exact ⟨ht.trans hg, .gone hgone⟩
    · exact ⟨ht.trans hg, .kept rfl (ht.world ▸ hr)⟩
  unfold Host.shred
  split
  · exact ⟨_, .zeros, removing _ (settled_log_grows rfl s)⟩
  · exact ⟨_, .nothing, removing s (.refl s)⟩

theorem Host.FileLaws.hands {before : List HostCall} (ht : s.Grows h before t)
    (hthrough : ∀ scrub, Scrub (h.temporaryPath s.world) scrub →
      ThroughFile h file? s.world (h.temporaryPath s.world) secret (r (h.temporaryPath s.world))
        obstacle (before ++ (scrub ++ [.removeFile (h.temporaryPath s.world)]))) :
    ∃ calls, before <+: calls ∧ s.Hands h file? secret r obstacle calls
      (h.logged.shred (h.temporaryPath s.world) t) := by
  obtain ⟨scrub, hs, hg, hgone⟩ := hf.shred (h.temporaryPath s.world) t
  refine ⟨_, List.prefix_append _ _, ht.trans hg, hthrough scrub hs, ?_⟩
  cases hgone with
  | gone hfile => exact .gone hfile
  | @kept earlier e hc hr =>
    have hcalls : before ++ (scrub ++ [.removeFile (h.temporaryPath s.world)]) =
        before ++ earlier ++ [.removeFile (h.temporaryPath s.world)] := by
      rw [hc, List.append_assoc]
    rw [ht.world, ← Host.replay_append] at hr
    exact .kept hcalls hr

theorem Host.FileLaws.withSecret {body : Path → SystemTask (Logged σ) α}
    (hbody : ∀ key, FeedsUnless h id (key.text? = none) (r key) (body key)) :
    HandsOver h file? id obstacle secret r (h.logged.withSecret secret body) := by
  intro s
  -- The cases are where it stops: the file is not made, not written, not named
  -- in text, or the run is reached. All but the first remove the file.
  refine Host.withSecret_triple (Triple.mono
    (log_triple rfl ((hf.created _ _ _).and Triple.self)) ?_ ?_)
  · rintro _ s₁ ⟨hmade, hempty, hc⟩
    refine Triple.bind (Triple.adaptExcept (Triple.mono
      (log_triple rfl ((hf.written _ _ _ _ secret hempty).and Triple.self)) (fun _ _ h => h) ?_)) ?_
    · rintro _ t ⟨hwritten, -, hw⟩
      exact (hf.hands (hmade.trans hwritten) fun _ => .unwritten hc hw).imp fun _ hcalls => hcalls.2
    · rintro _ s₂ ⟨hwritten, hfile, -⟩
      have hkey : s.Grows h (keyMade (h.temporaryPath s.world) secret) s₂ := hmade.trans hwritten
      rw [hkey.world] at hfile
      have hused {asked : List HostCall} {t : Logged σ}
          (hasked : (r (h.temporaryPath s.world)).Asks h s₂.world asked)
          (ht : s₂.Grows h asked t) :
          ∃ calls, keyMade (h.temporaryPath s.world) secret ++ asked <+: calls ∧
            s.Hands h file? secret r obstacle calls
              (h.logged.shred (h.temporaryPath s.world) t) :=
        hf.hands (hkey.trans ht) fun _ hs => .used hs hfile (hkey.world ▸ hasked)
      refine Triple.mono (hbody _ s₂) (fun _ t ht => ?_) ?_
      · obtain ⟨calls, hreached, hcalls⟩ := hused .whole ht
        exact ⟨calls, (List.suffix_append _ _).isInfix.trans hreached.isInfix, hcalls⟩
      · rintro _ t (⟨hp, ht⟩ | ⟨asked, hasked, ht⟩)
        · have hkept := hkey.trans ht
          rw [List.append_nil] at hkept
          exact (hf.hands hkept fun _ => .unnamed hp).imp fun _ hcalls => hcalls.2
        · exact (hused hasked ht).imp fun _ hcalls => hcalls.2
  · rintro _ s₁ ⟨hrefused, hsame, hc⟩
    exact ⟨_, hrefused, .refused hc, .gone (hsame.trans (hf.fresh _))⟩

end

def keyRun (program : String) (args : List Bytes) (input : Bytes) (key : Path) : ToolRun where
  program
  args := args ++ [key.octets]
  input := some input

theorem Cryptsetup.changeKey_hands {file? : σ → Path → Option (Nat × Bytes)}
    (hf : h.FileLaws file?) (program : String) (device : Path) : ∃ args, ∀ old new,
      HandsOver h file? id (device.text? = none) new (keyRun program args old)
        (changeKey h.logged program device old new) := by
  refine ⟨["luksChangeKey", "--verbose", "--key-file", "-"].map Utf8.encode ++ [device.octets],
    fun old new s => ?_⟩
  refine Triple.bind (Triple.mono pathArg_ends (fun _ _ h => h) ?_) ?_
  · rintro _ _ ⟨hd, rfl⟩
    exact ⟨_, .refl _, .nothing hd, .gone (hf.fresh _)⟩
  · rintro _ _ ⟨rfl, rfl⟩
    refine Triple.bind (hf.withSecret (fun key => ?_) _) fun _ _ hs => Triple.pure hs
    exact pathArg_feeds fun _ => Host.runChecked_triple

-- ---------------------------------------------------------------------------
-- Calls without a passphrase
-- ---------------------------------------------------------------------------

/-- The call gives a tool something to read. -/
def HostCall.Feeds : HostCall → Prop
  | start c => c.piped = true
  | feed _ => True
  | _ => False

/-- What a run without input asks gives the tool nothing to read. -/
theorem ToolRun.Asks.not_feeds {w : σ} {r : ToolRun} {calls : List HostCall}
    (ha : r.Asks h w calls) (hr : r.input = none) : ∀ c ∈ calls, ¬ c.Feeds := by
  have hstart : ¬ (HostCall.start r.command).Feeds := by
    simp [HostCall.Feeds, ToolRun.command, hr]
  cases ha with
  | unstarted => exact List.forall_mem_singleton.mpr hstart
  | unfed hi => cases hr.symm.trans hi
  | whole =>
    rw [ToolRun.calls, hr]
    exact List.forall_mem_cons.mpr ⟨hstart, List.forall_mem_singleton.mpr id⟩

/-- From `s` to `s'` no tool was given anything to read. -/
def Logged.Unfed (s s' : Logged σ) : Prop :=
  ∃ added, s'.calls = s.calls ++ added ∧ ∀ c ∈ added, ¬ c.Feeds

/-- The call gives nothing to read to the tools it runs; `log` is where they
are logged. -/
def FeedsNothing (log : τ → Logged σ) (x : EStateM ε τ α) : Prop :=
  ∀ s : Logged σ, Keeps (fun t => s.Unfed (log t)) (fun _ => True) x

namespace FeedsNothing

variable {log : τ → Logged σ} {x : EStateM ε τ α}

theorem pure {a : α} : FeedsNothing log (Pure.pure a : EStateM ε τ α) := fun _ => Keeps.pure

theorem throw {e : ε} : FeedsNothing log (throw e : EStateM ε τ α) := fun _ => Keeps.throw trivial

theorem get : FeedsNothing log (MonadState.get : EStateM ε τ τ) := fun _ _ hs => hs

theorem bind {f : α → EStateM ε τ β} (hx : FeedsNothing log x)
    (hf : ∀ a, FeedsNothing log (f a)) : FeedsNothing log (x >>= f) := fun s =>
  Keeps.bind (hx s) fun a => hf a s

theorem adaptExcept {ε' : Type} {f : ε → ε'} (hx : FeedsNothing log x) :
    FeedsNothing log (x.adaptExcept f) := fun s t ht =>
  Triple.adaptExcept (Triple.mono (hx s t ht) (fun _ _ h => h) fun _ _ h => ⟨h.1, trivial⟩)

theorem onWorld {x : EStateM ε (Logged σ) α} (hx : FeedsNothing id x) :
    FeedsNothing Session.world (Session.onWorld x) := fun s t ht =>
  Session.onWorld_triple (hx s t.world ht)

theorem run {r : ToolRun} (hr : r.input = none) : FeedsNothing id (h.logged.run r) := by
  intro s t ht
  obtain ⟨added, hcalls, hunfed⟩ := ht
  have asked {u : Logged σ} {calls} (ha : r.Asks h t.world calls) (hg : t.Grows h calls u) :
      s.Unfed u := by
    refine ⟨added ++ calls, by rw [hg.calls, ← List.append_assoc, ← hcalls, id], fun c hc => ?_⟩
    exact (List.mem_append.mp hc).elim (hunfed c) (ha.not_feeds hr c)
  refine Triple.mono Host.run_logged (fun _ _ hg => asked .whole hg.1) ?_
  rintro _ _ ⟨⟨calls, ha, hg⟩, -⟩
  exact ⟨asked ha hg, trivial⟩

theorem report {r : ToolRun} (hr : r.input = none) : FeedsNothing id (h.logged.report r) :=
  bind (adaptExcept (run hr)) fun _ => pure

theorem runChecked {r : ToolRun} (hr : r.input = none) :
    FeedsNothing id (h.logged.runChecked r) := by
  refine bind (report hr) fun report => ?_
  split
  · exact pure
  · exact throw

theorem pathArg {p : Path} : FeedsNothing log (Cryptsetup.pathArg p) := by
  unfold Cryptsetup.pathArg
  split
  · exact pure
  · exact throw

theorem requireDevice {device : Path} :
    FeedsNothing id (Cryptsetup.requireDevice h.logged device) := by
  refine bind get fun s => ?_
  split
  · exact pure
  · exact throw

theorem requireTool {tool : String} {missing : SystemError} :
    FeedsNothing id (h.logged.requireTool tool missing) := by
  refine bind get fun s => ?_
  split
  · exact pure
  · exact throw

variable {program : String} {device : Path}

theorem dump : FeedsNothing id (Cryptsetup.dump h.logged program device) := by
  refine bind pathArg fun arg => bind (runChecked rfl) fun report => ?_
  split
  · exact pure
  · exact throw

theorem load : FeedsNothing id (Cryptsetup.load h.logged program device) := by
  refine bind requireDevice fun _ => bind ?_ fun _ => bind dump fun _ => pure
  refine bind pathArg fun arg => bind (report rfl) fun report => ?_
  split
  · exact pure
  · exact throw

theorem killSlot {slot : UInt32} :
    FeedsNothing id (Cryptsetup.killSlot h.logged program device slot) :=
  bind pathArg fun _ => bind (runChecked rfl) fun _ => pure

theorem makeFilesystem {t : FilesystemType} {options : List String} :
    FeedsNothing id (h.logged.makeFilesystem device t options) :=
  bind requireTool fun _ => bind (runChecked rfl) fun _ => pure

theorem checkFilesystem {t : FilesystemType} {options : List String} :
    FeedsNothing id (h.logged.checkFilesystem device t options) := by
  refine bind requireTool fun _ => bind (report rfl) fun report => ?_
  split
  · exact pure
  · exact throw

end FeedsNothing

end EmmcVault.Linux
