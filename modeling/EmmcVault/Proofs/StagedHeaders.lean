import EmmcVault.Proofs.Delivery

/-!
# Headers that wait for their first keyslot

Devices are formatted and given a keyslot in any order. A header waits on a
device from a formatting that succeeds until a keyslot is added to an equal
path, with the settings of the newest such formatting. Adding a keyslot asks the
tool once to write the header that waits, and uses it up however the tool ends;
where none waits nothing is asked of the system.
-/

namespace EmmcVault.Linux

open Text Logged

variable {ε σ η α : Type}

-- ---------------------------------------------------------------------------
-- What waits after some requests
-- ---------------------------------------------------------------------------

def succeeds (call : EStateM ε σ α) (s : σ) : Bool :=
  match call s with
  | .ok .. => true
  | .error .. => false

theorem settled_of_triple {call : EStateM ε σ α} {s : σ} {P : Bool → σ → Prop}
    (h : Triple call s (fun _ => P true) (fun _ => P false)) :
    P (succeeds call s) (settled call s) := by
  unfold succeeds settled
  obtain ⟨_, _, hx, hp⟩ | ⟨_, _, hx, hp⟩ := h.cases <;> rw [hx] <;> exact hp

namespace Staging

/-- A request that was made, whether it succeeded or not. -/
inductive Event where
  | format (device : Path) (params : EncryptionParams) (succeeded : Bool)
  | addKeyslot (device : Path)

/-- What waited on the device before does not wait any more. -/
def Event.Settles (device : Path) : Event → Prop
  | format formatted _ succeeded => formatted.key = device.key ∧ succeeded = true
  | addKeyslot added => added.key = device.key

/-- The requests since a session began, the newest first. The world may change
between two of them. -/
inductive History (b : CryptoBackend (Session σ)) : List Event → Session σ → Prop
  | start (world : σ) : History b [] { world }
  | format {events s} (device : Path) (params : EncryptionParams) : History b events s →
      History b (.format device params (succeeds (b.format device params) s) :: events)
        (settled (b.format device params) s)
  | addKeyslot {events s} (device : Path) (passphrase : Bytes) : History b events s →
      History b (.addKeyslot device :: events) (settled (b.addKeyslot device passphrase) s)
  | elapse {events s} (world : σ) : History b events s → History b events { s with world }

/-- An equal path was formatted with these settings, and since then it was
neither formatted again nor given a keyslot. -/
def Waits (events : List Event) (device : Path) (params : EncryptionParams) : Prop :=
  ∃ later formatted earlier, events = later ++ .format formatted params true :: earlier ∧
    formatted.key = device.key ∧ ∀ e ∈ later, ¬ e.Settles device

section
variable {e : Event} {events : List Event} {device : Path} {params : EncryptionParams}

theorem not_waits_nil : ¬ Waits [] device params := by
  rintro ⟨later, _, _, h, -⟩
  cases later <;> cases h

theorem waits_cons : Waits (e :: events) device params ↔
    (∃ formatted, e = .format formatted params true ∧ formatted.key = device.key) ∨
      ¬ e.Settles device ∧ Waits events device params := by
  constructor
  · rintro ⟨later, formatted, earlier, h, hkey, hlater⟩
    cases later with
    | nil =>
      cases h
      exact .inl ⟨formatted, rfl, hkey⟩
    | cons e' later =>
      cases h
      have hrest := List.forall_mem_cons.mp hlater
      exact .inr ⟨hrest.1, later, formatted, earlier, rfl, hkey, hrest.2⟩
  · rintro (⟨formatted, rfl, hkey⟩ | ⟨he, later, formatted, earlier, rfl, hkey, hlater⟩)
    · exact ⟨[], formatted, events, rfl, hkey, nofun⟩
    · exact ⟨e :: later, formatted, earlier, rfl, hkey, List.forall_mem_cons.mpr ⟨he, hlater⟩⟩

theorem waits_of_not_settles (he : ¬ e.Settles device) :
    Waits (e :: events) device params ↔ Waits events device params := by
  rw [waits_cons]
  constructor
  · rintro (⟨formatted, rfl, hkey⟩ | ⟨-, hw⟩)
    · exact (he ⟨hkey, rfl⟩).elim
    · exact hw
  · exact fun hw => .inr ⟨he, hw⟩

theorem waits_format {formatted : Path} {settings : EncryptionParams}
    (hkey : formatted.key = device.key) :
    Waits (.format formatted settings true :: events) device params ↔ settings = params := by
  rw [waits_cons]
  constructor
  · rintro (⟨_, ⟨⟩, -⟩ | ⟨hsettles, -⟩)
    · rfl
    · exact (hsettles ⟨hkey, rfl⟩).elim
  · rintro rfl
    exact .inl ⟨formatted, rfl, hkey⟩

theorem not_waits_addKeyslot {added : Path} (hkey : added.key = device.key) :
    ¬ Waits (.addKeyslot added :: events) device params := by
  rw [waits_cons]
  rintro (⟨_, ⟨⟩, -⟩ | ⟨hsettles, -⟩)
  exact hsettles hkey

end

end Staging

-- ---------------------------------------------------------------------------
-- One request
-- ---------------------------------------------------------------------------

theorem Session.staged_stage {s : Session σ} {device : Path} {params : Option EncryptionParams}
    {k : Path.Key} :
    (s.stage device params).staged k = if k = device.key then params else s.staged k := rfl

/-- Nothing waits on the device any more; other devices are left as they were. -/
structure Session.UsesUp (s : Session σ) (device : Path) (s' : Session σ) : Prop where
  used : s'.staged device.key = none
  others : ∀ other : Path, other.key ≠ device.key → s'.staged other.key = s.staged other.key

theorem Session.UsesUp.of_staged {s s' : Session σ} {device : Path}
    (hs : s'.staged = (s.stage device none).staged) : s.UsesUp device s' where
  used := by rw [hs]; exact if_pos rfl
  others _ hkey := by rw [hs]; exact if_neg hkey

/-- The tool can be run and ends with success. -/
def Host.Completes (h : Host σ η) (r : ToolRun) (w : σ) : Prop :=
  h.Runs r w fun out _ => out.code = some 0

namespace Cryptsetup

variable {h : Host σ η} {program : String} {device : Path} {params : EncryptionParams}
  {passphrase : Bytes}

/-- The run that writes a header with one keyslot, the first. -/
def headerRun (program : String) (device : Path) (params : EncryptionParams)
    (passphrase : Bytes) : ToolRun where
  program
  args := ["luksFormat", "--batch-mode", "--type", params.version.name, "--cipher",
    params.cipherSpec, "--key-size", toString params.keySizeBits, "--key-slot", "0",
    "--key-file", "-"].map Utf8.encode ++ [device.octets]
  input := some passphrase

theorem format_triple {s : Session σ} :
    Triple (format h device params) s
      (fun _ s' => h.pathExists s.world device = true ∧ s' = s.stage device (some params))
      (fun _ s' => h.pathExists s.world device = false ∧ s' = s) := by
  refine Triple.bind (R := fun _ s' => h.pathExists s.world device = true ∧ s' = s) ?_ ?_
  · refine Session.onWorld_triple (Triple.adaptExcept ?_)
    refine Triple.bind (R := fun w w' => w = s.world ∧ w' = s.world)
      (Triple.of_ok rfl ⟨rfl, rfl⟩) ?_
    rintro _ _ ⟨rfl, rfl⟩
    split
    · exact Triple.pure ⟨‹_›, rfl⟩
    · exact Triple.throw ⟨Bool.eq_false_iff.mpr ‹_›, rfl⟩
  · rintro _ _ ⟨hexists, rfl⟩
    exact Triple.of_ok rfl ⟨hexists, rfl⟩

theorem runChecked_completes {r : ToolRun} {w : Logged σ} :
    Triple (h.logged.runChecked r) w (fun _ w' => h.Completes r w.world ∧ w.Grows h r.calls w')
      (fun _ w' => ¬ h.Completes r w.world ∧
        ∃ calls, r.Asks h w.world calls ∧ w.Grows h calls w') := by
  refine Triple.and ?_ Host.runChecked_triple
  refine Triple.bind (R := fun report _ => ∃ out w', h.run r w.world = .ok out w' ∧
    report = .ofOutput out) ?_ ?_
  · refine Triple.bind (Triple.adaptExcept (Triple.mono Host.run_logged
      (fun _ _ h => h.2) ?_)) ?_
    · rintro e _ ⟨-, hrun⟩ ⟨out, w', hok, -⟩
      cases hrun.symm.trans hok
    · exact fun out w' hrun => Triple.pure ⟨out, _, hrun, rfl⟩
  · rintro _ _ ⟨out, w', hrun, rfl⟩
    split
    · rename_i hs
      refine Triple.pure ⟨out, w', hrun, ?_⟩
      simpa [ToolReport.succeeded, ToolReport.ofOutput] using hs
    · rename_i hs
      refine Triple.throw ?_
      rintro ⟨out', w'', hrun', hcode⟩
      cases hrun.symm.trans hrun'
      exact hs (ToolReport.succeeded_ofOutput hcode)

theorem writeHeader_completes (hd : device.text?.isSome = true) {w : Logged σ} :
    Triple (writeHeader h.logged program device params passphrase) w
      (fun _ w' => h.Completes (headerRun program device params passphrase) w.world ∧
        w.Grows h (headerRun program device params passphrase).calls w')
      (fun _ w' => ¬ h.Completes (headerRun program device params passphrase) w.world ∧
        ∃ calls, (headerRun program device params passphrase).Asks h w.world calls ∧
          w.Grows h calls w') := by
  refine Triple.bind (Triple.mono pathArg_ends (fun _ _ h => h) ?_) ?_
  · rintro _ _ ⟨hnone, -⟩
    rw [hnone] at hd
    cases hd
  · rintro _ _ ⟨rfl, rfl⟩
    exact Triple.bind runChecked_completes fun _ _ h => Triple.pure h

theorem writeHeader_of_unnamed (hd : device.text? = none) {w : σ} :
    Triple (writeHeader h program device params passphrase) w (fun _ _ => False)
      (fun _ w' => w' = w) := by
  unfold writeHeader pathArg
  rw [hd]
  exact Triple.of_error rfl rfl

theorem addKeyslot_of_waiting {s : Session (Logged σ)}
    (hs : s.staged device.key = some params) (hd : device.text?.isSome = true) :
    Triple (addKeyslot h.logged program device passphrase) s
      (fun slot s' => slot = 0 ∧
        h.Completes (headerRun program device params passphrase) s.world.world ∧
        s.world.Grows h (headerRun program device params passphrase).calls s'.world ∧
        s.UsesUp device s')
      (fun _ s' => ¬ h.Completes (headerRun program device params passphrase) s.world.world ∧
        (∃ calls, (headerRun program device params passphrase).Asks h s.world.world calls ∧
          s.world.Grows h calls s'.world) ∧ s.UsesUp device s') := by
  refine Triple.bind (R := fun t s' => s = t ∧ s = s') (Triple.of_ok rfl ⟨rfl, rfl⟩) ?_
  rintro _ _ ⟨rfl, rfl⟩
  simp only [hs]
  refine Triple.bind (R := fun _ s' => s' = s.stage device none) (Triple.of_ok rfl rfl) ?_
  rintro _ _ rfl
  refine Triple.bind (R := fun _ s' =>
    (h.Completes (headerRun program device params passphrase) s.world.world ∧
      s.world.Grows h (headerRun program device params passphrase).calls s'.world) ∧
      s.UsesUp device s') ?_ ?_
  · refine Session.onWorld_triple (Triple.adaptExcept
      (Triple.mono (writeHeader_completes hd) ?_ ?_))
    · exact fun _ _ h => ⟨h, .of_staged rfl⟩
    · exact fun _ _ h => ⟨h.1, h.2, .of_staged rfl⟩
  · exact fun _ _ h => Triple.pure ⟨rfl, h.1.1, h.1.2, h.2⟩

/-- Without a header that waits, or on a device that has no name in text,
nothing is asked of the system. -/
theorem addKeyslot_of_not_waiting {s : Session σ}
    (hs : s.staged device.key = none ∨ device.text? = none) :
    Triple (addKeyslot h program device passphrase) s (fun _ _ => False)
      (fun _ s' => s'.world = s.world ∧ s.UsesUp device s') := by
  refine Triple.bind (R := fun t s' => s = t ∧ s = s') (Triple.of_ok rfl ⟨rfl, rfl⟩) ?_
  rintro _ _ ⟨rfl, rfl⟩
  split
  · rename_i hnone
    exact Triple.throw ⟨rfl, hnone, fun _ _ => rfl⟩
  · rename_i params hsome
    refine Triple.bind (R := fun _ s' => s' = s.stage device none) (Triple.of_ok rfl rfl) ?_
    rintro _ _ rfl
    refine Triple.bind (R := fun _ _ => False) ?_ fun _ _ h => h.elim
    have hd : device.text? = none := hs.resolve_left (by rw [hsome]; exact nofun)
    refine Session.onWorld_triple (Triple.adaptExcept
      (Triple.mono (writeHeader_of_unnamed hd) ?_ ?_))
    · exact fun _ _ h => h
    · rintro _ _ rfl
      exact ⟨rfl, .of_staged rfl⟩

/-- What waits is used up whether or not the header could be written. -/
theorem addKeyslot_usesUp {s : Session (Logged σ)} :
    Triple (addKeyslot h.logged program device passphrase) s (fun _ s' => s.UsesUp device s')
      (fun _ s' => s.UsesUp device s') := by
  by_cases hd : device.text? = none
  · exact Triple.mono (addKeyslot_of_not_waiting (.inr hd)) (fun _ _ h => h.elim) fun _ _ h => h.2
  · cases hs : s.staged device.key with
    | none =>
      exact Triple.mono (addKeyslot_of_not_waiting (.inl hs)) (fun _ _ h => h.elim) fun _ _ h => h.2
    | some params =>
      exact Triple.mono (addKeyslot_of_waiting hs (Option.isSome_iff_ne_none.mpr hd))
        (fun _ _ h => h.2.2.2) fun _ _ h => h.2.2

end Cryptsetup

-- ---------------------------------------------------------------------------
-- Any sequence of requests
-- ---------------------------------------------------------------------------

namespace Staging

variable {h : Host σ η} {program : String} {events : List Event} {s s' : Session (Logged σ)}

/-- The staged settings are those that wait. -/
theorem History.staged_iff (hs : History (Cryptsetup.backend h.logged program) events s)
    (device : Path) (params : EncryptionParams) :
    s.staged device.key = some params ↔ Waits events device params := by
  induction hs with
  | start world => exact iff_of_false nofun not_waits_nil
  | @format events s formatted settings _ ih =>
    -- A formatting that fails stages nothing.
    have hend := settled_of_triple (P := fun succeeded s' =>
        if succeeded then s' = s.stage formatted (some settings) else s' = s)
      (Triple.mono (Cryptsetup.format_triple (h := h.logged)) (fun _ _ h => h.2) fun _ _ h => h.2)
    change (settled (Cryptsetup.format h.logged formatted settings) s).staged device.key = _ ↔
      Waits (.format _ _ (succeeds (Cryptsetup.format h.logged formatted settings) s) :: _) _ _
    generalize succeeds _ s = succeeded at hend ⊢
    generalize settled _ s = s' at hend ⊢
    by_cases hnew : (Event.format formatted settings succeeded).Settles device
    · obtain ⟨hkey, rfl⟩ := hnew
      rw [if_pos rfl] at hend
      rw [waits_format hkey, hend, Session.staged_stage, if_pos hkey.symm, Option.some.injEq]
    · rw [waits_of_not_settles hnew, ← ih]
      split at hend
      · rename_i hsucceeded
        have hkey : device.key ≠ formatted.key := fun hkey => hnew ⟨hkey.symm, hsucceeded⟩
        rw [hend, Session.staged_stage, if_neg hkey]
      · rw [hend]
  | @addKeyslot events s added passphrase _ ih =>
    have hused : s.UsesUp added
        (settled (Cryptsetup.addKeyslot h.logged program added passphrase) s) :=
      settled_of_triple (P := fun _ s' => s.UsesUp added s') Cryptsetup.addKeyslot_usesUp
    by_cases hkey : added.key = device.key
    · refine iff_of_false ?_ (not_waits_addKeyslot hkey)
      rw [← hkey]
      exact fun h => nomatch hused.used.symm.trans h
    · rw [waits_of_not_settles (e := .addKeyslot added) hkey, ← ih,
        ← hused.others device (Ne.symm hkey)]
      exact Iff.rfl
  | elapse world _ ih => exact ih

/-- Formatting stages the settings of a device that is there and asks nothing of
the system. Adding a keyslot asks for one run, which writes the header that waits
on the device for the passphrase, and succeeds with the first slot if that run
does; it fails if the run cannot be made or fails. Where no header waits or the
device has no name in text, it fails and asks nothing. In all cases no header
waits on the device afterwards, and the others wait on. -/
theorem header_written_once {program : String}
    (hs : History (h.logged.backendsUsing program).crypto events s) :
    (∀ device params, Triple ((h.logged.backendsUsing program).crypto.format device params) s
      (fun _ s' => h.pathExists s.world.world device = true ∧ s' = s.stage device (some params))
      (fun _ s' => h.pathExists s.world.world device = false ∧ s' = s)) ∧
    (∀ device passphrase params, Waits events device params → device.text?.isSome = true →
      Triple ((h.logged.backendsUsing program).crypto.addKeyslot device passphrase) s
        (fun slot s' => slot = 0 ∧
          h.Completes (Cryptsetup.headerRun program device params passphrase) s.world.world ∧
          s.world.Grows h (Cryptsetup.headerRun program device params passphrase).calls s'.world ∧
          s.UsesUp device s')
        (fun _ s' =>
          ¬ h.Completes (Cryptsetup.headerRun program device params passphrase) s.world.world ∧
          (∃ calls, (Cryptsetup.headerRun program device params passphrase).Asks h s.world.world
            calls ∧ s.world.Grows h calls s'.world) ∧ s.UsesUp device s')) ∧
    ∀ device passphrase, (¬ ∃ params, Waits events device params) ∨ device.text?.isSome = false →
      Triple ((h.logged.backendsUsing program).crypto.addKeyslot device passphrase) s
        (fun _ _ => False) (fun _ s' => s'.world = s.world ∧ s.UsesUp device s') := by
  refine ⟨fun device params => Cryptsetup.format_triple, fun device passphrase params hw hd => ?_,
    fun device passphrase hnot => ?_⟩
  · exact Cryptsetup.addKeyslot_of_waiting ((hs.staged_iff device params).mpr hw) hd
  · refine Cryptsetup.addKeyslot_of_not_waiting (hnot.imp (fun hnone => ?_) fun hd => ?_)
    · exact Option.eq_none_iff_forall_ne_some.mpr fun params hw =>
        hnone ⟨params, (hs.staged_iff device params).mp hw⟩
    · exact Option.isNone_iff_eq_none.mp (by rw [← Option.not_isSome, hd]; rfl)

/-- A tool that refuses to write a header for an empty passphrase. -/
def carefulHost : Host (Attended Unit) Unit :=
  Host.ofTools (fun _ _ => true) fun r => pure { code := some (if r.input = some [] then 1 else 0) }

/-- Two formattings of one device under two spellings, the second of which
counts, and a failed attempt on another device between. -/
theorem header_written_once_twoDevices :
    let b := (carefulHost.logged.backendsUsing "cryptsetup").crypto
    let card := Path.ofString "/dev/mmcblk0"
    let disk := Path.ofString "/dev/sda"
    let s₁ := settled (b.format card {}) { world := { world := { world := () } } }
    let s₂ := settled (b.format (.ofString "/dev//mmcblk0") { version := .luks1 }) s₁
    let s₃ := settled (b.format disk {}) s₂
    let s₄ := settled (b.addKeyslot disk []) s₃
    ∃ s₅ e s₆, b.addKeyslot card [0x70] s₄ = .ok 0 s₅ ∧ b.addKeyslot disk [0x70] s₅ = .error e s₆ ∧
      s₆.world.runs = [Cryptsetup.headerRun "cryptsetup" disk {} [],
        Cryptsetup.headerRun "cryptsetup" card { version := .luks1 } [0x70]] := by
  intro b card disk s₁ s₂ s₃ s₄
  let events : List Event := [.addKeyslot disk, .format disk {} true,
    .format (.ofString "/dev//mmcblk0") { version := .luks1 } true, .format card {} true]
  have hs : History b events s₄ := .addKeyslot disk [] (.format disk {}
    (.format (.ofString "/dev//mmcblk0") { version := .luks1 } (.format card {} (.start _))))
  have hcard : card.key ≠ disk.key := by decide
  have hwaits : Waits events card { version := .luks1 } := by
    refine ⟨[.addKeyslot disk, .format disk {} true], _, _, rfl, by decide, ?_⟩
    exact List.forall_mem_cons.mpr ⟨hcard.symm, List.forall_mem_singleton.mpr fun h =>
      hcard h.1.symm⟩
  obtain ⟨slot, s₅, hadd, rfl, -, hgrows, -⟩ | ⟨e, s₅, -, hfails, -⟩ :=
    ((header_written_once hs).2.1 card [0x70] _ hwaits (by decide)).cases
  · have hs₅ : History b (.addKeyslot card :: events) s₅ := by
      have hstep := hs.addKeyslot card [0x70]
      rwa [settled, hadd] at hstep
    have hnone : ¬ ∃ params, Waits (.addKeyslot card :: events) disk params := by
      rintro ⟨params, hw⟩
      rw [waits_of_not_settles (e := .addKeyslot card) hcard] at hw
      exact not_waits_addKeyslot rfl hw
    obtain ⟨_, _, _, hfalse⟩ | ⟨e, s₆, hrefused, hworld, -⟩ :=
      ((header_written_once hs₅).2.2 disk [0x70] (.inl hnone)).cases
    · exact hfalse.elim
    · refine ⟨s₅, e, s₆, hadd, hrefused, ?_⟩
      rw [hworld, runs, hgrows.calls, HostCall.runs_append_calls]
      rfl
  · exact (hfails ⟨_, _, rfl, rfl⟩).elim

end Staging

end EmmcVault.Linux
