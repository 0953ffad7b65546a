import EmmcVault.Linux.Sandbox.Host
import EmmcVault.Proofs.Delivery

/-!
# Passphrases stay secret

The calls of the backend that take passphrases, on a system that is logged:
what they ask of it and how they end does not depend on the passphrases, where
tools and files take them, and each passphrase goes to the one run that needs it. All
other runs of tools are given nothing to read.

A tool that leaves its input unread can tell a passphrase by its length, and a
system that does not let go of a key file keeps one.
-/

namespace EmmcVault.Linux

open Text Logged

variable {ε σ η α : Type} {h : Host σ η}

namespace Session

theorem onWorld_feedsUnless {obstacle : Prop} {r : ToolRun}
    {x : EStateM ε (Logged σ) α} (hx : FeedsUnless h id obstacle r x) :
    FeedsUnless h Session.world obstacle r (onWorld x) := fun s =>
  onWorld_triple (hx s.world)

theorem onWorld_handsOver {file? : σ → Path → Option (Nat × Bytes)} {obstacle : Prop}
    {secret : Bytes} {r : Path → ToolRun} {x : EStateM ε (Logged σ) α}
    (hx : HandsOver h file? id obstacle secret r x) :
    HandsOver h file? Session.world obstacle secret r (onWorld x) := fun s =>
  onWorld_triple (hx s.world)

end Session

theorem SystemTask.serving_feedsUnless {obstacle : Prop} {r : ToolRun}
    {x : SystemTask (Logged σ) α} (hx : FeedsUnless h id obstacle r x) (call : String) :
    FeedsUnless h id obstacle r (x.serving call) := fun s =>
  Triple.adaptExcept (hx s)

namespace Cryptsetup

/-- The run that writes a staged header reads the passphrase; without a staged
header there is none. -/
theorem addKeyslot_feeds (program : String) (device : Path) (params? : Option EncryptionParams) :
    ∃ args, ∀ passphrase (s : Session (Logged σ)), s.staged device.key = params? →
      FeedsFrom h Session.world (params? = none ∨ device.text? = none)
        ⟨program, args, some passphrase⟩ s (addKeyslot h.logged program device passphrase) := by
  have hwrite : ∃ args, ∀ params, params? = some params → ∀ passphrase,
      FeedsUnless h id (device.text? = none) ⟨program, args, some passphrase⟩
        (writeHeader h.logged program device params passphrase) := by
    cases params? with
    | none => exact ⟨[], fun _ hp => nomatch hp⟩
    | some params =>
      obtain ⟨args, hargs⟩ := writeHeader_feeds h program device params
      exact ⟨args, fun _ hp => Option.some.inj hp ▸ hargs⟩
  obtain ⟨args, hargs⟩ := hwrite
  refine ⟨args, fun passphrase s hs => ?_⟩
  refine Triple.bind (R := fun a t => s = a ∧ s = t) (Triple.of_ok rfl ⟨rfl, rfl⟩) ?_
  rintro _ _ ⟨rfl, rfl⟩
  split
  · rename_i hp
    exact Triple.throw (.inl ⟨.inl (hs.symm.trans hp), .refl _⟩)
  · rename_i params hp
    have hfed := Session.onWorld_feedsUnless (SystemTask.serving_feedsUnless
      (hargs params (hs.symm.trans hp) passphrase) "keyslot_add_by_volume_key")
    refine Triple.bind (R := fun _ t => s.stage device none = t) (Triple.of_ok rfl rfl) ?_
    rintro _ _ rfl
    refine Triple.bind (Triple.mono (hfed (s.stage device none)) (fun _ _ hg => hg) ?_)
      fun _ _ hg => Triple.pure hg
    rintro _ s' (⟨hd, hg⟩ | hg)
    · exact .inl ⟨.inr hd, hg⟩
    · exact .inr hg

theorem format_feedsNothing {device : Path} {params : EncryptionParams} :
    FeedsNothing Session.world (format h.logged device params) :=
  FeedsNothing.bind (.onWorld (.adaptExcept .requireDevice)) fun _ _ _ hs => hs

end Cryptsetup

/-- Passphrases that `P` relates on standard input, and `F` in a key file, cannot
be told apart by what is asked of the system nor by how a call ends. The text of
a failure may name a key file. -/
structure Indistinct (R : σ → σ → Prop) (N : Path → Path → Prop)
    (P F : Bytes → Bytes → Prop) (b : CryptoBackend (Session (Logged σ))) : Prop where
  addKeyslot : ∀ device passphrase passphrase', P passphrase passphrase' →
    Twin (Session.Alike (Logged.Alike R N P)) Eq Eq (b.addKeyslot device passphrase)
      (b.addKeyslot device passphrase')
  activate : ∀ device name passphrase passphrase', P passphrase passphrase' →
    Twin (Session.Alike (Logged.Alike R N P)) Eq Eq (b.activate device name passphrase)
      (b.activate device name passphrase')
  changePassphrase : ∀ device old old' new new', P old old' → F new new' →
    Twin (Session.Alike (Logged.Alike R N P))
      (SameText N fun key => (notText key).ofCall "keyslot_change_by_passphrase") Eq
      (b.changePassphrase device old new) (b.changePassphrase device old' new')

/-- Each passphrase is given to one run, on its standard input or in a key file,
and all other tools are given nothing to read. The arguments of the run are
chosen before the passphrases. The run is left out only where the device has no
name in text, no header waits for its first keyslot or the key file cannot be
had, and it is cut short only where the system fails. -/
structure Delivers (h : Host σ η) (file? : σ → Path → Option (Nat × Bytes))
    (program : String) (b : CryptoBackend (Session (Logged σ))) : Prop where
  addKeyslot : ∀ device params?, ∃ args, ∀ passphrase (s : Session (Logged σ)),
    s.staged device.key = params? →
      FeedsFrom h Session.world (params? = none ∨ device.text? = none)
        ⟨program, args, some passphrase⟩ s (b.addKeyslot device passphrase)
  activate : ∀ device name, ∃ args, ∀ passphrase,
    FeedsUnless h Session.world (device.text? = none) ⟨program, args, some passphrase⟩
      (b.activate device name passphrase)
  changePassphrase : ∀ device, ∃ args, ∀ old new,
    HandsOver h file? Session.world (device.text? = none) new (keyRun program args old)
      (b.changePassphrase device old new)
  format : ∀ device params, FeedsNothing Session.world (b.format device params)
  load : ∀ device, FeedsNothing Session.world (b.load device)
  deactivate : ∀ name, FeedsNothing Session.world (b.deactivate name)
  destroyKeyslot : ∀ device slot, FeedsNothing Session.world (b.destroyKeyslot device slot)
  maxKeyslots : ∀ version, FeedsNothing Session.world (b.maxKeyslots version)
  keyslotStatus : ∀ device slot, FeedsNothing Session.world (b.keyslotStatus device slot)

theorem Cryptsetup.backend_indistinct {R : σ → σ → Prop} {N : Path → Path → Prop}
    {P F : Bytes → Bytes → Prop} (hb : h.Blind R N P F) (program : String) :
    Indistinct R N P F (backend h.logged program) where
  addKeyslot _ _ _ hp := hb.logged.addKeyslot hp
  activate _ _ _ _ hp := Session.onWorld_twin
    (SystemTask.serving_twin (hb.logged.activate hp) fun _ _ he => congrArg _ he)
  changePassphrase _ _ _ _ _ hp hf := Session.onWorld_twin
    (SystemTask.serving_twin (hb.logged.changeKey hp hf) fun _ _ he => he.map _)

theorem Cryptsetup.backend_delivers {file? : σ → Path → Option (Nat × Bytes)}
    (hf : h.FileLaws file?) (program : String) :
    Delivers h file? program (backend h.logged program) where
  addKeyslot := addKeyslot_feeds program
  activate device name := by
    obtain ⟨args, hargs⟩ := activate_feeds h program device name
    exact ⟨args, fun passphrase =>
      Session.onWorld_feedsUnless (SystemTask.serving_feedsUnless (hargs passphrase) _)⟩
  changePassphrase device := by
    obtain ⟨args, hargs⟩ := changeKey_hands hf program device
    exact ⟨args, fun old new =>
      Session.onWorld_handsOver fun s => Triple.adaptExcept (hargs old new s)⟩
  format _ _ := format_feedsNothing
  load _ := .onWorld (.adaptExcept .load)
  deactivate _ := .onWorld (.adaptExcept (.bind (.runChecked rfl) fun _ => .pure))
  destroyKeyslot _ _ := .onWorld (.adaptExcept .killSlot)
  maxKeyslots _ := .pure
  keyslotStatus _ _ := .onWorld (.adaptExcept (.bind .dump fun _ => .pure))

-- ---------------------------------------------------------------------------
-- A system with one key file
-- ---------------------------------------------------------------------------

/-- A system with room for one key file, whose name a seed chooses, and with
tools that succeed without a word. -/
structure Desk where
  seed : Bool
  /-- Permissions and contents of the key file. -/
  file : Option (Nat × Bytes) := none

namespace Desk

variable {w w' : Desk} {p p' : Path}

def keyName (seed : Bool) : Path := .ofString (if seed then "/tmp/b.key" else "/tmp/a.key")

/-- The name that is offered while the key file is there. -/
def otherName : Path := .ofString "/tmp/other"

def file? (w : Desk) (p : Path) : Option (Nat × Bytes) :=
  if p = keyName w.seed then w.file else none

def host : Host Desk Unit :=
  { Host.closed fun _ _ => true with
    start _ := pure ()
    feed _ := pure ()
    wait := pure {}
    temporaryPath w := if w.file = none then keyName w.seed else otherName
    createFile p permissions := fun w =>
      if p = keyName w.seed ∧ w.file = none then .ok () { w with file := some (permissions, []) }
      else .error (.kernel .accessDenied) w
    writeFile p contents := fun w =>
      match w.file? p with
      | some (permissions, _) => .ok () { w with file := some (permissions, contents) }
      | none => .error (.kernel .accessDenied) w
    fileLength w p := (w.file? p).map (·.2.length)
    removeFile p := fun w =>
      if p = keyName w.seed then .ok () { w with file := none }
      else .error (.kernel .accessDenied) w }

theorem otherName_ne {seed : Bool} : otherName ≠ keyName seed := by
  cases seed <;> decide

theorem eq_keyName_of_file? {file : Nat × Bytes} (h : w.file? p = some file) :
    p = keyName w.seed := by
  by_contra hp
  cases (if_neg hp).symm.trans h

theorem fileLaws : host.FileLaws file? where
  fresh w := by
    show w.file? (if w.file = none then keyName w.seed else otherName) = none
    by_cases hw : w.file = none
    · rw [if_pos hw, file?, if_pos rfl, hw]
    · rw [if_neg hw, file?, if_neg otherName_ne]
  created w path permissions := by
    unfold Triple
    simp only [host]
    by_cases hw : path = keyName w.seed ∧ w.file = none
    · rw [if_pos hw]
      exact if_pos hw.1
    · rw [if_neg hw]
  written w path permissions old contents hfile := by
    unfold Triple
    simp only [host, hfile]
    exact if_pos (eq_keyName_of_file? hfile)
  removed w path := by
    unfold Triple
    simp only [host]
    by_cases hp : path = keyName w.seed
    · rw [if_pos hp]
      exact if_pos hp
    · rw [if_neg hp]
      trivial

/-- Desks with different seeds, of which both or none has a key file. -/
structure Differ (w w' : Desk) : Prop where
  first : w.seed = false
  second : w'.seed = true
  file : w.file.isSome = w'.file.isSome

inductive Renamed : Path → Path → Prop
  | key : Renamed (keyName false) (keyName true)
  | other : Renamed otherName otherName

theorem Differ.file_eq_none (h : Differ w w') : w.file = none ↔ w'.file = none := by
  rw [← Option.isNone_iff_eq_none, ← Option.isNone_iff_eq_none, ← Option.not_isSome,
    ← Option.not_isSome, h.file]

theorem Differ.eq_keyName (h : Differ w w') (hp : Renamed p p') :
    p = keyName w.seed ↔ p' = keyName w'.seed := by
  rw [h.first, h.second]
  cases hp with
  | key => exact iff_of_true rfl rfl
  | other => exact iff_of_false otherName_ne otherName_ne

theorem Differ.file? (h : Differ w w') (hp : Renamed p p') :
    (w.file? p).isSome = (w'.file? p').isSome := by
  unfold Desk.file?
  by_cases hk : p = keyName w.seed
  · rw [if_pos hk, if_pos ((h.eq_keyName hp).mp hk), h.file]
  · rw [if_neg hk, if_neg fun hk' => hk ((h.eq_keyName hp).mpr hk')]

theorem writeFile_alike {contents contents' : Bytes} (hp : Renamed p p') :
    Twin Differ Eq Eq (host.writeFile p contents) (host.writeFile p' contents') := by
  intro w w' hr
  have hfile := hr.file? hp
  simp only [host]
  cases hf : w.file? p <;> cases hf' : w'.file? p' <;> rw [hf, hf'] at hfile
  · exact .error rfl hr
  · cases hfile
  · cases hfile
  · exact .ok rfl ⟨hr.first, hr.second, rfl⟩

theorem blind : host.Blind Differ Renamed (fun _ _ => True) fun _ _ => True where
  temporaryPath w w' hr := by
    simp only [host]
    by_cases hw : w.file = none
    · rw [if_pos hw, if_pos (hr.file_eq_none.mp hw), hr.first, hr.second]
      exact .key
    · rw [if_neg hw, if_neg fun hw' => hw (hr.file_eq_none.mpr hw')]
      exact .other
  text p p' hp := by
    cases hp <;> decide
  start _ _ _ := Twin.pure rfl
  feed _ _ _ := Twin.pure rfl
  wait := Twin.pure rfl
  createFile p p' permissions hp w w' hr := by
    simp only [host]
    by_cases hw : p = keyName w.seed ∧ w.file = none
    · rw [if_pos hw, if_pos ⟨(hr.eq_keyName hp).mp hw.1, hr.file_eq_none.mp hw.2⟩]
      exact .ok rfl ⟨hr.first, hr.second, rfl⟩
    · rw [if_neg hw,
        if_neg fun hw' => hw ⟨(hr.eq_keyName hp).mpr hw'.1, hr.file_eq_none.mpr hw'.2⟩]
      exact .error rfl hr
  writeFile _ _ _ _ hp _ := writeFile_alike hp
  scrub _ _ _ _ _ _ hr hp := (writeFile_alike hp).settled hr
  removeFile p p' hp w w' hr := by
    simp only [host]
    by_cases hk : p = keyName w.seed
    · rw [if_pos hk, if_pos ((hr.eq_keyName hp).mp hk)]
      exact .ok rfl ⟨hr.first, hr.second, rfl⟩
    · rw [if_neg hk, if_neg fun hk' => hk ((hr.eq_keyName hp).mpr hk')]
      exact .error rfl hr
  fileLength w w' p p' hr hp := by
    simp only [host, Option.isSome_map]
    exact hr.file? hp

/-- A desk without a key file, of which nothing was asked yet. -/
def start (seed : Bool) : Session (Logged Desk) where
  world := { world := { seed } }

def change (seed : Bool) (old new : Bytes) :
    EStateM.Result BackendError (Session (Logged Desk)) UInt32 :=
  (host.logged.backendsUsing "cryptsetup").crypto.changePassphrase (.ofString "dev.img") old new
    (start seed)

end Desk

-- ---------------------------------------------------------------------------
-- A program that does not read
-- ---------------------------------------------------------------------------

namespace Sandbox

theorem start_started {s : Sandbox} {c : ToolCommand} {running : Running}
    (hc : s.started c = .ok running) :
    host.start c s = .ok () { s with running := some running } := by
  simp only [host, startTool, hc]

/-- The pipe breaks when more is written to it than it holds. -/
theorem feed_idle {s : Sandbox} {input : Bytes} (hs : s.running = some .idle)
    (hi : pipeCapacity < input.length) :
    host.feed input s = .error (.kernel .brokenPipe) s := by
  simp only [host, feedTool, hs, if_pos hi]

theorem run_idle {s : Sandbox} {program : String} {args : List Bytes} {input : Bytes}
    (hc : s.started ⟨program, args, true⟩ = .ok .idle) (hi : pipeCapacity < input.length) :
    host.run ⟨program, args, some input⟩ s =
      .error (.kernel .brokenPipe) { s with running := some .idle } := by
  have hfeed := feed_idle (s := { s with running := some .idle }) rfl hi
  simp only [Host.run, Host.feedInput, bind, EStateM.bind, ToolRun.command, Option.isSome_some,
    start_started hc, hfeed]

/-- A machine whose directory for temporary files only takes new ones. -/
def appendOnly : Host Sandbox FileHandle :=
  { host with removeFile := fun _ => throw (.kernel .notPermitted) }

end Sandbox

theorem Cryptsetup.activate_idle {passphrase : Bytes}
    (hi : Sandbox.pipeCapacity < passphrase.length) :
    Triple ((Sandbox.host.backendsUsing "/bin/true").crypto.activate (.ofString "dev.img")
        "emmc_luks" passphrase) { world := Sandbox.fresh } (fun _ _ => False)
      fun e _ => e = .io "activate_by_passphrase" (.kernel .brokenPipe) := by
  have hstarted : Sandbox.fresh.started ⟨"/bin/true", ["open", "--verbose", "--type", "luks",
      "--key-file", "-"].map Utf8.encode ++ [(Path.ofString "dev.img").octets,
      Utf8.encode "emmc_luks"], true⟩ = .ok .idle := rfl
  refine Session.onWorld_triple (Triple.adaptExcept ?_)
  refine Triple.bind (R := fun arg s => arg = (Path.ofString "dev.img").octets ∧
    s = Sandbox.fresh) ⟨rfl, rfl⟩ ?_
  rintro _ _ ⟨rfl, rfl⟩
  refine Triple.bind (Triple.bind (Triple.bind (Triple.adaptExcept ?_) fun _ _ h => h)
    fun _ _ h => h) fun _ _ h => h
  exact Triple.of_error (Sandbox.run_idle hstarted hi) rfl

-- ---------------------------------------------------------------------------
-- All calls
-- ---------------------------------------------------------------------------

/-- Secrets never reach a command line. Where tools and files take one passphrase
as they take another, calls that take passphrases ask the same of the system and end
alike whatever the passphrases are. Each passphrase goes to one run, unchanged,
by its standard input or by a key file that only its owner can read and that is
gone when the call ends, unless the system refuses to remove it. -/
theorem Cryptsetup.passphrases_kept {R : σ → σ → Prop} {N : Path → Path → Prop}
    {P F : Bytes → Bytes → Prop} {file? : σ → Path → Option (Nat × Bytes)} (hb : h.Blind R N P F)
    (hf : h.FileLaws file?) (program : String) :
    Indistinct R N P F (h.logged.backendsUsing program).crypto ∧
      Delivers h file? program (h.logged.backendsUsing program).crypto ∧
      ∀ device t options,
        FeedsNothing Session.world
          ((h.logged.backendsUsing program).filesystem.makeFilesystem device t options) ∧
        FeedsNothing Session.world
          ((h.logged.backendsUsing program).filesystem.checkFilesystem device t options) :=
  ⟨backend_indistinct hb program, backend_delivers hf program, fun _ _ _ =>
    ⟨.onWorld (.adaptExcept .makeFilesystem), .onWorld (.adaptExcept .checkFilesystem)⟩⟩

/-- An empty passphrase in one run, one with a NUL and a line break in the
other. -/
theorem Cryptsetup.passphrases_kept_desk :
    ∃ s s' args, Desk.change false [] [0x61] = .ok 0 s ∧
      Desk.change true [0x00, 0x0A] [0xFF] = .ok 0 s' ∧
      List.Forall₂ (HostCall.Alike Desk.Renamed fun _ _ => True) s.world.calls s'.world.calls ∧
      (keyRun "cryptsetup" args [] (Desk.keyName false)).calls <:+: s.world.calls ∧
      (keyRun "cryptsetup" args [0x00, 0x0A] (Desk.keyName true)).calls <:+: s'.world.calls ∧
      s.world.world.file? (Desk.keyName false) = none ∧
      s'.world.world.file? (Desk.keyName true) = none := by
  obtain ⟨htwin, hdelivers, -⟩ := passphrases_kept Desk.blind Desk.fileLaws "cryptsetup"
  have hend := htwin.changePassphrase (.ofString "dev.img") [] [0x00, 0x0A] [0x61] [0xFF] trivial
    trivial (Desk.start false) (Desk.start true) ⟨⟨⟨rfl, rfl, rfl⟩, .nil⟩, rfl⟩
  obtain ⟨args, hargs⟩ := hdelivers.changePassphrase (.ofString "dev.img")
  have hfirst := hargs [] [0x61] (Desk.start false)
  have hsecond := hargs [0x00, 0x0A] [0xFF] (Desk.start true)
  obtain ⟨s, hs, hgone⟩ : ∃ s, Desk.change false [] [0x61] = .ok 0 s ∧
      s.world.world.file? (Desk.keyName false) = none := ⟨_, rfl, rfl⟩
  obtain ⟨s', hs', hgone'⟩ : ∃ s, Desk.change true [0x00, 0x0A] [0xFF] = .ok 0 s ∧
      s.world.world.file? (Desk.keyName true) = none := ⟨_, rfl, rfl⟩
  unfold Desk.change at hs hs'
  unfold Triple at hfirst hsecond
  rw [hs] at hend hfirst
  rw [hs'] at hend hsecond
  obtain ⟨calls, hrun, hfirst⟩ := hfirst
  obtain ⟨calls', hrun', hsecond⟩ := hsecond
  rw [show calls = s.world.calls from hfirst.grows.calls.symm] at hrun
  rw [show calls' = s'.world.calls from hsecond.grows.calls.symm] at hrun'
  cases hend with
  | ok _ hr => exact ⟨s, s', args, hs, hs', hr.world.calls, hrun, hrun', hgone, hgone'⟩

/-- A program that reads nothing succeeds with an empty passphrase and breaks the
pipe of a long one; a key file that cannot be removed stays. -/
theorem Cryptsetup.passphrases_told_apart :
    let device := Path.ofString "dev.img"
    let s : Session Sandbox := { world := Sandbox.fresh }
    let crypto := (Sandbox.host.backendsUsing "/bin/true").crypto
    (∃ s', crypto.activate device "emmc_luks" [] s = .ok 0 s') ∧
      (∃ s', crypto.activate device "emmc_luks" (List.replicate 100000 0x61) s =
        .error (.io "activate_by_passphrase" (.kernel .brokenPipe)) s') ∧
      ∃ s', (Sandbox.appendOnly.backendsUsing tool).crypto.changePassphrase device [] [0x6E] s =
        .ok 0 s' ∧ (s'.world.fileAt? Sandbox.fresh.temporaryPath).isSome = true := by
  refine ⟨⟨_, rfl⟩, ?_, ⟨_, rfl, rfl⟩⟩
  have hlong : Sandbox.pipeCapacity < (List.replicate 100000 (0x61 : UInt8)).length := by
    rw [List.length_replicate]
    decide
  -- from here on its length alone matters
  generalize List.replicate 100000 (0x61 : UInt8) = passphrase at hlong ⊢
  obtain ⟨_, _, _, hfalse⟩ | ⟨_, s', hs', rfl⟩ := (activate_idle hlong).cases
  · exact hfalse.elim
  · exact ⟨s', hs'⟩

end EmmcVault.Linux
