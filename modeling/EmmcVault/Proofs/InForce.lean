import EmmcVault.Proofs.LockState
import EmmcVault.Proofs.Recovery

/-!
# The passphrase in force

A header opens with the passphrase that came into force last: that of the
keyslot added by a formatting, also where the formatting failed afterwards and
was undone, or the new one of a passphrase change that succeeded. What became of
the other operations does not matter.
-/

namespace EmmcVault.Memory

open Text

variable {δ η : Type}

instance (e : Event δ) (kind : CallKind) : Decidable (e.Did kind) :=
  inferInstanceAs (Decidable (_ ∧ _))

/-- The passphrase that an operation brought into force. -/
def Event.sets? (e : Event δ) : Option Bytes :=
  match e.operation, e.outcome with
  | .format password _, _ => if e.Did .addKeyslot then some password else none
  | .changePassword _ new, .ok _ => some new
  | _, _ => none

/-- The passphrase in force after the events, if `initial` was before them. -/
def inForce (initial : Option Bytes) (events : List (Event δ)) : Option Bytes :=
  (events.findSome? Event.sets?).or initial

/-- What a bench shows of its passphrase: which one opens it, how often a
keyslot was to be added, and which calls fail. -/
structure Keyring where
  armed : CallKind → Option Int
  passphrase : Option Bytes
  additions : Nat

namespace Keyring

/-- What a formatting makes of a keyring: it has not come to adding a keyslot,
adding it failed, or it has added it. -/
inductive Formatted (k : Keyring) (password : Bytes) : Keyring → Prop
  | untouched : Formatted k password k
  | refused {code} : k.armed .addKeyslot = some code →
      Formatted k password { k with additions := k.additions + 1 }
  | added : k.armed .addKeyslot = none →
      Formatted k password
        { k with passphrase := some password, additions := k.additions + 1 }

end Keyring

namespace Bench

variable {d : BlockDevices δ η} {v : Volume} {w : Bench δ} {k : Keyring}

def keyring (w : Bench δ) : Keyring where
  armed := w.journal.armed
  passphrase := w.header.passphrase
  additions := w.journal.count .addKeyslot

theorem keyring_noted {kind : CallKind} (h : kind ≠ .addKeyslot) :
    (w.noted kind).keyring = w.keyring := by
  simp only [keyring, noted, count_note, if_neg h]
  rfl

-- ---------------------------------------------------------------------------
-- Calls
-- ---------------------------------------------------------------------------

theorem keyless {kind : CallKind} {α : Type} {rest : Call (Bench δ) α} (hkind : kind ≠ .addKeyslot)
    (h : Keeps (fun w : Bench δ => w.keyring = k) (fun _ => True) rest) :
    Keeps (fun w : Bench δ => w.keyring = k) (fun _ => True) (do record kind; rest) := by
  intro w hw
  have hn : (w.noted kind).keyring = k := (keyring_noted hkind).trans hw
  exact recorded (h _ hn) fun _ _ => ⟨hn, trivial⟩

section
variable {device : Path} {name : String} {passphrase : Bytes}

theorem format_keyless {params : EncryptionParams} :
    Keeps (fun w : Bench δ => w.keyring = k) (fun _ => True) (crypto.format device params) :=
  keyless (by decide) fun _ h => h

theorem load_keyless :
    Keeps (fun w : Bench δ => w.keyring = k) (fun _ => True) (crypto.load device) :=
  keyless (by decide) fun _ h => h

theorem activate_keyless :
    Keeps (fun w : Bench δ => w.keyring = k) (fun _ => True)
      (crypto.activate device name passphrase) := by
  refine keyless (by decide) fun w hw => ?_
  refine Triple.bind (R := fun (_ w' : Bench δ) => w'.keyring = k) hw fun _ w' hw' => ?_
  split
  · exact hw'
  · exact Triple.throw ⟨hw', trivial⟩

theorem deactivate_keyless :
    Keeps (fun w : Bench δ => w.keyring = k) (fun _ => True) (crypto.deactivate name) :=
  keyless (by decide) fun _ h => h

theorem erasing_keyless :
    (crypto (δ := δ)).KeepsErasing device fun w => w.keyring = k where
  load := load_keyless
  maxKeyslots _ := keyless (by decide) fun _ h => h
  keyslotStatus _ := keyless (by decide) fun _ h => h
  destroyKeyslot _ := keyless (by decide) fun _ h => h

theorem filesystem_keyless :
    (filesystem (δ := δ)).Preserves fun w => w.keyring = k where
  makeFilesystem _ _ _ := keyless (by decide) fun _ h => h
  checkFilesystem _ _ _ := keyless (by decide) fun _ h => h
  mount _ _ _ _ := keyless (by decide) fun _ h => h
  unmount _ := keyless (by decide) fun _ h => h
  createDirectory _ := keyless (by decide) fun _ h => h
  removeDirectory _ := keyless (by decide) fun _ h => h
  directoryExists _ _ h := (keyring_noted (by decide)).trans h

theorem addKeyslot_triple (hw : w.keyring = k) :
    Triple (crypto.addKeyslot device passphrase) w
      (fun _ w' => k.armed .addKeyslot = none ∧ w'.keyring =
        { k with passphrase := some passphrase, additions := k.additions + 1 })
      (fun _ w' => ∃ code, k.armed .addKeyslot = some code ∧ w'.keyring =
        { k with additions := k.additions + 1 }) := by
  subst hw
  have hn : (w.noted .addKeyslot).keyring =
      { w.keyring with additions := w.keyring.additions + 1 } := by
    simp only [keyring, noted, count_note]
    rfl
  refine Triple.bind (Triple.mono record_triple (fun _ _ h => h) ?_) ?_
  · rintro cause _ ⟨rfl, code, ha, -⟩
    exact ⟨code, ha, hn⟩
  · rintro _ _ ⟨rfl, ha⟩
    exact ⟨ha, congrArg (fun k => { k with passphrase := some passphrase }) hn⟩

theorem changePassphrase_triple {old new : Bytes} :
    Triple (crypto.changePassphrase device old new) w
      (fun _ w' => w'.header.passphrase = some new)
      (fun _ w' => w'.header.passphrase = w.header.passphrase) :=
  recorded rfl fun _ _ => rfl

end

-- ---------------------------------------------------------------------------
-- Operations
-- ---------------------------------------------------------------------------

theorem unlock_keyless {password : Bytes} :
    Keeps (fun w : Bench δ => w.keyring = k) (fun _ => True) (v.unlock (backends d) password) := by
  rw [Volume.unlock_eq]
  refine Keeps.bind Volume.require_keeps fun _ => ?_
  refine Keeps.bind (Keeps.step load_keyless fun _ => trivial) fun _ => ?_
  refine Keeps.bind (Keeps.step activate_keyless fun _ => trivial) fun _ => ?_
  refine Keeps.bind (Keeps.undoing deactivate_keyless ?_ fun _ => trivial) fun _ => Keeps.pure
  exact Volume.mountFilesystem_keeps filesystem_keyless

theorem lock_keyless :
    Keeps (fun w : Bench δ => w.keyring = k) (fun _ => True) (v.lock (backends d)) := by
  rw [Volume.lock_eq]
  refine Keeps.bind Volume.require_keeps fun _ => ?_
  refine Keeps.bind (Keeps.step (filesystem_keyless.unmount _) fun _ => trivial) fun _ => ?_
  refine Keeps.bind (Keeps.step (filesystem_keyless.removeDirectory _) fun _ => trivial) fun _ => ?_
  exact Keeps.bind (Keeps.step deactivate_keyless fun _ => trivial) fun _ => Keeps.pure

theorem makeFilesystem_keyless {t : FilesystemType} :
    Keeps (fun w : Bench δ => w.keyring = k) (fun _ => True)
      (v.makeFilesystem (backends d) t) := by
  refine Keeps.bind (Keeps.step (filesystem_keyless.makeFilesystem _ _ _) fun _ => trivial)
    fun _ => ?_
  exact Keeps.step (filesystem_keyless.checkFilesystem _ _ _) fun _ => trivial

theorem format_formatted {password : Bytes} {t : FilesystemType} (hw : w.keyring = k) :
    Triple (v.format (backends d) password t) w (fun _ w' => k.Formatted password w'.keyring)
      (fun _ w' => k.Formatted password w'.keyring) := by
  have untouched : ∀ {w' : Bench δ}, w'.keyring = k → k.Formatted password w'.keyring := by
    rintro w' rfl
    exact .untouched
  rw [Volume.format_eq]
  refine Triple.bind (Triple.mono (Volume.require_keeps w hw) (fun _ _ h => h)
    fun _ _ h => untouched h.1) fun _ w₁ h₁ => ?_
  refine Triple.bind (Triple.step (Triple.mono (format_keyless w₁ h₁) (fun _ _ h => h)
    fun _ _ h => untouched h.1)) fun _ w₂ h₂ => ?_
  refine Triple.bind (Triple.step (Triple.mono (addKeyslot_triple h₂) (fun _ _ h => h) ?_)) ?_
  · rintro _ w₃ ⟨code, ha, h₃⟩
    rw [h₃]
    exact .refused ha
  rintro _ w₃ ⟨ha, h₃⟩
  -- from here on the keyslot is there, whatever fails
  suffices h : Keeps (fun w : Bench δ => w.keyring = w₃.keyring) (fun _ => True) _ by
    refine Triple.mono (h w₃ rfl) ?_ ?_
    · intro _ w₄ h₄
      rw [h₄, h₃]
      exact .added ha
    · rintro _ w₄ ⟨h₄, -⟩
      rw [h₄, h₃]
      exact .added ha
  refine Keeps.bind (Keeps.step load_keyless fun _ => trivial) fun _ => ?_
  refine Keeps.bind (Keeps.step activate_keyless fun _ => trivial) fun _ => ?_
  refine Keeps.bind (Keeps.undoing deactivate_keyless ?_ fun _ => trivial) fun _ => Keeps.pure
  exact Keeps.bind makeFilesystem_keyless fun _ => Volume.mountFilesystem_keeps filesystem_keyless

theorem changePassword_sets {old new : Bytes} :
    Triple (v.changePassword (backends d) old new) w
      (fun _ w' => w'.header.passphrase = some new)
      (fun _ w' => w'.header.passphrase = w.header.passphrase) := by
  have passphrase : ∀ {w' : Bench δ}, w'.keyring = w.keyring →
      w'.header.passphrase = w.header.passphrase := fun h => congrArg Keyring.passphrase h
  refine Triple.bind (Triple.step (Triple.mono (load_keyless w rfl) (fun _ _ h => h)
    fun _ _ h => passphrase h.1)) fun _ w₁ h₁ => ?_
  refine Triple.bind (Triple.step (Triple.mono changePassphrase_triple (fun _ _ h => h) ?_)) ?_
  · intro _ w₂ h₂
    exact h₂.trans (passphrase h₁)
  · intro _ w₂ h₂
    exact Triple.pure h₂

/-- Unlocking succeeds only with a passphrase that the header accepts. -/
theorem unlock_accepts {password : Bytes} :
    Triple (v.unlock (backends d) password) w (fun _ _ => w.header.accepts password = true)
      (fun _ _ => True) := by
  have same : ∀ {w' : Bench δ}, w'.keyring = w.keyring →
      w'.header.accepts password = w.header.accepts password := by
    intro w' h
    have hp : w'.header.passphrase = w.header.passphrase := congrArg Keyring.passphrase h
    simp only [Header.accepts, hp]
  rw [Volume.unlock_eq]
  refine Triple.bind (Triple.mono (Volume.require_keeps (K := fun w₁ => w₁.keyring = w.keyring)
    w rfl) (fun _ _ h => h) fun _ _ _ => trivial) fun _ w₁ h₁ => ?_
  refine Triple.bind (Triple.step (Triple.mono (load_keyless w₁ h₁) (fun _ _ h => h)
    fun _ _ _ => trivial)) fun _ w₂ h₂ => ?_
  refine Triple.bind (R := fun _ _ => w.header.accepts password = true) (Triple.step ?_)
    fun _ w₃ ha => ?_
  · refine recorded ?_ fun _ _ => trivial
    refine Triple.bind (R := fun (a _ : Bench δ) => a.keyring = w.keyring)
      ((keyring_noted (by decide)).trans h₂) fun a w₃ h₃ => ?_
    split
    · rename_i ha
      exact (same h₃).symm.trans ha
    · exact Triple.throw trivial
  · exact Triple.mono Triple.trivial (fun _ _ _ => ha) fun _ _ _ => trivial

end Bench

-- ---------------------------------------------------------------------------
-- Histories
-- ---------------------------------------------------------------------------

variable {d : BlockDevices δ η} {m : Managed (Bench δ)}

theorem Event.passphrase_of_formatted {e : Event δ} {password : Bytes} {t : FilesystemType}
    (hop : e.operation = .format password t)
    (h : e.before.world.keyring.Formatted password e.after.world.keyring) :
    e.after.world.header.passphrase = e.sets?.or e.before.world.header.passphrase := by
  have hsets : e.sets? = if e.Did .addKeyslot then some password else none := by
    simp only [Event.sets?, hop]
  have hdid : e.Did .addKeyslot ↔ e.before.world.keyring.additions <
      e.after.world.keyring.additions ∧ e.before.world.keyring.armed .addKeyslot = none := Iff.rfl
  show e.after.world.keyring.passphrase = e.sets?.or e.before.world.keyring.passphrase
  simp only [hsets, hdid]
  generalize e.after.world.keyring = k at h
  cases h with
  | untouched =>
    rw [if_neg fun hd => Nat.lt_irrefl _ hd.1]
    rfl
  | refused ha =>
    rw [if_neg fun hd => by cases ha.symm.trans hd.2]
    rfl
  | added ha =>
    rw [if_pos ⟨Nat.lt_succ_self _, ha⟩]
    rfl

/-- An operation changes the passphrase in force to the one it sets. -/
theorem Event.passphrase_after (m : Managed (Bench δ)) (operation : Operation) :
    (m.perform (Bench.backends d) operation).2.world.header.passphrase =
      (Event.of (Bench.backends d) m operation).sets?.or m.world.header.passphrase := by
  refine Managed.perform_of_triple (P := fun outcome (m' : Managed (Bench δ)) =>
    m'.world.header.passphrase =
      (Event.sets? ⟨m, operation, outcome, m'⟩).or m.world.header.passphrase) ?_
  have quiet : ∀ {α : Type} {x : EStateM Failure (Bench δ) α},
      Keeps (fun w : Bench δ => w.keyring = m.world.keyring) (fun _ => True) x →
      Triple x m.world (fun _ w => w.header.passphrase = m.world.header.passphrase)
        (fun _ w => w.header.passphrase = m.world.header.passphrase) := fun h =>
    Triple.mono (h _ rfl) (fun _ _ h => congrArg Keyring.passphrase h)
      fun _ _ h => congrArg Keyring.passphrase h.1
  rw [Operation.run_eq]
  cases operation with
  | format password t =>
    refine Triple.bind (Triple.mono (Bench.format_formatted rfl) (fun _ _ h => h) ?_) ?_
    · intro f w h
      exact Event.passphrase_of_formatted (e := ⟨m, .format password t, _, _⟩) rfl h
    · intro _ w h
      exact Triple.pure (Event.passphrase_of_formatted (e := ⟨m, .format password t, _, _⟩) rfl h)
  | changePassword old new =>
    refine Triple.bind (Triple.mono Bench.changePassword_sets (fun _ _ h => h) fun _ _ h => h) ?_
    intro _ w h
    exact Triple.pure h
  | unlock password =>
    exact Triple.bind (quiet Bench.unlock_keyless) fun _ _ h => Triple.pure h
  | lock => exact Triple.bind (quiet Bench.lock_keyless) fun _ _ h => Triple.pure h
  | erase request =>
    exact Triple.bind (quiet (Bench.erase_deviceFree (fun _ _ h => h) Bench.erasing_keyless))
      fun _ _ h => Triple.pure h
  | enableBkops =>
    exact Triple.bind (quiet (Bench.enableBkops_deviceFree fun _ _ h => h))
      fun _ _ h => Triple.pure h
  | refresh =>
    exact Triple.bind (quiet (Bench.refresh_deviceFree fun _ _ h => h)) fun _ _ h => Triple.pure h

theorem passphrase_of_history {R : δ → δ → Prop} {start : Managed (Bench δ)}
    {events : List (Event δ)} (h : History (Bench.backends d) R start events m) :
    m.world.header.passphrase = inForce start.world.header.passphrase events := by
  induction h with
  | start => rfl
  | perform operation _ ih =>
    rw [Event.passphrase_after, ih, inForce, inForce, List.findSome?_cons]
    cases Event.sets? _ <;> rfl
  | arm _ _ _ ih => exact ih
  | disarm _ ih => exact ih
  | rearrange _ _ _ ih => exact ih

theorem Header.accepts_iff {h : Header} {password : Bytes} :
    h.accepts password = true ↔ ∀ known, h.passphrase = some known → password = known := by
  unfold Header.accepts
  cases h.passphrase with
  | none => simp
  | some known =>
    simp only [beq_iff_eq, Option.some.injEq, forall_eq']
    exact eq_comm

/-- Whatever was done to a volume and whichever calls have failed: with the
failures cleared, a locked volume is unlocked by the passphrase in force and by
no other, and by any where none was ever set. -/
theorem unlocks_iff_inForce {R : δ → δ → Prop} {start : Managed (Bench δ)}
    {events : List (Event δ)} (h : History (Bench.backends d) R start events m)
    (hl : m.volume.state = .locked) (password : Bytes) :
    (∃ answer, ((cleared m).perform (Bench.backends d) (.unlock password)).1 = .ok answer) ↔
      ∀ known, inForce start.world.header.passphrase events = some known → password = known := by
  rw [← passphrase_of_history h, ← Header.accepts_iff]
  constructor
  · rintro ⟨answer, hok⟩
    have haccepts : ∀ answer, ((cleared m).perform (Bench.backends d) (.unlock password)).1 =
        .ok answer → m.world.header.accepts password = true := by
      refine Managed.perform_of_triple (P := fun outcome _ => ∀ answer, outcome = .ok answer →
        m.world.header.accepts password = true) ?_
      rw [Operation.run_eq]
      refine Triple.bind (Triple.mono Bench.unlock_accepts (fun _ _ h => h) fun _ _ _ => nofun) ?_
      exact fun _ _ ha => Triple.pure fun _ _ => ha
    exact haccepts answer hok
  · intro ha
    exact ⟨.done, (unlock_recovers hl ha).1⟩

/-- A formatting that fails at its last step has brought its passphrase into
force; a passphrase change that fails afterwards has not. -/
theorem unlocks_iff_inForce_failures :
    ∃ events m, History Bench.onDisk (fun _ _ => False) sample events m ∧
      m.volume.state = .locked ∧
      (∃ answer, ((cleared m).perform Bench.onDisk (.unlock [112])).1 = .ok answer) ∧
      ¬ ∃ answer, ((cleared m).perform Bench.onDisk (.unlock [113])).1 = .ok answer := by
  have hstart : History Bench.onDisk (fun _ _ => False) sample [] sample := .start
  have hchanged := hstart.perform (.changePassword [] [111])
  have hfailed := ((hchanged.arm .mount (-5)).perform (.format [112] .ext4)).arm
    .changePassphrase (-5)
  have h := hfailed.perform (.changePassword [112] [113])
  refine ⟨_, _, h, rfl, (unlocks_iff_inForce h rfl [112]).mpr ?_, fun hok => ?_⟩
  · rintro known ⟨⟩
    rfl
  · exact absurd ((unlocks_iff_inForce h rfl [113]).mp hok [112] rfl) (by decide)

end EmmcVault.Memory
