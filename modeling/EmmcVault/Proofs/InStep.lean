import EmmcVault.Proofs.Buffer
import EmmcVault.Proofs.Footprint
import EmmcVault.Proofs.PatternStream

/-!
# Erasing two devices alike

A plain store gives back the octets written to it, moves all that it is asked
for within its length, and takes no card commands. Whatever can be asked of the
erase engine and of background operations, two plain stores with the same
content answer it alike and end with the same content.
-/

namespace EmmcVault

open Text

variable {ε ε' κ σ σ' τ τ' η η' α β : Type}

-- ---------------------------------------------------------------------------
-- Two runs on two worlds
-- ---------------------------------------------------------------------------

/-- Both runs succeed with one value and end as `Q` says, or both fail and end
as `E` says. -/
def InStep (x : EStateM ε σ α) (x' : EStateM ε σ' α) (s : σ) (s' : σ') (Q : α → σ → σ' → Prop)
    (E : ε → ε → σ → σ' → Prop) : Prop :=
  match x s, x' s' with
  | .ok a t, .ok a' t' => a' = a ∧ Q a t t'
  | .error e t, .error e' t' => E e e' t t'
  | _, _ => False

namespace InStep

variable {x : EStateM ε σ α} {x' : EStateM ε σ' α} {s : σ} {s' : σ'} {Q Q' : α → σ → σ' → Prop}
  {E E' : ε → ε → σ → σ' → Prop}

theorem of_ok {a : α} {t : σ} {t' : σ'} (hx : x s = .ok a t) (hx' : x' s' = .ok a t')
    (hq : Q a t t') : InStep x x' s s' Q E := by
  simp only [InStep, hx, hx']
  exact ⟨trivial, hq⟩

theorem of_error {e e' : ε} {t : σ} {t' : σ'} (hx : x s = .error e t) (hx' : x' s' = .error e' t')
    (he : E e e' t t') : InStep x x' s s' Q E := by
  simp only [InStep, hx, hx']
  exact he

theorem cases (h : InStep x x' s s' Q E) :
    (∃ a t t', x s = .ok a t ∧ x' s' = .ok a t' ∧ Q a t t') ∨
      ∃ e e' t t', x s = .error e t ∧ x' s' = .error e' t' ∧ E e e' t t' := by
  unfold InStep at h
  split at h
  · obtain ⟨rfl, hq⟩ := h
    exact .inl ⟨_, _, _, ‹_›, ‹_›, hq⟩
  · exact .inr ⟨_, _, _, _, ‹_›, ‹_›, h⟩
  · exact h.elim

theorem pure {a : α} (h : Q a s s') : InStep (Pure.pure a) (Pure.pure a) s s' Q E :=
  of_ok rfl rfl h

theorem throw {e e' : ε} (h : E e e' s s') :
    InStep (throw e : EStateM ε σ α) (throw e') s s' Q E :=
  of_error rfl rfl h

theorem mono (h : InStep x x' s s' Q E) (hq : ∀ a t t', Q a t t' → Q' a t t')
    (he : ∀ e e' t t', E e e' t t' → E' e e' t t') : InStep x x' s s' Q' E' := by
  obtain ⟨a, t, t', hx, hx', ha⟩ | ⟨e, e', t, t', hx, hx', hf⟩ := h.cases
  · exact of_ok hx hx' (hq _ _ _ ha)
  · exact of_error hx hx' (he _ _ _ _ hf)

theorem bind {f : α → EStateM ε σ β} {f' : α → EStateM ε σ' β} {R : α → σ → σ' → Prop}
    {Q : β → σ → σ' → Prop} (h : InStep x x' s s' R E)
    (hf : ∀ a t t', R a t t' → InStep (f a) (f' a) t t' Q E) :
    InStep (x >>= f) (x' >>= f') s s' Q E := by
  show InStep (EStateM.bind x f) (EStateM.bind x' f') s s' Q E
  obtain ⟨a, t, t', hx, hx', ha⟩ | ⟨e, e', t, t', hx, hx', he⟩ := h.cases
  · have hrest := hf a t t' ha
    simpa only [InStep, EStateM.bind, hx, hx'] using hrest
  · simpa only [InStep, EStateM.bind, hx, hx'] using he

theorem adaptExcept {f : ε → ε'} {E : ε' → ε' → σ → σ' → Prop}
    (h : InStep x x' s s' Q fun e e' => E (f e) (f e')) :
    InStep (x.adaptExcept f) (x'.adaptExcept f) s s' Q E := by
  obtain ⟨a, t, t', hx, hx', ha⟩ | ⟨e, e', t, t', hx, hx', he⟩ := h.cases
  · exact of_ok (by simp only [EStateM.adaptExcept, hx]) (by simp only [EStateM.adaptExcept, hx']) ha
  · exact of_error (by simp only [EStateM.adaptExcept, hx])
      (by simp only [EStateM.adaptExcept, hx']) he

theorem ofExcept {r : Except ε α} (hq : ∀ a, Q a s s') (he : ∀ e, E e e s s') :
    InStep (MonadExcept.ofExcept r : EStateM ε σ α) (MonadExcept.ofExcept r) s s' Q E := by
  cases r with
  | ok a => exact pure (hq a)
  | error e => exact throw (he e)

theorem ite {c : Prop} [Decidable c] {y : EStateM ε σ α} {y' : EStateM ε σ' α}
    (hx : c → InStep x x' s s' Q E) (hy : ¬ c → InStep y y' s s' Q E) :
    InStep (if c then x else y) (if c then x' else y') s s' Q E := by
  split
  · exact hx ‹_›
  · exact hy ‹_›

/-- Two devices that open; `J` holds from there to their closing. -/
theorem withHandle {d : BlockDevices σ η} {d' : BlockDevices σ' η'} {path : Path} {mode : OpenMode}
    {refused : BackendError → ε} {body : EStateM ε (σ × η) α} {body' : EStateM ε (σ' × η') α}
    {J : σ × η → σ' × η' → Prop}
    (ho : ∃ e t e' t', d.openHandle path mode s = .ok e t ∧ d'.openHandle path mode s' = .ok e' t' ∧
      J (t, e) (t', e'))
    (hb : ∀ u u', J u u' → InStep body body' u u' (fun a u u' => Q a (d.close u) (d'.close u'))
      fun e e' u u' => E e e' (d.close u) (d'.close u')) :
    InStep (d.withHandle path mode refused body) (d'.withHandle path mode refused body') s s'
      Q E := by
  obtain ⟨e, t, e', t', hopen, hopen', hj⟩ := ho
  obtain ⟨a, u, u', hx, hx', ha⟩ | ⟨f, f', u, u', hx, hx', hf⟩ := (hb _ _ hj).cases
  · exact of_ok (by simp only [BlockDevices.withHandle, hopen, hx])
      (by simp only [BlockDevices.withHandle, hopen', hx']) ha
  · exact of_error (by simp only [BlockDevices.withHandle, hopen, hx])
      (by simp only [BlockDevices.withHandle, hopen', hx']) hf

/-- Two loops over the same blocks. -/
theorem blocks {size : Nat} {positive : 0 < size} {E : ε → ε → τ → τ' → Prop}
    {step : (offset length : Nat) → α → EStateM ε τ α}
    {step' : (offset length : Nat) → α → EStateM ε τ' α} {total : Nat}
    (Inv : Nat → τ → τ' → Prop)
    (hstep : ∀ offset length a t t', offset + length ≤ total → Inv offset t t' →
      InStep (step offset length a) (step' offset length a) t t' (fun _ => Inv (offset + length)) E)
    {offset remaining : Nat} {a : α} {t : τ} {t' : τ'} (hr : offset + remaining = total)
    (hi : Inv offset t t') :
    InStep (Blocks.run size positive step offset remaining a)
      (Blocks.run size positive step' offset remaining a) t t' (fun _ => Inv total) E := by
  induction remaining using Nat.strongRecOn generalizing offset a t t' with
  | ind remaining ih =>
    rw [Blocks.run, Blocks.run]
    refine ite (fun h => ?_) fun h => ?_
    · subst h
      exact pure (by simpa [← hr] using hi)
    · refine bind (hstep offset (min size remaining) a t t' (by omega) hi) fun a' t t' hi' => ?_
      exact ih _ (by omega) (by omega) hi'

end InStep

-- ---------------------------------------------------------------------------
-- Plain stores
-- ---------------------------------------------------------------------------

/-- How the content of a device shows in the states of a world: while nothing
has opened it, and while it is open in some mode at some position. -/
structure Store (σ η : Type) where
  holds : σ → ByteArray → Prop
  opened : σ × η → ByteArray → OpenMode → Nat → Prop

/-- The device at `path` is a plain store. -/
structure Store.Lawful (k : Store σ η) (d : BlockDevices σ η) (path : Path) : Prop where
  openHandle : ∀ {s content} mode, k.holds s content →
    ∃ e t, d.openHandle path mode s = .ok e t ∧ k.opened (t, e) content mode 0
  read : ∀ {u content mode position} length, k.opened u content mode position →
    mode.readable = true → position + length ≤ content.size →
    ∃ u', d.read length u = .ok ⟨length, content.extract position (position + length)⟩ u' ∧
      k.opened u' content mode (position + length)
  write : ∀ {u content mode position} bytes, k.opened u content mode position →
    mode.writable = true → position + bytes.size ≤ content.size →
    ∃ u', d.write bytes u = .ok bytes.size u' ∧
      k.opened u' (Buffer.overlay content position bytes) mode (position + bytes.size)
  sync : ∀ {u content mode position}, k.opened u content mode position →
    ∃ u', d.sync u = .ok () u' ∧ k.opened u' content mode position
  size : ∀ {u content mode position}, k.opened u content mode position →
    ∃ u', d.size u = .ok content.size.toUInt64 u' ∧ k.opened u' content mode position
  command : ∀ {u content mode position} c data, k.opened u content mode position →
    ∃ cause u', d.command c data u = .error cause u' ∧ k.opened u' content mode position
  close : ∀ {u content mode position}, k.opened u content mode position →
    k.holds (d.close u) content

-- ---------------------------------------------------------------------------
-- Devices beside another world
-- ---------------------------------------------------------------------------

namespace Beside

def onWorld (call : EStateM ε κ α) : EStateM ε (κ × σ) α := fun (k, s) =>
  match call k with
  | .ok a k => .ok a (k, s)
  | .error e k => .error e (k, s)

def onDevice (call : EStateM ε (σ × η) α) : EStateM ε ((κ × σ) × η) α := fun ((k, s), e) =>
  match call (s, e) with
  | .ok a (s, e) => .ok a ((k, s), e)
  | .error cause (s, e) => .error cause ((k, s), e)

def crypto (c : CryptoBackend κ) : CryptoBackend (κ × σ) where
  format device params := onWorld (c.format device params)
  addKeyslot device passphrase := onWorld (c.addKeyslot device passphrase)
  load device := onWorld (c.load device)
  activate device name passphrase := onWorld (c.activate device name passphrase)
  deactivate name := onWorld (c.deactivate name)
  destroyKeyslot device slot := onWorld (c.destroyKeyslot device slot)
  maxKeyslots version := onWorld (c.maxKeyslots version)
  keyslotStatus device slot := onWorld (c.keyslotStatus device slot)
  changePassphrase device old new := onWorld (c.changePassphrase device old new)

def filesystem (f : FilesystemBackend κ) : FilesystemBackend (κ × σ) where
  makeFilesystem device t options := onWorld (f.makeFilesystem device t options)
  checkFilesystem device t options := onWorld (f.checkFilesystem device t options)
  mount source target t options := onWorld (f.mount source target t options)
  unmount target := onWorld (f.unmount target)
  createDirectory path := onWorld (f.createDirectory path)
  removeDirectory path := onWorld (f.removeDirectory path)
  directoryExists path := fun (k, s) =>
    let (present, k) := f.directoryExists path k
    (present, (k, s))

def devices (d : BlockDevices σ η) : BlockDevices (κ × σ) η where
  openHandle path mode := fun (k, s) =>
    match d.openHandle path mode s with
    | .ok e s => .ok e (k, s)
    | .error cause s => .error cause (k, s)
  read length := onDevice (d.read length)
  write bytes := onDevice (d.write bytes)
  sync := onDevice d.sync
  size := onDevice d.size
  command c data := onDevice (d.command c data)
  close := fun ((k, s), e) => (k, d.close (s, e))

/-- Keys and filesystems act on one world, devices on the other. -/
def backends (c : CryptoBackend κ) (f : FilesystemBackend κ) (d : BlockDevices σ η) :
    Backends (κ × σ) η where
  crypto := crypto c
  filesystem := filesystem f
  devices := devices d

end Beside

-- ---------------------------------------------------------------------------
-- Requests to two stores
-- ---------------------------------------------------------------------------

/-- Faults of one kind, of which both or neither end the program. -/
structure Fault.Alike (f f' : Fault) : Prop where
  kind : f'.kind = f.kind
  exceedsMachine : f'.exceedsMachine = f.exceedsMachine

theorem Fault.Alike.refl {f : Fault} : f.Alike f := ⟨rfl, rfl⟩

/-- Both hold the same `n` octets, beside the same world. -/
structure Stored (k : Store σ η) (k' : Store σ' η') (n : Nat) (w : κ × σ) (w' : κ × σ') : Prop where
  beside : w'.1 = w.1
  same : ∃ content, content.size = n ∧ k.holds w.2 content ∧ k'.holds w'.2 content

/-- Both are open at one position, with the same `n` octets, beside the same
world. -/
structure Opened (k : Store σ η) (k' : Store σ' η') (n : Nat) (mode : OpenMode) (position : Nat)
    (u : (κ × σ) × η) (u' : (κ × σ') × η') : Prop where
  beside : u'.1.1 = u.1.1
  same : ∃ content, content.size = n ∧ k.opened (u.1.2, u.2) content mode position ∧
    k'.opened (u'.1.2, u'.2) content mode position

/-- Both are still open at one position. -/
def StillOpen (k : Store σ η) (k' : Store σ' η') (n : Nat) (mode : OpenMode)
    (u : (κ × σ) × η) (u' : (κ × σ') × η') : Prop :=
  ∃ position, Opened k k' n mode position u u'

section
variable {k : Store σ η} {k' : Store σ' η'} {d : BlockDevices σ η} {d' : BlockDevices σ' η'}
  {path : Path} {n position : Nat} {mode : OpenMode} {u : (κ × σ) × η} {u' : (κ × σ') × η'}
  {E : BackendError → BackendError → (κ × σ) × η → (κ × σ') × η' → Prop}

/-- What succeeds on two open devices succeeds beside the world too. -/
theorem Beside.onDevice_inStep {call : Call (σ × η) α} {call' : Call (σ' × η') α} {a : α}
    {position' : Nat} {content content' : ByteArray} {r : σ × η} {r' : σ' × η'}
    (hu : u'.1.1 = u.1.1) (hcall : call (u.1.2, u.2) = .ok a r)
    (hcall' : call' (u'.1.2, u'.2) = .ok a r') (hsize : content'.size = content.size)
    (hr : k.opened r content' mode position') (hr' : k'.opened r' content' mode position') :
    InStep (Beside.onDevice call) (Beside.onDevice call') u u'
      (fun b t t' => b = a ∧ Opened k k' content.size mode position' t t') E := by
  obtain ⟨⟨w, s⟩, e⟩ := u
  obtain ⟨⟨w', s'⟩, e'⟩ := u'
  obtain rfl : w' = w := hu
  have hx : Beside.onDevice call ((w', s), e) = .ok a ((w', r.1), r.2) := by
    simp only [Beside.onDevice, hcall]
  have hx' : Beside.onDevice call' ((w', s'), e') = .ok a ((w', r'.1), r'.2) := by
    simp only [Beside.onDevice, hcall']
  exact InStep.of_ok hx hx' ⟨rfl, rfl, content', hsize, hr, hr'⟩

variable (laws : k.Lawful d path) (laws' : k'.Lawful d' path)
include laws laws'

theorem read_inStep {length : Nat} (hu : Opened k k' n mode position u u')
    (hmode : mode.readable = true) (hfit : position + length ≤ n) :
    InStep ((Beside.devices d).read length) ((Beside.devices d').read length) u u'
      (fun r t t' => r.count = length ∧ Opened k k' n mode (position + length) t t') E := by
  obtain ⟨hbeside, content, rfl, ho, ho'⟩ := hu
  obtain ⟨t, hread, ht⟩ := laws.read length ho hmode hfit
  obtain ⟨t', hread', ht'⟩ := laws'.read length ho' hmode hfit
  refine InStep.mono (Beside.onDevice_inStep hbeside hread hread' rfl ht ht') ?_ fun _ _ _ _ h => h
  rintro _ _ _ ⟨rfl, hopen⟩
  exact ⟨rfl, hopen⟩

theorem write_inStep {bytes : ByteArray} (hu : Opened k k' n mode position u u')
    (hmode : mode.writable = true) (hfit : position + bytes.size ≤ n) :
    InStep ((Beside.devices d).write bytes) ((Beside.devices d').write bytes) u u'
      (fun moved t t' => moved = bytes.size ∧ Opened k k' n mode (position + bytes.size) t t')
      E := by
  obtain ⟨hbeside, content, rfl, ho, ho'⟩ := hu
  obtain ⟨t, hwrite, ht⟩ := laws.write bytes ho hmode hfit
  obtain ⟨t', hwrite', ht'⟩ := laws'.write bytes ho' hmode hfit
  exact Beside.onDevice_inStep hbeside hwrite hwrite' (Buffer.overlay_size hfit) ht ht'

theorem sync_inStep (hu : Opened k k' n mode position u u') :
    InStep (Beside.devices d).sync (Beside.devices d').sync u u'
      (fun _ t t' => Opened k k' n mode position t t') E := by
  obtain ⟨hbeside, content, rfl, ho, ho'⟩ := hu
  obtain ⟨t, hsync, ht⟩ := laws.sync ho
  obtain ⟨t', hsync', ht'⟩ := laws'.sync ho'
  exact InStep.mono (Beside.onDevice_inStep hbeside hsync hsync' rfl ht ht') (fun _ _ _ h => h.2)
    fun _ _ _ _ h => h

theorem size_inStep (hu : Opened k k' n mode position u u') :
    InStep (Beside.devices d).size (Beside.devices d').size u u'
      (fun total t t' => total.toNat ≤ n ∧ Opened k k' n mode position t t') E := by
  obtain ⟨hbeside, content, rfl, ho, ho'⟩ := hu
  obtain ⟨t, hsize, ht⟩ := laws.size ho
  obtain ⟨t', hsize', ht'⟩ := laws'.size ho'
  refine InStep.mono (Beside.onDevice_inStep hbeside hsize hsize' rfl ht ht') ?_ fun _ _ _ _ h => h
  rintro _ _ _ ⟨rfl, hopen⟩
  exact ⟨Nat.mod_le _ _, hopen⟩

theorem command_inStep {c : Mmc.Command} {data : ByteArray}
    {Q : ByteArray → (κ × σ) × η → (κ × σ') × η' → Prop} (hu : Opened k k' n mode position u u') :
    InStep ((Beside.devices d).command c data) ((Beside.devices d').command c data) u u' Q
      (fun _ _ t t' => Opened k k' n mode position t t') := by
  obtain ⟨⟨w, s⟩, e⟩ := u
  obtain ⟨⟨w', s'⟩, e'⟩ := u'
  obtain ⟨hbeside, content, hn, ho, ho'⟩ := hu
  obtain rfl : w' = w := hbeside
  obtain ⟨cause, t, hcommand, ht⟩ := laws.command c data ho
  obtain ⟨cause', t', hcommand', ht'⟩ := laws'.command c data ho'
  have hx : (Beside.devices d).command c data ((w', s), e) = .error cause ((w', t.1), t.2) := by
    simp only [Beside.devices, Beside.onDevice, hcommand]
  have hx' : (Beside.devices d').command c data ((w', s'), e') =
      .error cause' ((w', t'.1), t'.2) := by
    simp only [Beside.devices, Beside.onDevice, hcommand']
  exact InStep.of_error hx hx' ⟨rfl, content, hn, ht, ht'⟩

theorem readExtCsd_inStep {Q : Mmc.ExtCsd → (κ × σ) × η → (κ × σ') × η' → Prop}
    (hu : Opened k k' n mode position u u') :
    InStep (Beside.devices d).readExtCsd (Beside.devices d').readExtCsd u u' Q
      (fun _ _ t t' => Opened k k' n mode position t t') :=
  InStep.bind (R := fun _ _ _ => False) (command_inStep laws laws' hu) fun _ _ _ h => h.elim

/-- Both devices open, are used alike and are closed. -/
theorem withHandle_inStep {A : ε → ε → Prop} {refused : BackendError → ε}
    {body : EStateM ε ((κ × σ) × η) α} {body' : EStateM ε ((κ × σ') × η') α} {w : κ × σ}
    {w' : κ × σ'} (hw : Stored k k' n w w')
    (hb : ∀ u u', Opened k k' n mode 0 u u' → InStep body body' u u'
      (fun _ => StillOpen k k' n mode) fun e e' t t' => A e e' ∧ StillOpen k k' n mode t t') :
    InStep ((Beside.devices d).withHandle path mode refused body)
      ((Beside.devices d').withHandle path mode refused body') w w'
      (fun _ => Stored k k' n) fun e e' t t' => A e e' ∧ Stored k k' n t t' := by
  have closed : ∀ (u : (κ × σ) × η) (u' : (κ × σ') × η'), StillOpen k k' n mode u u' →
      Stored k k' n ((Beside.devices d).close u) ((Beside.devices d').close u') := by
    rintro u u' ⟨position, hbeside, content, hn, ho, ho'⟩
    exact ⟨hbeside, content, hn, laws.close ho, laws'.close ho'⟩
  obtain ⟨w, s⟩ := w
  obtain ⟨w', s'⟩ := w'
  obtain ⟨hbeside, content, hn, hc, hc'⟩ := hw
  obtain ⟨e, t, hopen, ho⟩ := laws.openHandle mode hc
  obtain ⟨e', t', hopen', ho'⟩ := laws'.openHandle mode hc'
  refine InStep.withHandle (J := Opened k k' n mode 0)
    ⟨e, (w, t), e', (w', t'), ?_, ?_, hbeside, content, hn, ho, ho'⟩ fun u u' hu => ?_
  · simp only [Beside.devices, hopen]
  · simp only [Beside.devices, hopen']
  · exact InStep.mono (hb u u' hu) (fun _ t t' ht => closed t t' ht)
      fun _ _ t t' ht => ⟨ht.1, closed t t' ht.2⟩

-- ---------------------------------------------------------------------------
-- Parts of an erase
-- ---------------------------------------------------------------------------

variable {c : CryptoBackend κ} {f : FilesystemBackend κ} {v : Volume} {offset length : Nat}

theorem length_inStep {bytes : Option UInt64} (hbytes : ∀ m, bytes = some m → m.toNat ≤ n)
    (hu : Opened k k' n mode position u u') :
    InStep ((v.eraseTarget (Beside.backends c f d)).length bytes)
      ((v.eraseTarget (Beside.backends c f d')).length bytes) u u'
      (fun total t t' => total.toNat ≤ n ∧ Opened k k' n mode position t t')
      fun e e' t t' => e.Alike e' ∧ StillOpen k k' n mode t t' := by
  cases bytes with
  | some m => exact InStep.pure ⟨hbytes m rfl, hu⟩
  | none => exact InStep.adaptExcept (size_inStep laws laws' hu)

omit laws laws' in
theorem requireBlock_inStep {size : Nat} (hu : Opened k k' n mode position u u') :
    InStep (EraseTarget.requireBlock size) (EraseTarget.requireBlock size) u u'
      (fun _ t t' => Opened k k' n mode position t t')
      fun e e' t t' => e.Alike e' ∧ StillOpen k k' n mode t t' := by
  unfold EraseTarget.requireBlock
  exact InStep.ite (fun _ => InStep.pure hu) fun _ => InStep.throw ⟨.refl, position, hu⟩

theorem PatternErase.writeBlock_inStep {stream : PatternStream}
    (hu : Opened k k' n .write offset u u') (hfit : offset + length ≤ n) :
    InStep (writeBlock (v.eraseTarget (Beside.backends c f d)) offset length stream)
      (writeBlock (v.eraseTarget (Beside.backends c f d')) offset length stream) u u'
      (fun _ t t' => Opened k k' n .write (offset + length) t t')
      fun e e' t t' => e.Alike e' ∧ StillOpen k k' n .write t t' := by
  have hsize : (stream.fill length).1.size = length := PatternStream.size_fill
  unfold writeBlock
  generalize stream.fill length = filled at hsize
  obtain ⟨block, rest⟩ := filled
  dsimp only at hsize ⊢
  subst hsize
  refine InStep.bind (InStep.adaptExcept (write_inStep laws laws' hu rfl hfit))
    fun moved t t' ⟨hmoved, ht⟩ => ?_
  rw [if_pos hmoved, if_pos hmoved]
  exact InStep.pure ht

theorem PatternErase.checkBlock_inStep {stream : PatternStream}
    (hu : Opened k k' n .read offset u u') (hfit : offset + length ≤ n) :
    InStep (checkBlock (v.eraseTarget (Beside.backends c f d)) offset length stream)
      (checkBlock (v.eraseTarget (Beside.backends c f d')) offset length stream) u u'
      (fun _ t t' => Opened k k' n .read (offset + length) t t')
      fun e e' t t' => e.Alike e' ∧ StillOpen k k' n .read t t' := by
  unfold checkBlock
  refine InStep.bind (InStep.adaptExcept (read_inStep laws laws' hu rfl hfit))
    fun actual t t' ⟨_, ht⟩ => ?_
  refine InStep.ite (fun _ => ?_) fun _ => InStep.throw ⟨.refl, _, ht⟩
  split
  · exact InStep.throw ⟨.refl, _, ht⟩
  · exact InStep.pure ht

omit laws laws' in
/-- Transfers each of which moves all that is left of the block. -/
theorem ZeroErase.transfer_inStep {J : Nat → ByteArray → τ → τ' → Prop} {direction : Direction}
    {attempts : UInt32} {step : Nat → ByteArray → Call τ (Nat × ByteArray)}
    {step' : Nat → ByteArray → Call τ' (Nat × ByteArray)}
    (hstep : ∀ done buffer t t', done ≤ length → J done buffer t t' →
      InStep (step done buffer) (step' done buffer) t t'
        (fun r t t' => r.1 = length - done ∧ J length r.2 t t') fun _ _ _ _ => False)
    {left done : Nat} {buffer : ByteArray} {t : τ} {t' : τ'} (hdone : done ≤ length)
    (ht : J done buffer t t') :
    InStep (transfer direction offset length attempts step left done buffer)
      (transfer direction offset length attempts step' left done buffer) t t'
      (fun block t t' => J length block t t')
      fun e e' t t' => e.Alike e' ∧ ∃ done buffer, J done buffer t t' := by
  induction left generalizing done buffer t t' with
  | zero =>
    unfold transfer
    refine InStep.ite (fun _ => InStep.throw ⟨.refl, done, buffer, ht⟩) fun hfull =>
      InStep.pure ?_
    rwa [Nat.le_antisymm (Nat.le_of_not_lt hfull) hdone]
  | succ left ih =>
    unfold transfer
    refine InStep.ite (fun _ => ?_) fun hfull => InStep.pure ?_
    · refine InStep.bind (InStep.adaptExcept (InStep.mono (hstep done buffer t t' hdone ht)
        (fun _ _ _ h => h) fun _ _ _ _ h => h.elim)) ?_
      rintro ⟨moved, rest⟩ t t' ⟨hmoved, ht⟩
      dsimp only at hmoved ht ⊢
      subst hmoved
      rw [Nat.add_sub_cancel' hdone]
      exact InStep.ite (fun _ => InStep.throw ⟨.refl, length, rest, ht⟩)
        fun _ => ih (Nat.le_refl _) ht
    · rwa [Nat.le_antisymm (Nat.le_of_not_lt hfull) hdone]

theorem ZeroErase.writeBlock_inStep {a : Unit} (hu : Opened k k' n .write offset u u')
    (hfit : offset + length ≤ n) :
    InStep (writeBlock (v.eraseTarget (Beside.backends c f d)) offset length a)
      (writeBlock (v.eraseTarget (Beside.backends c f d')) offset length a) u u'
      (fun _ t t' => Opened k k' n .write (offset + length) t t')
      fun e e' t t' => e.Alike e' ∧ StillOpen k k' n .write t t' := by
  unfold writeBlock
  refine InStep.bind (InStep.mono (transfer_inStep (J := fun done buffer t t' =>
    buffer.size = length ∧ Opened k k' n .write (offset + done) t t') ?_ (Nat.zero_le _)
    ⟨Array.size_replicate, hu⟩) (fun _ _ _ h => h) ?_) fun block t t' ht => InStep.pure ht.2
  · rintro done buffer t t' hdone ⟨hsize, ht⟩
    have hrest : (buffer.extract done length).size = length - done := by
      rw [ByteArray.size_extract, hsize, Nat.min_self]
    refine InStep.bind (write_inStep laws laws' ht rfl (by omega)) fun moved t t' ⟨hmoved, ht⟩ => ?_
    rw [hrest] at hmoved ht
    rw [Nat.add_assoc, Nat.add_sub_cancel' hdone] at ht
    exact InStep.pure ⟨hmoved, hsize, ht⟩
  · rintro e e' t t' ⟨he, done, buffer, -, ht⟩
    exact ⟨he, _, ht⟩

theorem ZeroErase.checkBlock_inStep {a : Unit} (hu : Opened k k' n .read offset u u')
    (hfit : offset + length ≤ n) :
    InStep (checkBlock (v.eraseTarget (Beside.backends c f d)) offset length a)
      (checkBlock (v.eraseTarget (Beside.backends c f d')) offset length a) u u'
      (fun _ t t' => Opened k k' n .read (offset + length) t t')
      fun e e' t t' => e.Alike e' ∧ StillOpen k k' n .read t t' := by
  unfold checkBlock
  refine InStep.bind (InStep.mono (transfer_inStep (J := fun done _ t t' =>
    Opened k k' n .read (offset + done) t t') ?_ (Nat.zero_le _) hu) (fun _ _ _ h => h) ?_)
    fun block t t' ht => ?_
  · intro done buffer t t' hdone ht
    refine InStep.bind (read_inStep laws laws' ht rfl (by omega)) fun moved t t' ⟨hmoved, ht⟩ => ?_
    rw [Nat.add_assoc, Nat.add_sub_cancel' hdone] at ht
    exact InStep.pure ⟨hmoved, ht⟩
  · rintro e e' t t' ⟨he, done, buffer, ht⟩
    exact ⟨he, _, ht⟩
  · split
    · exact InStep.throw ⟨.refl, _, ht⟩
    · exact InStep.pure ht

-- ---------------------------------------------------------------------------
-- Whole erases
-- ---------------------------------------------------------------------------

/-- An overwrite or a verification, given what is done to the blocks. -/
theorem EraseTarget.pass_inStep {body : UInt64 → EStateM Fault ((κ × σ) × η) EraseReport}
    {body' : UInt64 → EStateM Fault ((κ × σ') × η') EraseReport} {bytes : Option UInt64}
    {size : Nat} {w : κ × σ} {w' : κ × σ'} (hpath : v.identity.device = path)
    (hw : Stored k k' n w w') (hbytes : ∀ m, bytes = some m → m.toNat ≤ n)
    (hbody : ∀ (total : UInt64) u u', total.toNat ≤ n → Opened k k' n mode 0 u u' →
      InStep (body total) (body' total) u u' (fun _ => StillOpen k k' n mode)
        fun e e' t t' => e.Alike e' ∧ StillOpen k k' n mode t t') :
    InStep
      ((v.eraseTarget (Beside.backends c f d)).withDevice mode do
        let total ← (v.eraseTarget (Beside.backends c f d)).length bytes
        EraseTarget.requireBlock size
        body total)
      ((v.eraseTarget (Beside.backends c f d')).withDevice mode do
        let total ← (v.eraseTarget (Beside.backends c f d')).length bytes
        EraseTarget.requireBlock size
        body' total) w w'
      (fun _ => Stored k k' n) fun e e' t t' => e.Alike e' ∧ Stored k k' n t t' := by
  subst hpath
  refine withHandle_inStep laws laws' hw fun u u' hu => ?_
  refine InStep.bind (length_inStep laws laws' hbytes hu) fun total t t' ⟨htotal, ht⟩ => ?_
  exact InStep.bind (requireBlock_inStep ht) fun _ t t' ht => hbody total t t' htotal ht

theorem VerifyGeometry.run_inStep {w : κ × σ} {w' : κ × σ'} (hpath : v.identity.device = path)
    (hw : Stored k k' n w w') :
    InStep (run (v.eraseTarget (Beside.backends c f d))) (run (v.eraseTarget (Beside.backends c f d')))
      w w' (fun _ => Stored k k' n) fun e e' t t' => e.Alike e' ∧ Stored k k' n t t' := by
  subst hpath
  refine withHandle_inStep laws laws' hw fun u u' hu => ?_
  refine InStep.bind (InStep.adaptExcept (size_inStep laws laws' hu)) fun total t t' ⟨_, ht⟩ => ?_
  refine InStep.bind (R := fun _ => StillOpen k k' n .read) ?_ fun _ _ _ ht => InStep.pure ht
  exact InStep.ofExcept (fun _ => ⟨0, ht⟩) fun _ => ⟨.refl, 0, ht⟩

theorem PatternErase.run_inStep {w : κ × σ} {w' : κ × σ'} (hpath : v.identity.device = path)
    (hw : Stored k k' n w w') {pass : ErasePass} {bytes : Option UInt64}
    (hbytes : ∀ m, bytes = some m → m.toNat ≤ n) {size : Nat} {positive : 0 < size} :
    InStep (run (v.eraseTarget (Beside.backends c f d)) size positive pass bytes)
      (run (v.eraseTarget (Beside.backends c f d')) size positive pass bytes) w w'
      (fun _ => Stored k k' n) fun e e' t t' => e.Alike e' ∧ Stored k k' n t t' := by
  refine EraseTarget.pass_inStep laws laws' hpath hw hbytes fun total u u' htotal hu => ?_
  cases pass with
  | overwrite =>
    refine InStep.bind (InStep.blocks (Opened k k' n .write) (fun offset length stream t t' hfit ht =>
      writeBlock_inStep laws laws' ht (by omega)) (Nat.zero_add _) hu) fun _ t t' ht => ?_
    exact InStep.bind (InStep.adaptExcept (sync_inStep laws laws' ht)) fun _ t t' ht =>
      InStep.pure ⟨_, ht⟩
  | verify =>
    exact InStep.bind (InStep.blocks (Opened k k' n .read) (fun offset length stream t t' hfit ht =>
      checkBlock_inStep laws laws' ht (by omega)) (Nat.zero_add _) hu) fun _ t t' ht =>
      InStep.pure ⟨_, ht⟩

theorem ZeroErase.run_inStep {w : κ × σ} {w' : κ × σ'} (hpath : v.identity.device = path)
    (hw : Stored k k' n w w') {pass : ErasePass} {bytes : Option UInt64}
    (hbytes : ∀ m, bytes = some m → m.toNat ≤ n) {size : Nat} {positive : 0 < size} :
    InStep (run (v.eraseTarget (Beside.backends c f d)) size positive pass bytes)
      (run (v.eraseTarget (Beside.backends c f d')) size positive pass bytes) w w'
      (fun _ => Stored k k' n) fun e e' t t' => e.Alike e' ∧ Stored k k' n t t' := by
  refine EraseTarget.pass_inStep laws laws' hpath hw hbytes fun total u u' htotal hu => ?_
  cases pass with
  | overwrite =>
    refine InStep.bind (InStep.blocks (Opened k k' n .write) (fun offset length a t t' hfit ht =>
      writeBlock_inStep laws laws' ht (by omega)) (Nat.zero_add _) hu) fun _ t t' ht => ?_
    exact InStep.bind (InStep.adaptExcept (sync_inStep laws laws' ht)) fun _ t t' ht =>
      InStep.pure ⟨_, ht⟩
  | verify =>
    exact InStep.bind (InStep.blocks (Opened k k' n .read) (fun offset length a t t' hfit ht =>
      checkBlock_inStep laws laws' ht (by omega)) (Nat.zero_add _) hu) fun _ t t' ht =>
      InStep.pure ⟨_, ht⟩

theorem SanitizeErase.run_inStep {w : κ × σ} {w' : κ × σ'} (hpath : v.identity.device = path)
    (hw : Stored k k' n w w') {bytes : Option UInt64} {given : Option Mmc.ExtCsd}
    (hbytes : ∀ m, bytes = some m → m.toNat ≤ n) :
    InStep (run (v.eraseTarget (Beside.backends c f d)) bytes given)
      (run (v.eraseTarget (Beside.backends c f d')) bytes given) w w'
      (fun _ => Stored k k' n) fun e e' t t' => e.Alike e' ∧ Stored k k' n t t' := by
  subst hpath
  refine withHandle_inStep laws laws' hw fun u u' hu => ?_
  refine InStep.bind (R := fun _ => Opened k k' n .readWrite 0) ?_ fun register t t' ht => ?_
  · cases given with
    | some register => exact InStep.pure hu
    | none =>
      exact InStep.adaptExcept (InStep.mono (readExtCsd_inStep (Q := fun _ _ _ => False) laws laws' hu)
        (fun _ _ _ h => h.elim) fun _ _ _ _ ht => ⟨⟨rfl, rfl⟩, 0, ht⟩)
  refine InStep.bind (length_inStep laws laws' hbytes ht) fun expected t t' ⟨_, ht⟩ => ?_
  dsimp only
  split
  · refine InStep.bind (InStep.pure (Q := fun _ => Opened k k' n .readWrite 0) ht)
      fun plan t t' ht => ?_
    refine InStep.bind (InStep.adaptExcept (InStep.mono (command_inStep (Q := fun _ _ _ => False)
      laws laws' ht) (fun _ _ _ h => h) fun _ _ _ _ ht => ⟨⟨rfl, rfl⟩, 0, ht⟩))
      fun _ _ _ h => h.elim
  · exact InStep.throw ⟨.refl, 0, ht⟩

omit laws laws' in
/-- A call of the keys does the same beside both. -/
theorem Beside.onWorld_inStep {call : Call κ α} {w : κ × σ} {w' : κ × σ'}
    (hw : Stored k k' n w w') :
    InStep (Beside.onWorld call) (Beside.onWorld call) w w' (fun _ => Stored k k' n)
      fun e e' t t' => e' = e ∧ Stored k k' n t t' := by
  obtain ⟨w, s⟩ := w
  obtain ⟨w', s'⟩ := w'
  obtain ⟨hbeside, hsame⟩ := hw
  obtain rfl : w' = w := hbeside
  cases hcall : call w' with
  | ok a r =>
    have hx : ∀ {τ : Type} (t : τ), Beside.onWorld call (w', t) = .ok a (r, t) := fun t => by
      simp only [Beside.onWorld, hcall]
    exact InStep.of_ok (hx s) (hx s') ⟨rfl, hsame⟩
  | error e r =>
    have hx : ∀ {τ : Type} (t : τ), Beside.onWorld call (w', t) = .error e (r, t) := fun t => by
      simp only [Beside.onWorld, hcall]
    exact InStep.of_error (hx s) (hx s') ⟨rfl, rfl, hsame⟩

omit laws laws' in
theorem Beside.orFault_inStep {call : Call κ α} {fault : BackendError → Fault} {w : κ × σ}
    {w' : κ × σ'} (hw : Stored k k' n w w') :
    InStep (Call.orFault (Beside.onWorld call) fault) (Call.orFault (Beside.onWorld call) fault)
      w w' (fun _ => Stored k k' n) fun e e' t t' => e.Alike e' ∧ Stored k k' n t t' := by
  refine InStep.adaptExcept (InStep.mono (Beside.onWorld_inStep hw) (fun _ _ _ h => h) ?_)
  rintro e _ t t' ⟨rfl, ht⟩
  exact ⟨.refl, ht⟩

omit laws laws' in
theorem CryptoErase.destroyFrom_inStep {left : Nat} {slot : UInt32} {destroyed : UInt64}
    {w : κ × σ} {w' : κ × σ'} (hw : Stored k k' n w w') :
    InStep (destroyFrom (v.eraseTarget (Beside.backends c f d)) left slot destroyed)
      (destroyFrom (v.eraseTarget (Beside.backends c f d')) left slot destroyed) w w'
      (fun _ => Stored k k' n) fun e e' t t' => e.Alike e' ∧ Stored k k' n t t' := by
  induction left generalizing slot destroyed w w' with
  | zero => exact InStep.pure hw
  | succ left ih =>
    unfold destroyFrom
    refine InStep.bind (Beside.orFault_inStep hw) fun status t t' ht => ?_
    refine InStep.ite (fun _ => ?_) fun _ => ih ht
    exact InStep.bind (Beside.orFault_inStep ht) fun _ t t' ht => ih ht

omit laws laws' in
theorem CryptoErase.run_inStep {w : κ × σ} {w' : κ × σ'} (hw : Stored k k' n w w') :
    InStep (run (v.eraseTarget (Beside.backends c f d))) (run (v.eraseTarget (Beside.backends c f d')))
      w w' (fun _ => Stored k k' n) fun e e' t t' => e.Alike e' ∧ Stored k k' n t t' := by
  refine InStep.bind (Beside.orFault_inStep hw) fun version t t' ht => ?_
  refine InStep.bind (Beside.orFault_inStep ht) fun slots t t' ht => ?_
  exact InStep.bind (destroyFrom_inStep ht) fun _ t t' ht => InStep.pure ht

-- ---------------------------------------------------------------------------
-- Through a volume
-- ---------------------------------------------------------------------------

/-- The number of bytes that the request names. -/
def EraseRequest.bytes? : EraseRequest → Option UInt64
  | .pattern _ bytes | .zero _ bytes | .sanitize bytes _ => bytes
  | .verifyGeometry | .cryptoErase => none

theorem EraseTarget.run_inStep {request : EraseRequest} {w : κ × σ} {w' : κ × σ'}
    (hpath : v.identity.device = path) (hw : Stored k k' n w w')
    (hbytes : ∀ m, request.bytes? = some m → m.toNat ≤ n) :
    InStep ((v.eraseTarget (Beside.backends c f d)).run request)
      ((v.eraseTarget (Beside.backends c f d')).run request) w w'
      (fun _ => Stored k k' n) fun e e' t t' => e.Alike e' ∧ Stored k k' n t t' := by
  by_cases positive : 0 < v.settings.erase.blockSize.toNat
  · have hrun : ∀ {σ η : Type} (d : BlockDevices σ η),
        0 < (v.eraseTarget (Beside.backends c f d)).settings.blockSize.toNat := fun _ => positive
    rw [EraseTarget.run_eq (hrun d), EraseTarget.run_eq (hrun d')]
    cases request with
    | verifyGeometry => exact VerifyGeometry.run_inStep laws laws' hpath hw
    | pattern pass bytes => exact PatternErase.run_inStep laws laws' hpath hw hbytes
    | zero pass bytes => exact ZeroErase.run_inStep laws laws' hpath hw hbytes
    | sanitize bytes register => exact SanitizeErase.run_inStep laws laws' hpath hw hbytes
    | cryptoErase => exact CryptoErase.run_inStep hw
  · have hrun : ∀ {σ η : Type} (d : BlockDevices σ η),
        ¬ 0 < (v.eraseTarget (Beside.backends c f d)).settings.blockSize.toNat := fun _ => positive
    unfold EraseTarget.run
    rw [dif_neg (hrun d), dif_neg (hrun d')]
    exact InStep.throw ⟨.refl, hw⟩

theorem Volume.erase_inStep {request : EraseRequest} {w : κ × σ} {w' : κ × σ'}
    (hpath : v.identity.device = path) (hw : Stored k k' n w w')
    (hbytes : ∀ m, request.bytes? = some m → m.toNat ≤ n) :
    InStep (v.erase (Beside.backends c f d) request) (v.erase (Beside.backends c f d') request) w w'
      (fun _ => Stored k k' n) fun e e' t t' => e.fault.Alike e'.fault ∧ Stored k k' n t t' := by
  unfold Volume.erase
  refine InStep.ite (fun _ => InStep.throw ⟨.refl, hw⟩) fun _ => ?_
  exact InStep.adaptExcept (EraseTarget.run_inStep laws laws' hpath hw hbytes)

/-- Neither can enable background operations. -/
theorem Volume.enableBkops_inStep {w : κ × σ} {w' : κ × σ'} (hpath : v.identity.device = path)
    (hw : Stored k k' n w w') :
    InStep (v.enableBkops (Beside.backends c f d)) (v.enableBkops (Beside.backends c f d')) w w'
      (fun _ => Stored k k' n) fun e e' t t' => e.fault.Alike e'.fault ∧ Stored k k' n t t' := by
  subst hpath
  refine withHandle_inStep laws laws' hw fun u u' hu => ?_
  refine InStep.bind (R := fun _ _ _ => False) (InStep.adaptExcept (InStep.mono
    (readExtCsd_inStep laws laws' hu) (fun _ _ _ h => h) ?_)) fun _ _ _ h => h.elim
  exact fun _ _ t t' ht => ⟨⟨rfl, rfl⟩, 0, ht⟩

end

end EmmcVault
