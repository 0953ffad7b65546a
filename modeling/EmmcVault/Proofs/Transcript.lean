import EmmcVault.Proofs.Watched

/-!
# Transcripts

Any backends can be taken down: the same backends over a world that also keeps
every call made on them with the whole of its answer, in order. A run is taken
down without being changed, and what its transcript can be is put together from
the transcripts of its parts.
-/

namespace EmmcVault

variable {ε ε' σ τ τ' η α β : Type}

def DeviceRequest.Answer : DeviceRequest → Type
  | .read _ => Transfer
  | .write _ => Nat
  | .sync => Unit
  | .size => UInt64
  | .command .. => ByteArray

/-- What a call gives when it succeeds; of opening a device only that it is open. -/
def BackendCall.Answer : BackendCall → Type
  | .load _ => LuksVersion
  | .addKeyslot .. | .activate .. | .maxKeyslots _ | .changePassphrase .. => UInt32
  | .keyslotStatus .. => KeySlotStatus
  | .directoryExists _ => Bool
  | .request q => q.Answer
  | _ => Unit

structure Line where
  call : BackendCall
  answer : Except BackendError call.Answer

/-- A world with the transcript of the calls made on it. -/
structure Transcribed (σ : Type) where
  world : σ
  lines : List Line := []

namespace Transcribed

def take (c : BackendCall) (answer : α → c.Answer) (call : Call σ α) : Call (Transcribed σ) α :=
  fun w =>
    match call w.world with
    | .ok a world => .ok a ⟨world, w.lines ++ [⟨c, .ok (answer a)⟩]⟩
    | .error e world => .error e ⟨world, w.lines ++ [⟨c, .error e⟩]⟩

/-- A query that cannot fail. -/
def ask (path : Path) (query : StateM σ Bool) : StateM (Transcribed σ) Bool := fun w =>
  let (present, world) := query w.world
  (present, ⟨world, w.lines ++ [⟨.directoryExists path, .ok present⟩]⟩)

/-- A request to an open device. -/
def takeOpen (q : DeviceRequest) (call : Call (σ × η) q.Answer) :
    Call (Transcribed σ × η) q.Answer := fun (w, h) =>
  match call (w.world, h) with
  | .ok a (world, h) => .ok a (⟨world, w.lines ++ [⟨.request q, .ok a⟩]⟩, h)
  | .error e (world, h) => .error e (⟨world, w.lines ++ [⟨.request q, .error e⟩]⟩, h)

/-- An open device over a world with a transcript. -/
def onHandle (t : σ × η) (lines : List Line) : Transcribed σ × η := (⟨t.1, lines⟩, t.2)

/-- The same outcome with a transcript put to the state it ends in. -/
def ending (put : τ → List Line → τ') (r : EStateM.Result ε τ α) (lines : List Line) :
    EStateM.Result ε τ' α :=
  match r with
  | .ok a t => .ok a (put t lines)
  | .error e t => .error e (put t lines)

end Transcribed

open Transcribed

/-- The same backends, taken down. -/
def Backends.transcribed (b : Backends σ η) : Backends (Transcribed σ) η where
  crypto.format device params := take (.format device params) id (b.crypto.format device params)
  crypto.addKeyslot device passphrase :=
    take (.addKeyslot device passphrase) id (b.crypto.addKeyslot device passphrase)
  crypto.load device := take (.load device) id (b.crypto.load device)
  crypto.activate device name passphrase :=
    take (.activate device name passphrase) id (b.crypto.activate device name passphrase)
  crypto.deactivate name := take (.deactivate name) id (b.crypto.deactivate name)
  crypto.destroyKeyslot device slot :=
    take (.destroyKeyslot device slot) id (b.crypto.destroyKeyslot device slot)
  crypto.maxKeyslots version := take (.maxKeyslots version) id (b.crypto.maxKeyslots version)
  crypto.keyslotStatus device slot :=
    take (.keyslotStatus device slot) id (b.crypto.keyslotStatus device slot)
  crypto.changePassphrase device old new :=
    take (.changePassphrase device old new) id (b.crypto.changePassphrase device old new)
  filesystem.makeFilesystem device t options :=
    take (.makeFilesystem device t options) id (b.filesystem.makeFilesystem device t options)
  filesystem.checkFilesystem device t options :=
    take (.checkFilesystem device t options) id (b.filesystem.checkFilesystem device t options)
  filesystem.mount source target t options :=
    take (.mount source target t options) id (b.filesystem.mount source target t options)
  filesystem.unmount target := take (.unmount target) id (b.filesystem.unmount target)
  filesystem.createDirectory path :=
    take (.createDirectory path) id (b.filesystem.createDirectory path)
  filesystem.removeDirectory path :=
    take (.removeDirectory path) id (b.filesystem.removeDirectory path)
  filesystem.directoryExists path := ask path (b.filesystem.directoryExists path)
  devices.openHandle path mode :=
    take (.openHandle path mode) (fun _ => ()) (b.devices.openHandle path mode)
  devices.read length := takeOpen (.read length) (b.devices.read length)
  devices.write bytes := takeOpen (.write bytes) (b.devices.write bytes)
  devices.sync := takeOpen .sync b.devices.sync
  devices.size := takeOpen .size b.devices.size
  devices.command c data := takeOpen (.command c data) (b.devices.command c data)
  devices.close := fun (w, h) => ⟨b.devices.close (w.world, h), w.lines ++ [⟨.close, .ok ()⟩]⟩

/-- `x` is `y` over a world with a transcript. Started with the lines `before`,
it ends with lines of which `Q` holds if it succeeds and `E` if it fails. -/
def Transcribes (put : τ → List Line → τ') (x : EStateM ε τ' α) (y : EStateM ε τ α)
    (before : List Line) (Q : α → List Line → Prop) (E : ε → List Line → Prop) : Prop :=
  ∀ t, ∃ lines, x (put t before) = ending put (y t) lines ∧
    match y t with
    | .ok a _ => Q a lines
    | .error e _ => E e lines

/-- What a run gives, without the state it ends in. -/
def outcome : EStateM.Result ε τ α → Except ε α
  | .ok a _ => .ok a
  | .error e _ => .error e

namespace Line

def Succeeded (l : Line) : Prop := l.answer.isOk = true

/-- The line destroys a keyslot, or tries to. -/
def destroys (l : Line) : Bool :=
  match l.call with
  | .destroyKeyslot .. => true
  | _ => false

/-- The answer to a flush of what was written. -/
def flush? : Line → Option (Except BackendError Unit)
  | ⟨.request .sync, answer⟩ => some answer
  | _ => none

/-- The line asks about a keyslot or destroys it. -/
def Touches (l : Line) (slot : UInt32) : Prop :=
  ∃ device, l.call = .keyslotStatus device slot ∨ l.call = .destroyKeyslot device slot

end Line

namespace Transcribes

section
variable {put : τ → List Line → τ'} {x : EStateM ε τ' α} {y : EStateM ε τ α}
  {before : List Line} {Q Q' : α → List Line → Prop} {E E' : ε → List Line → Prop}

theorem mono (h : Transcribes put x y before Q E) (hq : ∀ a lines, Q a lines → Q' a lines)
    (he : ∀ e lines, E e lines → E' e lines) : Transcribes put x y before Q' E' := by
  intro t
  obtain ⟨lines, hx, hends⟩ := h t
  refine ⟨lines, hx, ?_⟩
  cases hy : y t <;> rw [hy] at hends
  · exact hq _ _ hends
  · exact he _ _ hends

/-- A run and its transcript, told together. -/
theorem runs {P : List Line → Except ε α → Prop}
    (h : Transcribes put x y before (fun a lines => P lines (.ok a))
      fun e lines => P lines (.error e)) (t : τ) :
    ∃ lines, x (put t before) = ending put (y t) lines ∧ P lines (outcome (y t)) := by
  obtain ⟨lines, hx, hends⟩ := h t
  refine ⟨lines, hx, ?_⟩
  cases hy : y t <;> rw [hy] at hends <;> exact hends

theorem pure {a : α} (h : Q a before) :
    Transcribes put (Pure.pure a) (Pure.pure a) before Q E :=
  fun _ => ⟨before, rfl, h⟩

theorem throw {e : ε} (h : E e before) :
    Transcribes put (throw e : EStateM ε τ' α) (throw e : EStateM ε τ α) before Q E :=
  fun _ => ⟨before, rfl, h⟩

theorem bind {f' : α → EStateM ε τ' β} {f : α → EStateM ε τ β} {R : α → List Line → Prop}
    {Q : β → List Line → Prop} (h : Transcribes put x y before R E)
    (hf : ∀ a lines, R a lines → Transcribes put (f' a) (f a) lines Q E) :
    Transcribes put (x >>= f') (y >>= f) before Q E := by
  intro t
  obtain ⟨lines, hx, hends⟩ := h t
  show ∃ lines, EStateM.bind x f' _ = ending put (EStateM.bind y f t) lines ∧
    match EStateM.bind y f t with
    | .ok b _ => Q b lines
    | .error e _ => E e lines
  unfold EStateM.bind
  cases hy : y t with
  | ok a t' =>
    rw [hy] at hx hends
    obtain ⟨more, hfx, hends'⟩ := hf a lines hends t'
    refine ⟨more, ?_, hends'⟩
    rw [hx]
    exact hfx
  | error e t' =>
    rw [hy] at hx hends
    refine ⟨lines, ?_, hends⟩
    rw [hx]
    rfl

theorem adaptExcept {g : ε → ε'} {E : ε' → List Line → Prop}
    (h : Transcribes put x y before Q fun e => E (g e)) :
    Transcribes put (x.adaptExcept g) (y.adaptExcept g) before Q E := by
  intro t
  obtain ⟨lines, hx, hends⟩ := h t
  refine ⟨lines, ?_, ?_⟩
  · unfold EStateM.adaptExcept
    rw [hx]
    cases y t <;> rfl
  · unfold EStateM.adaptExcept
    cases hy : y t <;> rw [hy] at hends <;> exact hends

theorem orFault {call' : Call τ' α} {call : Call τ α} {fault : BackendError → Fault}
    {E : Fault → List Line → Prop} (h : Transcribes put call' call before Q fun e => E (fault e)) :
    Transcribes put (call'.orFault fault) (call.orFault fault) before Q E :=
  adaptExcept h

/-- A loop over blocks: `Inv` holds of the lines at the start of each block. -/
theorem blocks {size total : Nat} {positive : 0 < size}
    {step' : Nat → Nat → α → EStateM ε τ' α} {step : Nat → Nat → α → EStateM ε τ α}
    (Inv : Nat → α → List Line → Prop)
    (hstep : ∀ offset a lines, offset < total → Inv offset a lines →
      Transcribes put (step' offset (min size (total - offset)) a)
        (step offset (min size (total - offset)) a) lines
        (Inv (offset + min size (total - offset))) E)
    {offset remaining : Nat} {a : α} (hr : offset + remaining = total) (hi : Inv offset a before) :
    Transcribes put (Blocks.run size positive step' offset remaining a)
      (Blocks.run size positive step offset remaining a) before (Inv total) E := by
  induction remaining using Nat.strongRecOn generalizing offset a before with
  | ind remaining ih =>
    rw [Blocks.run, Blocks.run]
    split
    · rename_i h
      subst h
      exact pure (by simpa [← hr] using hi)
    · have hlength : total - offset = remaining := by omega
      have hfirst := hstep offset a before (by omega) hi
      rw [hlength] at hfirst
      exact bind hfirst fun a' lines hi' => ih _ (by omega) (by omega) hi'

end

/-- Repeated transfers for one block: `Inv left done` holds of the lines before
each, with `left` attempts to go and `done` octets moved. -/
theorem transfer {put : τ → List Line → τ'} {direction : Direction} {offset length : Nat}
    {attempts : UInt32} {step' : (done : Nat) → ByteArray → Call τ' (Nat × ByteArray)}
    {step : (done : Nat) → ByteArray → Call τ (Nat × ByteArray)}
    {E : Fault → List Line → Prop} (Inv : (left done : Nat) → ByteArray → List Line → Prop)
    (hstep : ∀ left done buffer lines, done < length → Inv (left + 1) done buffer lines →
      Transcribes put (step' done buffer) (step done buffer) lines
        (fun r lines => done + r.1 ≤ length ∧ Inv left (done + r.1) r.2 lines)
        (fun cause => E (.internal (.moveZeros direction offset) cause)))
    (hstalled : ∀ done buffer lines, done < length → Inv 0 done buffer lines →
      E (.zerosStalled direction offset done length attempts) lines)
    (hlength : length ≤ ZeroErase.maxCount) {left done : Nat} {buffer : ByteArray}
    {before : List Line} (hdone : done ≤ length) (hi : Inv left done buffer before) :
    Transcribes put
      (ZeroErase.transfer direction offset length attempts step' left done buffer)
      (ZeroErase.transfer direction offset length attempts step left done buffer) before
      (fun buffer lines => ∃ left, Inv left length buffer lines) E := by
  induction left generalizing done buffer before with
  | zero =>
    unfold ZeroErase.transfer
    split
    · exact throw (hstalled _ _ _ ‹_› hi)
    · rw [Nat.le_antisymm hdone (Nat.le_of_not_lt ‹_›)] at hi
      exact pure ⟨0, hi⟩
  | succ left ih =>
    unfold ZeroErase.transfer
    split
    · refine bind (orFault (hstep left done buffer before ‹_› hi)) ?_
      rintro ⟨moved, buffer⟩ lines ⟨hmoved, hi⟩
      have hcounted : ¬ ZeroErase.maxCount < done + moved := by omega
      dsimp only
      rw [if_neg hcounted, if_neg hcounted]
      exact ih hmoved hi
    · rw [Nat.le_antisymm hdone (Nat.le_of_not_lt ‹_›)] at hi
      exact pure ⟨left + 1, hi⟩

-- ---------------------------------------------------------------------------
-- Calls
-- ---------------------------------------------------------------------------

section
variable {before : List Line}

theorem take {c : BackendCall} {answer : α → c.Answer} {call : Call σ α}
    {Q : α → List Line → Prop} {E : BackendError → List Line → Prop}
    (hq : ∀ a, Q a (before ++ [⟨c, .ok (answer a)⟩]))
    (he : ∀ cause, E cause (before ++ [⟨c, .error cause⟩])) :
    Transcribes Transcribed.mk (Transcribed.take c answer call) call before Q E := by
  intro s
  cases hs : call s with
  | ok a s' => exact ⟨_, by simp only [Transcribed.take, hs, ending], hq a⟩
  | error cause s' => exact ⟨_, by simp only [Transcribed.take, hs, ending], he cause⟩

theorem takeOpen {q : DeviceRequest} {call : Call (σ × η) q.Answer}
    {Q : q.Answer → List Line → Prop} {E : BackendError → List Line → Prop}
    (hq : ∀ t a t', call t = .ok a t' → Q a (before ++ [⟨.request q, .ok a⟩]))
    (he : ∀ cause, E cause (before ++ [⟨.request q, .error cause⟩])) :
    Transcribes onHandle (Transcribed.takeOpen q call) call before Q E := by
  intro t
  cases ht : call t with
  | ok a t' => exact ⟨_, by simp only [Transcribed.takeOpen, onHandle, ht, ending], hq _ _ _ ht⟩
  | error cause t' =>
    exact ⟨_, by simp only [Transcribed.takeOpen, onHandle, ht, ending], he cause⟩

/-- A device is opened first and closed last, unless it cannot be opened. -/
theorem withHandle {b : Backends σ η} {path : Path} {mode : OpenMode}
    {refused : BackendError → ε} {body' : EStateM ε (Transcribed σ × η) α}
    {body : EStateM ε (σ × η) α} {Q : α → List Line → Prop} {E : ε → List Line → Prop}
    (hrefused : ∀ cause, E (refused cause) (before ++ [⟨.openHandle path mode, .error cause⟩]))
    (hbody : Transcribes onHandle body' body (before ++ [⟨.openHandle path mode, .ok ()⟩])
      (fun a lines => Q a (lines ++ [⟨.close, .ok ()⟩]))
      (fun e lines => E e (lines ++ [⟨.close, .ok ()⟩]))) :
    Transcribes Transcribed.mk (b.transcribed.devices.withHandle path mode refused body')
      (b.devices.withHandle path mode refused body) before Q E := by
  intro s
  cases hs : b.devices.openHandle path mode s with
  | error cause s' =>
    refine ⟨before ++ [⟨.openHandle path mode, .error cause⟩], ?_, ?_⟩
    · simp only [BlockDevices.withHandle, Backends.transcribed, Transcribed.take, hs, ending]
    · simp only [BlockDevices.withHandle, hs]
      exact hrefused cause
  | ok handle s' =>
    obtain ⟨lines, hx, hends⟩ := hbody (s', handle)
    unfold onHandle at hx
    refine ⟨lines ++ [⟨.close, .ok ()⟩], ?_, ?_⟩
    · simp only [BlockDevices.withHandle, Backends.transcribed, Transcribed.take, hs, hx]
      cases body (s', handle) <;> rfl
    · simp only [BlockDevices.withHandle, hs]
      cases hb : body (s', handle) <;> rw [hb] at hends <;> exact hends

end

end Transcribes

end EmmcVault
