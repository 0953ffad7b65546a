import EmmcVault.Proofs.Buffer
import EmmcVault.Proofs.Effect
import EmmcVault.Proofs.Handles
import EmmcVault.Proofs.RawDevice

/-!
# Background operations are enabled once

The octet that enables background operations cannot be cleared. However often a
card is used and whatever fails, it is written at most once: where the card
supports it and has not got it, by the one call that says so. The calls after it
find it written.
-/

namespace EmmcVault

open Text Watched

-- ---------------------------------------------------------------------------
-- The register
-- ---------------------------------------------------------------------------

namespace Mmc

/-- The command writes the octet that enables background operations. -/
def Command.programsBkops (c : Command) : Bool :=
  c.switchIndex?.any (·.toNat == ExtCsd.bkopsEnable.val)

@[simp] theorem Command.programsBkops_sendExtCsd : Command.sendExtCsd.programsBkops = false := by
  decide

@[simp] theorem Command.programsBkops_enableBkops : Command.enableBkops.programsBkops = true := by
  decide

namespace ExtCsd

variable {r : ExtCsd}

/-- The register with manual background operations enabled. -/
def withBkops (r : ExtCsd) : ExtCsd :=
  r.set bkopsEnable manualBkops

theorem get_set_self {i : Fin 512} {value : UInt8} : (r.set i value).get i = value := by
  simp [set, get]

theorem bkopsSupported_withBkops : r.withBkops.bkopsSupported = r.bkopsSupported := by
  rw [bkopsSupported, withBkops, get_set_ne (by decide)]
  rfl

theorem manualBkopsEnabled_withBkops : r.withBkops.manualBkopsEnabled = true := by
  rw [manualBkopsEnabled, withBkops, get_set_self]
  decide

theorem ofBytes?_toBytes : ofBytes? r.toBytes = some r := by
  have h : r.toBytes.data.size = 512 := r.octets.size_toArray
  rw [ofBytes?, dif_pos h]
  rfl

end ExtCsd

end Mmc

theorem BlockDevices.readExtCsd_triple {σ η : Type} {d : BlockDevices σ η} {u : σ × η}
    {Q : Mmc.ExtCsd → σ × η → Prop} {E : BackendError → σ × η → Prop}
    (h : ∀ buffer, buffer.size = 512 → Triple (d.command .sendExtCsd buffer) u
      (fun data u' => ∃ register, Mmc.ExtCsd.ofBytes? data = some register ∧ Q register u') E) :
    Triple d.readExtCsd u Q E := by
  have hsize : (⟨Array.replicate Mmc.Command.sendExtCsd.dataLength 0⟩ : ByteArray).size = 512 := by
    simp [ByteArray.size, Mmc.Command.dataLength, Mmc.Command.sendExtCsd]
  refine Triple.bind (h _ hsize) ?_
  rintro data u' ⟨register, hdata, hq⟩
  simp only [hdata]
  exact Triple.pure hq

/-- A command on a device, as a watcher of the backends sees it. -/
def BackendCall.programsBkops : BackendCall → Bool
  | .request (.command c _) => c.programsBkops
  | _ => false

/-- The octet that enables background operations was written. -/
def Exchange.programmed (x : Exchange) : Bool :=
  match x.reply with
  | .done => x.call.programsBkops
  | _ => false

theorem Exchange.programsBkops_of_programmed {x : Exchange} (h : x.programmed = true) :
    x.call.programsBkops = true := by
  unfold Exchange.programmed at h
  split at h
  · exact h
  · cases h

theorem Operation.Asks.enables {operation : Operation} {q : DeviceRequest}
    (h : operation.Asks q) (hq : (BackendCall.request q).programsBkops = true) :
    operation = .enableBkops := by
  cases h with
  | erase h =>
    cases h with
    | sanitizeStart =>
      exact absurd (show (Mmc.Command.switch _ _).programsBkops = true from hq) (by decide)
    | _ => cases hq
  | bkopsRegister => rfl
  | bkopsEnable => rfl
  | refreshSize => cases hq
  | refreshRegister => cases hq

/-- Only enabling background operations submits the command that does it. -/
theorem Operation.enableBkops_of_programs {σ η : Type} {b : Backends σ η} {v : Volume}
    {operation : Operation} {s : σ} {x : Exchange} (hx : x ∈ operation.exchanges b v s)
    (hp : x.call.programsBkops = true) : operation = .enableBkops := by
  cases hc : x.call with
  | request q =>
    rw [hc] at hp
    exact (asks_of_mem hx hc).enables hp
  | _ => simp [hc, BackendCall.programsBkops] at hp

namespace Memory

-- ---------------------------------------------------------------------------
-- One call
-- ---------------------------------------------------------------------------

/-- What a disk shows of its card: the register, and which commands fail. -/
structure Card where
  register : Option Mmc.ExtCsd
  failCommands : Bool
  failSwitch : Bool

def Disk.card (d : Disk) : Card where
  register := d.register
  failCommands := d.failCommands
  failSwitch := d.failSwitch

/-- How enabling background operations goes on the disk `d`: the calls, the
outcome and the register afterwards. -/
inductive Enabling (device : Path) (d : Disk) :
    List Exchange → Except Failure Operation.Answer → Option Mmc.ExtCsd → Prop
  | unopened {cause f} : device.key ≠ d.path.key →
      Enabling device d [⟨.openHandle device .readWrite, .failed cause⟩] (.error f) d.register
  | unread {buffer cause f} : d.failCommands = true ∨ d.register = none →
      Enabling device d
        (whileOpen device .readWrite [⟨.request (.command .sendExtCsd buffer), .failed cause⟩])
        (.error f) d.register
  | unsupported {buffer register f} : d.register = some register →
      register.bkopsSupported = false →
      Enabling device d
        (whileOpen device .readWrite [⟨.request (.command .sendExtCsd buffer), .done⟩])
        (.error f) d.register
  | already {buffer register} : d.register = some register → register.bkopsSupported = true →
      register.manualBkopsEnabled = true →
      Enabling device d
        (whileOpen device .readWrite [⟨.request (.command .sendExtCsd buffer), .done⟩])
        (.ok (.bkops .alreadyEnabled)) d.register
  | failed {buffer register cause f} : d.register = some register →
      register.bkopsSupported = true → register.manualBkopsEnabled = false →
      d.failCommands = true ∨ d.failSwitch = true →
      Enabling device d
        (whileOpen device .readWrite [⟨.request (.command .sendExtCsd buffer), .done⟩,
          ⟨.request (.command .enableBkops .empty), .failed cause⟩])
        (.error f) d.register
  | enabled {buffer register} : d.register = some register → register.bkopsSupported = true →
      register.manualBkopsEnabled = false →
      Enabling device d
        (whileOpen device .readWrite [⟨.request (.command .sendExtCsd buffer), .done⟩,
          ⟨.request (.command .enableBkops .empty), .done⟩])
        (.ok (.bkops .enabled)) (some register.withBkops)

namespace Disk

variable {d : Disk} {h : DiskHandle} {buffer : ByteArray}

theorem fetchExtCsd_triple (hb : buffer.size = 512) :
    Triple (Disk.command .sendExtCsd buffer) (d, h)
      (fun data u => d.failCommands = false ∧ ∃ register, d.register = some register ∧
        Mmc.ExtCsd.ofBytes? data = some register ∧ u.1.card = d.card)
      (fun _ u => (d.failCommands = true ∨ d.register = none) ∧ u.1.card = d.card) := by
  refine Triple.mono command_triple ?_ ?_
  · rintro data u ⟨hf, register, hr, ⟨-, rfl, rfl⟩ | ⟨ho, -⟩⟩
    · have hsize : buffer.size = register.toBytes.size :=
        hb.trans register.octets.size_toArray.symm
      refine ⟨hf, register, hr, ?_, rfl⟩
      rw [Buffer.fillFront_of_size hsize]
      exact Mmc.ExtCsd.ofBytes?_toBytes
    · exact (ho rfl).elim
  · rintro cause _ ⟨hrefused, rfl⟩
    exact ⟨refuses_sendExtCsd hrefused, rfl⟩

theorem setBkops_triple :
    Triple (Disk.command .enableBkops buffer) (d, h)
      (fun _ u => ∃ register, d.register = some register ∧
        u.1.register = some register.withBkops)
      (fun _ u => (d.failCommands = true ∨ d.register = none ∨ d.failSwitch = true) ∧
        u.1.register = d.register) := by
  have hindex : Mmc.Command.enableBkops.switchIndex? = some 163 := by decide
  have hvalue : Mmc.Command.enableBkops.switchValue? = some Mmc.ExtCsd.manualBkops := by decide
  refine Triple.mono (command_triple.and (switch_triple
    (by decide : Mmc.Command.switchOpcode ≠ _) hindex hvalue)) ?_ ?_
  · rintro _ _ ⟨-, register, hr, rfl⟩
    exact ⟨register, hr, rfl⟩
  · rintro cause _ ⟨⟨hf | hr | ⟨-, hf | hi | hv⟩, -⟩, rfl⟩
    · exact ⟨.inl hf, rfl⟩
    · exact ⟨.inr (.inl hr), rfl⟩
    · exact ⟨.inr (.inr hf), rfl⟩
    · cases hindex.symm.trans hi
    · cases hvalue.symm.trans hv

end Disk

section
variable {v : Volume} {w : Bench Disk}

theorem openHandle_card {device : Path} {mode : OpenMode} :
    Triple (Bench.onDisk.devices.openHandle device mode) w
      (fun _ w' => device.key = w.device.path.key ∧ w'.device.card = w.device.card)
      (fun _ w' => device.key ≠ w.device.path.key ∧ w'.device.card = w.device.card) := by
  refine Bench.openHandle_triple (Triple.mono Disk.openHandle_triple ?_ ?_)
  · rintro _ _ ⟨hp, -, rfl⟩
    exact ⟨hp, rfl⟩
  · rintro _ _ ⟨hp, rfl⟩
    exact ⟨hp, rfl⟩

theorem readExtCsd_card {e : DiskHandle} :
    Triple Bench.onDisk.devices.readExtCsd (w, e)
      (fun register _ => w.device.failCommands = false ∧ w.device.register = some register)
      (fun _ _ => w.device.failCommands = true ∨ w.device.register = none) := by
  refine BlockDevices.readExtCsd_triple fun buffer hb => Bench.onDevice_triple
    (Triple.mono (Disk.fetchExtCsd_triple hb) ?_ fun _ _ h => h.1)
  rintro data u ⟨hf, register, hr, hdata, -⟩
  exact ⟨register, hdata, hf, hr⟩

theorem enableBkops_enabling :
    Triple (Operation.enableBkops.run Bench.onDisk.watched v) ⟨w, []⟩
      (fun a t => Enabling v.identity.device w.device t.trace (.ok a.1) t.world.device.register)
      (fun f t => Enabling v.identity.device w.device t.trace (.error f)
        t.world.device.register) := by
  rw [Operation.run_eq]
  refine Triple.bind (R := fun outcome t => Enabling v.identity.device w.device t.trace
    (.ok (.bkops outcome)) t.world.device.register) ?_ fun _ _ h => Triple.pure h
  refine Triple.withHandle (J := fun u => u.1.trace =
      [⟨.openHandle v.identity.device .readWrite, .done⟩] ∧ u.1.world.device.card = w.device.card)
    (watch_triple (Triple.mono openHandle_card (fun _ _ h => ⟨rfl, h.2⟩) ?_)) ?_
  · rintro cause w₁ ⟨hp, hc⟩
    show Enabling _ _ _ _ w₁.device.card.register
    rw [hc]
    exact .unopened hp
  rintro ⟨⟨w₁, _⟩, e⟩ ⟨rfl, hc₁⟩
  refine Triple.bind (R := fun register u => ∃ buffer, u.1.trace =
      [⟨.openHandle v.identity.device .readWrite, .done⟩,
        ⟨.request (.command .sendExtCsd buffer), .done⟩] ∧
      w.device.register = some register ∧ u.1.world.device.card = w.device.card)
    (Triple.step (BlockDevices.readExtCsd_triple fun buffer hb => watchOpen_triple
      (Bench.onDevice_triple (Triple.mono (Disk.fetchExtCsd_triple hb) ?_ ?_)))) ?_
  · rintro data u ⟨-, register, hr, hdata, hc⟩
    exact ⟨register, hdata, buffer, rfl, (congrArg Card.register hc₁).symm.trans hr, hc.trans hc₁⟩
  · rintro cause u ⟨hrefused, hc⟩
    show Enabling _ _ _ _ u.1.card.register
    rw [hc.trans hc₁]
    refine .unread (hrefused.imp ?_ ?_)
    · exact (congrArg Card.failCommands hc₁).symm.trans
    · exact (congrArg Card.register hc₁).symm.trans
  rintro register ⟨⟨w₂, _⟩, e⟩ ⟨buffer, rfl, hr, hc₂⟩
  split
  · rename_i hs
    refine Triple.throw ?_
    show Enabling _ _ _ _ w₂.device.card.register
    rw [show w₂.device.card = _ from hc₂]
    exact .unsupported hr (by simpa using hs)
  rename_i hs
  have hsupported : register.bkopsSupported = true := by simpa using hs
  split
  · rename_i hm
    refine Triple.pure ?_
    show Enabling _ _ _ _ w₂.device.card.register
    rw [show w₂.device.card = _ from hc₂]
    exact .already hr hsupported hm
  rename_i hm
  have hmanual : register.manualBkopsEnabled = false := by simpa using hm
  refine Triple.bind (R := fun _ u => u.1.trace =
      [⟨.openHandle v.identity.device .readWrite, .done⟩,
        ⟨.request (.command .sendExtCsd buffer), .done⟩,
        ⟨.request (.command .enableBkops .empty), .done⟩] ∧
      u.1.world.device.register = some register.withBkops)
    (Triple.step (watchOpen_triple (Bench.onDevice_triple
      (Triple.mono Disk.setBkops_triple ?_ ?_)))) ?_
  · rintro _ u ⟨register', hr', hu⟩
    cases hr.symm.trans ((congrArg Card.register hc₂).symm.trans hr')
    exact ⟨rfl, hu⟩
  · rintro cause u ⟨hrefused, hu⟩
    show Enabling _ _ _ _ u.1.register
    rw [show u.1.register = _ from hu.trans (congrArg Card.register hc₂)]
    refine .failed hr hsupported hmanual ?_
    obtain hf | hn | hf := hrefused
    · exact .inl ((congrArg Card.failCommands hc₂).symm.trans hf)
    · cases hr.symm.trans ((congrArg Card.register hc₂).symm.trans hn)
    · exact .inr ((congrArg Card.failSwitch hc₂).symm.trans hf)
  · rintro _ ⟨⟨w₃, _⟩, e⟩ ⟨rfl, hr₃⟩
    refine Triple.pure ?_
    show Enabling _ _ _ _ w₃.device.register
    rw [show w₃.device.register = _ from hr₃]
    exact .enabled hr hsupported hmanual

end

/-- A card on which background operations are enabled and stay so. -/
def Settled (known : Option Mmc.ExtCsd) : Prop :=
  ∃ register, known = some register ∧ register.bkopsSupported = true ∧
    register.manualBkopsEnabled = true

section
variable {device : Path} {d : Disk} {trace : List Exchange} {after : Option Mmc.ExtCsd}
  {outcome : Except Failure Operation.Answer}

/-- Where the card can be asked, its register decides, if the switch does not
fail. -/
theorem Enabling.decided (h : Enabling device d trace outcome after)
    (hpath : device.key = d.path.key) (hcommands : d.failCommands = false)
    {register : Mmc.ExtCsd} (hr : d.register = some register) :
    register.bkopsSupported = false ∨
      register.manualBkopsEnabled = true ∧ outcome = .ok (.bkops .alreadyEnabled) ∨
      register.manualBkopsEnabled = false ∧
        (outcome = .ok (.bkops .enabled) ∨ d.failSwitch = true) := by
  have same : ∀ {register'}, d.register = some register' → register' = register := fun hr' =>
    Option.some.inj (hr'.symm.trans hr)
  cases h with
  | unopened hp => exact (hp hpath).elim
  | unread hrefused => simp [hcommands, hr] at hrefused
  | unsupported hr' hs => exact .inl (same hr' ▸ hs)
  | already hr' _ hm => exact .inr (.inl ⟨same hr' ▸ hm, rfl⟩)
  | failed hr' _ hm hrefused =>
    refine .inr (.inr ⟨same hr' ▸ hm, .inr (hrefused.resolve_left ?_)⟩)
    simp [hcommands]
  | enabled hr' _ hm => exact .inr (.inr ⟨same hr' ▸ hm, .inl rfl⟩)

/-- On a settled card there is nothing left to enable. -/
theorem Enabling.alreadyEnabled (h : Enabling device d trace outcome after)
    (hpath : device.key = d.path.key) (hcommands : d.failCommands = false)
    (hsettled : Settled d.register) : outcome = .ok (.bkops .alreadyEnabled) := by
  obtain ⟨register, hr, hs, hm⟩ := hsettled
  obtain hs' | ⟨-, ho⟩ | ⟨hm', -⟩ := h.decided hpath hcommands hr
  · exact absurd (hs'.symm.trans hs) Bool.false_ne_true
  · exact ho
  · exact absurd (hm'.symm.trans hm) Bool.false_ne_true

/-- Where nothing fails, background operations are enabled on a card that has
them and on which they are not. -/
theorem Enabling.isEnabled (h : Enabling device d trace outcome after)
    (hpath : device.key = d.path.key) (hcommands : d.failCommands = false)
    (hswitch : d.failSwitch = false) {register : Mmc.ExtCsd} (hr : d.register = some register)
    (hs : register.bkopsSupported = true) (hm : register.manualBkopsEnabled = false) :
    outcome = .ok (.bkops .enabled) := by
  obtain hs' | ⟨hm', -⟩ | ⟨-, ho | hf⟩ := h.decided hpath hcommands hr
  · exact absurd (hs'.symm.trans hs) Bool.false_ne_true
  · exact absurd (hm.symm.trans hm') Bool.false_ne_true
  · exact ho
  · exact absurd (hswitch.symm.trans hf) Bool.false_ne_true

end

-- ---------------------------------------------------------------------------
-- One operation
-- ---------------------------------------------------------------------------

/-- The calls that wrote the octet. -/
def programmings (trace : List Exchange) : List Exchange :=
  trace.filter (·.programmed)

/-- What an operation may do about the octet, on a card whose register was
`known` and is `after` it. -/
structure BkopsStep (known after : Option Mmc.ExtCsd) (trace : List Exchange)
    (outcome : Except Failure Operation.Answer) : Prop where
  once : (programmings trace).length ≤ 1
  submitted : ∀ x ∈ trace, x.call.programsBkops = true → ∃ register, known = some register ∧
    register.bkopsSupported = true ∧ register.manualBkopsEnabled = false
  answered : outcome = .ok (.bkops .enabled) ↔ programmings trace ≠ []
  written : programmings trace ≠ [] → ∃ register, known = some register ∧
    after = some register.withBkops
  unwritten : programmings trace = [] → after = known

/-- An operation that does not submit the command does not touch the register. -/
theorem BkopsStep.idle {known : Option Mmc.ExtCsd} {trace : List Exchange}
    {outcome : Except Failure Operation.Answer}
    (hidle : ∀ x ∈ trace, x.call.programsBkops = false)
    (hout : outcome ≠ .ok (.bkops .enabled)) : BkopsStep known known trace outcome := by
  have hnone : programmings trace = [] := by
    refine List.filter_eq_nil_iff.mpr fun x hx hp => ?_
    exact Bool.false_ne_true ((hidle x hx).symm.trans (Exchange.programsBkops_of_programmed hp))
  refine ⟨by simp [hnone], fun x hx hp => ?_, by simp [hnone, hout], by simp [hnone], fun _ => rfl⟩
  exact absurd ((hidle x hx).symm.trans hp) Bool.false_ne_true

theorem Enabling.step {device : Path} {d : Disk} {after : Option Mmc.ExtCsd}
    {trace : List Exchange} {outcome : Except Failure Operation.Answer}
    (h : Enabling device d trace outcome after) : BkopsStep d.register after trace outcome := by
  cases h with
  | unopened => exact .idle (by simp [BackendCall.programsBkops]) nofun
  | unread => exact .idle (by simp [whileOpen, BackendCall.programsBkops]) nofun
  | unsupported => exact .idle (by simp [whileOpen, BackendCall.programsBkops]) nofun
  | already => exact .idle (by simp [whileOpen, BackendCall.programsBkops]) (by simp)
  | @failed buffer register cause f hr hs hm _ =>
    have hnone : programmings (whileOpen device .readWrite [⟨.request (.command .sendExtCsd buffer), .done⟩,
        ⟨.request (.command .enableBkops .empty), .failed cause⟩]) = [] := by
      simp [programmings, whileOpen, Exchange.programmed, BackendCall.programsBkops]
    exact ⟨by simp [hnone], fun _ _ _ => ⟨register, hr, hs, hm⟩, by simp [hnone], by simp [hnone],
      fun _ => rfl⟩
  | @enabled buffer register hr hs hm =>
    have hone : programmings (whileOpen device .readWrite [⟨.request (.command .sendExtCsd buffer), .done⟩,
        ⟨.request (.command .enableBkops .empty), .done⟩]) =
          [⟨.request (.command .enableBkops .empty), .done⟩] := by
      simp [programmings, whileOpen, Exchange.programmed, BackendCall.programsBkops]
    exact ⟨by simp [hone], fun _ _ _ => ⟨register, hr, hs, hm⟩, by simp [hone],
      fun _ => ⟨register, hr, rfl⟩, by simp [hone]⟩

namespace Event

/-- The calls of an operation, as a watcher would have seen them. -/
def exchanges (e : Event Disk) : List Exchange :=
  e.operation.exchanges Bench.onDisk e.before.volume e.before.world

/-- Opened for writing, the device gives its register. -/
def Reads (e : Event Disk) : Prop :=
  ∃ register, e.before.volume.Answers Bench.onDisk e.before.world .readWrite
    Bench.onDisk.devices.readExtCsd register

/-- The device is the card of the volume and answers commands. -/
theorem reads_iff {e : Event Disk} :
    e.Reads ↔ e.before.volume.identity.device.key = e.before.world.device.path.key ∧
      e.before.world.device.failCommands = false ∧ e.before.world.device.register ≠ none := by
  constructor
  · rintro ⟨register, handle, w, u, hopen, hread⟩
    obtain ⟨hpath, hc⟩ := Triple.ok openHandle_card hopen
    obtain ⟨hf, hr⟩ := Triple.ok readExtCsd_card hread
    refine ⟨hpath, (congrArg Card.failCommands hc).symm.trans hf, fun hn => ?_⟩
    cases hr.symm.trans ((congrArg Card.register hc).trans hn)
  · rintro ⟨hpath, hcommands, hcard⟩
    have hopening : Triple (Bench.onDisk.devices.openHandle e.before.volume.identity.device
      .readWrite) e.before.world _ _ := openHandle_card
    obtain ⟨handle, w, hopen, -, hc⟩ | ⟨_, _, -, hp, -⟩ := hopening.cases
    · obtain ⟨register, u, hread, -⟩ | ⟨_, _, -, hf | hn⟩ := readExtCsd_card.cases
      · exact ⟨register, handle, w, u, hopen, hread⟩
      · have hanswers : w.device.failCommands = false :=
          (congrArg Card.failCommands hc).trans hcommands
        exact absurd (hanswers.symm.trans hf) Bool.false_ne_true
      · exact (hcard ((congrArg Card.register hc).symm.trans hn)).elim
    · exact (hp hpath).elim

def BkopsLawful (e : Event Disk) : Prop :=
  BkopsStep e.before.world.device.register e.after.world.device.register e.exchanges e.outcome

/-- Only enabling background operations is answered with what became of them. -/
theorem ne_bkops {m : Managed (Bench Disk)} {operation : Operation}
    (ho : operation ≠ .enableBkops) {outcome : Volume.BkopsOutcome} :
    (m.perform Bench.onDisk operation).1 ≠ .ok (.bkops outcome) := by
  have enables : ∀ {v'}, Volume.Becomes Bench.onDisk m.volume m.world operation
      (.ok (.bkops outcome)) v' → operation = .enableBkops := by
    intro v' h
    cases h
    rfl
  intro hok
  exact ho (enables (hok ▸ m.perform_becomes operation))

/-- Enabling background operations leaves the volume as it is. -/
theorem enableBkops_volume (m : Managed (Bench Disk)) :
    (m.perform Bench.onDisk .enableBkops).2.volume = m.volume := by
  have same : ∀ {outcome v'}, Volume.Becomes Bench.onDisk m.volume m.world .enableBkops outcome v' →
      v' = m.volume := by
    intro outcome v' h
    cases h <;> rfl
  exact same (m.perform_becomes .enableBkops)

theorem enabling (m : Managed (Bench Disk)) :
    Enabling m.volume.identity.device m.world.device
      (Event.of Bench.onDisk m .enableBkops).exchanges
      (m.perform Bench.onDisk .enableBkops).1
      (m.perform Bench.onDisk .enableBkops).2.world.device.register :=
  Managed.perform_of_triple (P := fun outcome (m' : Managed (Bench Disk)) =>
      Enabling m.volume.identity.device m.world.device
        (Operation.enableBkops.exchanges Bench.onDisk m.volume m.world) outcome
        m'.world.device.register)
    (Operation.triple_of_watched enableBkops_enabling)

theorem bkopsLawful {m : Managed (Bench Disk)} {operation : Operation} :
    (Event.of Bench.onDisk m operation).BkopsLawful := by
  by_cases ho : operation = .enableBkops
  · subst ho
    exact (enabling m).step
  · have hkept : (m.perform Bench.onDisk operation).2.world.device.register =
        m.world.device.register := by
      cases Disk.perform_moves m operation with
      | kept hd => exact hd.2
      | destroyed _ _ hd => exact hd
      | enabled => exact (ho rfl).elim
    unfold BkopsLawful
    rw [show (Event.of Bench.onDisk m operation).after.world.device.register = _ from hkept]
    refine .idle (fun x hx => ?_) (ne_bkops ho)
    rw [← Bool.not_eq_true]
    intro hp
    exact ho (Operation.enableBkops_of_programs hx hp)

end Event

-- ---------------------------------------------------------------------------
-- Histories
-- ---------------------------------------------------------------------------

section
variable {known after : Option Mmc.ExtCsd} {trace : List Exchange}
  {outcome : Except Failure Operation.Answer}

/-- The octet is written on a card that supports it and has not got it. -/
theorem BkopsStep.writable (h : BkopsStep known after trace outcome)
    (hp : programmings trace ≠ []) : ∃ register, known = some register ∧
      register.bkopsSupported = true ∧ register.manualBkopsEnabled = false := by
  obtain ⟨x, hx⟩ := List.exists_mem_of_ne_nil _ hp
  obtain ⟨hx, hprogrammed⟩ := List.mem_filter.mp hx
  exact h.submitted x hx (Exchange.programsBkops_of_programmed hprogrammed)

theorem BkopsStep.settled (h : BkopsStep known after trace outcome)
    (hp : programmings trace ≠ []) : Settled after := by
  obtain ⟨register, hr, hs, -⟩ := h.writable hp
  obtain ⟨register', hr', ha⟩ := h.written hp
  cases hr.symm.trans hr'
  exact ⟨_, ha, Mmc.ExtCsd.bkopsSupported_withBkops.trans hs,
    Mmc.ExtCsd.manualBkopsEnabled_withBkops⟩

theorem BkopsStep.none_of_settled (h : BkopsStep known after trace outcome)
    (hsettled : Settled known) : programmings trace = [] := by
  refine Decidable.not_not.mp fun hp => ?_
  obtain ⟨register, hr, -, hm⟩ := h.writable hp
  obtain ⟨register', hr', -, hm'⟩ := hsettled
  cases hr.symm.trans hr'
  exact Bool.false_ne_true (hm.symm.trans hm')

end

/-- The disk may change in every way but for its register. -/
def Disk.SameCard (d d' : Disk) : Prop :=
  d'.register = d.register

/-- The calls that wrote the octet, all along. -/
def allProgrammings (events : List (Event Disk)) : List Exchange :=
  events.flatMap fun e => programmings e.exchanges

structure BkopsInvariant (events : List (Event Disk)) (m : Managed (Bench Disk)) : Prop where
  once : (allProgrammings events).length ≤ 1
  settled : allProgrammings events ≠ [] → Settled m.world.device.register
  lawful : ∀ e ∈ events, e.BkopsLawful
  afterwards : ∀ later e earlier, events = later ++ e :: earlier →
    programmings e.exchanges ≠ [] → ∀ x ∈ later, x.operation = .enableBkops → x.Reads →
      x.outcome = .ok (.bkops .alreadyEnabled)

namespace BkopsInvariant

variable {events : List (Event Disk)} {m : Managed (Bench Disk)}

theorem sameCard {m' : Managed (Bench Disk)} (h : BkopsInvariant events m)
    (hr : m'.world.device.register = m.world.device.register) : BkopsInvariant events m' :=
  { h with settled := fun hp => hr ▸ h.settled hp }

theorem perform (h : BkopsInvariant events m) (operation : Operation) :
    BkopsInvariant (.of Bench.onDisk m operation :: events)
      (m.perform Bench.onDisk operation).2 := by
  generalize he : Event.of Bench.onDisk m operation = e
  have hlawful : e.BkopsLawful := he ▸ Event.bkopsLawful
  have hbefore : e.before = m := he ▸ rfl
  have hafter : (m.perform Bench.onDisk operation).2 = e.after := he ▸ rfl
  have hall : allProgrammings (e :: events) = programmings e.exchanges ++ allProgrammings events :=
    List.flatMap_cons
  have hnone : allProgrammings events ≠ [] → programmings e.exchanges = [] := fun ha =>
    hlawful.none_of_settled (hbefore ▸ h.settled ha)
  rw [hafter]
  refine ⟨?_, fun hp => ?_, List.forall_mem_cons.mpr ⟨hlawful, h.lawful⟩, ?_⟩
  · rw [hall]
    by_cases ha : allProgrammings events = []
    · rw [ha, List.append_nil]
      exact hlawful.once
    · rw [hnone ha]
      exact h.once
  · by_cases hq : programmings e.exchanges = []
    · rw [hall, hq] at hp
      rw [hlawful.unwritten hq, hbefore]
      exact h.settled hp
    · exact hlawful.settled hq
  · intro later x earlier heq hx y hy hop hreads
    cases later with
    | nil => cases hy
    | cons z later =>
      obtain ⟨rfl, rfl⟩ := List.cons.inj heq
      obtain rfl | hy := List.mem_cons.mp hy
      · subst he
        have hsettled : Settled m.world.device.register := by
          refine h.settled fun ha => hx ?_
          exact List.flatMap_eq_nil_iff.mp ha x (List.mem_append_right _ List.mem_cons_self)
        cases (hop : operation = .enableBkops)
        obtain ⟨hpath, hcommands, -⟩ := Event.reads_iff.mp hreads
        exact (Event.enabling m).alreadyEnabled hpath hcommands hsettled
      · exact h.afterwards later x earlier rfl hx y hy hop hreads

theorem reached {start : Managed (Bench Disk)}
    (h : History Bench.onDisk Disk.SameCard start events m) : BkopsInvariant events m := by
  induction h with
  | start => exact ⟨Nat.zero_le _, fun h => (h rfl).elim, List.forall_mem_nil _, by simp⟩
  | perform operation _ ih => exact ih.perform operation
  | arm _ _ _ ih => exact ih.sameCard rfl
  | disarm _ ih => exact ih.sameCard rfl
  | rearrange _ hd _ ih => exact ih.sameCard hd

end BkopsInvariant

/-- Whatever is done to a volume on a card and whatever fails, the octet that
enables background operations is written at most once, where it is supported and
not yet set. The call that writes it says so and changes nothing else of the
register, no other call changes anything of it, and each later call that can
look finds it set. -/
theorem bkops_enabled_once {start m : Managed (Bench Disk)} {events : List (Event Disk)}
    (h : History Bench.onDisk Disk.SameCard start events m) :
    (allProgrammings events).length ≤ 1 ∧
      (∀ e ∈ events, e.BkopsLawful ∧ ∀ f, e.outcome = .error f →
        e.after.world.device.register = e.before.world.device.register) ∧
      ∀ later e earlier, events = later ++ e :: earlier → programmings e.exchanges ≠ [] →
        ∀ x ∈ later, x.operation = .enableBkops → x.Reads →
          x.outcome = .ok (.bkops .alreadyEnabled) := by
  have hinv := BkopsInvariant.reached h
  refine ⟨hinv.once, fun e he => ⟨hinv.lawful e he, fun f hf => ?_⟩, hinv.afterwards⟩
  refine (hinv.lawful e he).unwritten (Decidable.not_not.mp fun hp => ?_)
  cases hf.symm.trans ((hinv.lawful e he).answered.mpr hp)

/-- An enabling that cannot read the register is made up for by the next, and
the one after that finds nothing to do. -/
theorem bkops_enabled_once_retry :
    let register : Mmc.ExtCsd := .set .zeroed 502 0x01
    let card : Disk := { sample.world.device with register := some register }
    let start : Managed (Bench Disk) :=
      { sample with world := { sample.world with device := { card with failCommands := true } } }
    ∃ failed enabled already m,
      History Bench.onDisk Disk.SameCard start [already, enabled, failed] m ∧
        failed.after.world.device.register = some register ∧
        enabled.outcome = .ok (.bkops .enabled) ∧
        already.outcome = .ok (.bkops .alreadyEnabled) := by
  intro register card start
  have hpath : ∀ {v : Volume}, v = sample.volume → v.identity.device.key = card.path.key := by
    rintro _ rfl
    rfl
  have hstart : History Bench.onDisk Disk.SameCard start [] start := .start
  have hnone : (programmings (Event.of Bench.onDisk start .enableBkops).exchanges).length = 0 := by
    decide +kernel
  obtain ⟨failed, first, hfirst, hfailed, hvolume, hregister⟩ : ∃ failed first,
      History Bench.onDisk Disk.SameCard start [failed] first ∧
        failed.after.world.device.register = some register ∧ first.volume = sample.volume ∧
        first.world.device.register = some register := by
    have hkept := Event.bkopsLawful.unwritten (List.eq_nil_of_length_eq_zero hnone)
    exact ⟨_, _, hstart.perform .enableBkops, hkept, Event.enableBkops_volume start, hkept⟩
  obtain ⟨enabled, second, hsecond, hok, hvolume, hregister⟩ : ∃ enabled second,
      History Bench.onDisk Disk.SameCard start [enabled, failed] second ∧
        enabled.outcome = .ok (.bkops .enabled) ∧ second.volume = sample.volume ∧
        second.world.device.register = some register.withBkops := by
    obtain ⟨m, hm, hv, hcard⟩ : ∃ m, History Bench.onDisk Disk.SameCard start [failed] m ∧
        m.volume = sample.volume ∧ m.world.device = card :=
      ⟨_, hfirst.rearrange card hregister.symm, hvolume, rfl⟩
    have henabling := Event.enabling m
    rw [hcard] at henabling
    have hok := henabling.isEnabled (hpath hv) rfl rfl rfl (by decide +kernel) (by decide +kernel)
    obtain ⟨register', hr, hafter⟩ := Event.bkopsLawful.written (Event.bkopsLawful.answered.mp hok)
    cases (congrArg Disk.register hcard).symm.trans hr
    exact ⟨_, _, hm.perform .enableBkops, hok, (Event.enableBkops_volume m).trans hv, hafter⟩
  obtain ⟨already, last, hlast, hop, hreads⟩ : ∃ already last,
      History Bench.onDisk Disk.SameCard start [already, enabled, failed] last ∧
        already.operation = .enableBkops ∧ already.Reads := by
    have hcard := hsecond.rearrange { card with register := some register.withBkops } hregister.symm
    exact ⟨_, _, hcard.perform .enableBkops, rfl, Event.reads_iff.mpr ⟨hpath hvolume, rfl, nofun⟩⟩
  obtain ⟨-, hlawful, hafterwards⟩ := bkops_enabled_once hlast
  refine ⟨failed, enabled, already, last, hlast, hfailed, hok, ?_⟩
  exact hafterwards [already] enabled [failed] rfl ((hlawful enabled (by simp)).1.answered.mp hok)
    already (List.mem_singleton_self _) hop hreads

end Memory

end EmmcVault
