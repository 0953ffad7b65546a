import EmmcVault.Memory.Disk
import EmmcVault.Proofs.Footprint

/-!
# Calls on an in-memory disk

What each call on a disk gives and what it leaves of it. A call that fails
changes nothing but the list of commands.
-/

namespace EmmcVault.Memory.Disk

variable {d : Disk} {h : DiskHandle}

/-- The disk with one more command submitted. -/
def submitted (d : Disk) (c : Mmc.Command) : Disk :=
  { d with commands := d.commands ++ [c] }

theorem openHandle_triple {path : Path} {mode : OpenMode} :
    Triple (openHandle path mode) d
      (fun h d' => path.key = d.path.key ∧ h = { mode } ∧
        d' = { d with openHandles := d.openHandles + 1, opens := d.opens + 1 })
      (fun _ d' => path.key ≠ d.path.key ∧ d' = d) := by
  by_cases hp : path.key = d.path.key
  · refine Triple.of_ok (if_pos hp) ⟨hp, rfl, rfl⟩
  · refine Triple.of_error (if_neg hp) ⟨hp, rfl⟩

theorem read_triple {requested : Nat} :
    Triple (read requested) (d, h)
      (fun t u => h.mode.readable = true ∧
        t = ⟨d.transferLength requested h.position,
          d.data.extract h.position (h.position + d.transferLength requested h.position)⟩ ∧
        u = (d.afterTransfer,
          { h with position := h.position + d.transferLength requested h.position }))
      (fun _ u => h.mode.readable = false ∧ u = (d, h)) := by
  cases hm : h.mode.readable with
  | true => exact Triple.of_ok (if_pos hm) ⟨rfl, rfl, rfl⟩
  | false => exact Triple.of_error (if_neg (by simp [hm])) ⟨rfl, rfl⟩

theorem write_triple {bytes : ByteArray} :
    Triple (write bytes) (d, h)
      (fun n u => h.mode.writable = true ∧ n = d.transferLength bytes.size h.position ∧
        u = ({ d.afterTransfer with
            data := Buffer.overlay d.data h.position
              (bytes.extract 0 (d.transferLength bytes.size h.position)) },
          { h with position := h.position + d.transferLength bytes.size h.position }))
      (fun _ u => h.mode.writable = false ∧ u = (d, h)) := by
  cases hm : h.mode.writable with
  | true => exact Triple.of_ok (if_pos hm) ⟨rfl, rfl, rfl⟩
  | false => exact Triple.of_error (if_neg (by simp [hm])) ⟨rfl, rfl⟩

theorem sync_triple :
    Triple sync (d, h) (fun _ u => u = ({ d with syncs := d.syncs + 1 }, h))
      (fun _ u => d.failSync = true ∧ u = (d, h)) := by
  by_cases hf : d.failSync = true
  · exact Triple.of_error (if_pos hf) ⟨hf, rfl⟩
  · exact Triple.of_ok (if_neg hf) rfl

theorem size_triple :
    Triple size (d, h) (fun n u => n = d.data.size.toUInt64 ∧ u = (d, h))
      (fun _ u => d.failSize = true ∧ u = (d, h)) := by
  by_cases hf : d.failSize = true
  · exact Triple.of_error (if_pos hf) ⟨hf, rfl⟩
  · exact Triple.of_ok (if_neg hf) ⟨rfl, rfl⟩

/-- The disk does not carry out the command: it is told not to, or it is no card,
or the command is neither the fetching of the register nor a switch. -/
def Refuses (d : Disk) (c : Mmc.Command) : Prop :=
  d.failCommands = true ∨ d.register = none ∨ c.opcode ≠ Mmc.Command.sendExtCsdOpcode ∧
    (d.failSwitch = true ∨ c.switchIndex? = none ∨ c.switchValue? = none)

/-- A command that is carried out fetches the register of the card, or it is a
switch that acts on the card as its octet says. -/
theorem command_triple {c : Mmc.Command} {buffer : ByteArray} :
    Triple (command c buffer) (d, h)
      (fun reply u => d.failCommands = false ∧ ∃ register, d.register = some register ∧
        (c.opcode = Mmc.Command.sendExtCsdOpcode ∧
            reply = Buffer.fillFront buffer register.toBytes ∧ u = (d.submitted c, h) ∨
          c.opcode ≠ Mmc.Command.sendExtCsdOpcode ∧ ∃ index value,
            c.switchIndex? = some index ∧ c.switchValue? = some value ∧
            u = ((d.submitted c).switched register index value, h)))
      (fun _ u => d.Refuses c ∧ u = (d.submitted c, h)) := by
  cases d with
  | mk path data register maxTransfer stalls failCommands failSwitch =>
    cases failCommands with
    | true => exact Triple.of_error rfl ⟨.inl rfl, rfl⟩
    | false =>
      cases register with
      | none => exact Triple.of_error rfl ⟨.inr (.inl rfl), rfl⟩
      | some register =>
        by_cases ho : c.opcode = Mmc.Command.sendExtCsdOpcode
        · exact Triple.of_ok (if_pos ho) ⟨rfl, register, rfl, .inl ⟨ho, rfl, rfl⟩⟩
        cases hi : c.switchIndex? with
        | none =>
          exact Triple.of_error (by simp only [command, if_neg ho, hi]; rfl)
            ⟨.inr (.inr ⟨ho, .inr (.inl hi)⟩), rfl⟩
        | some index =>
          cases hv : c.switchValue? with
          | none =>
            exact Triple.of_error (by simp only [command, if_neg ho, hi, hv]; rfl)
              ⟨.inr (.inr ⟨ho, .inr (.inr hv)⟩), rfl⟩
          | some value =>
            cases failSwitch with
            | true =>
              exact Triple.of_error (by simp only [command, if_neg ho, hi, hv]; rfl)
                ⟨.inr (.inr ⟨ho, .inl rfl⟩), rfl⟩
            | false =>
              refine Triple.of_ok (a := buffer) ?_
                ⟨rfl, register, rfl, .inr ⟨ho, index, value, rfl, rfl, rfl⟩⟩
              simp only [command, if_neg ho, hi, hv]
              rfl

theorem refuses_sendExtCsd (h : d.Refuses .sendExtCsd) :
    d.failCommands = true ∨ d.register = none := by
  obtain hf | hr | ⟨ho, -⟩ := h
  · exact .inl hf
  · exact .inr hr
  · exact (ho rfl).elim

/-- Reading the register changes nothing. -/
theorem sendExtCsd_triple {buffer : ByteArray} :
    Triple (command .sendExtCsd buffer) (d, h) (fun _ u => u = (d.submitted .sendExtCsd, h))
      (fun _ u => u = (d.submitted .sendExtCsd, h)) := by
  refine Triple.mono command_triple ?_ fun _ _ hu => hu.2
  rintro reply u ⟨-, register, -, ⟨-, -, rfl⟩ | ⟨ho, -⟩⟩
  · rfl
  · exact (ho rfl).elim

/-- A switch that is carried out acts on the card as its octet says. -/
theorem switch_triple {c : Mmc.Command} {buffer : ByteArray} {index value : UInt8}
    (ho : c.opcode ≠ Mmc.Command.sendExtCsdOpcode) (hi : c.switchIndex? = some index)
    (hv : c.switchValue? = some value) :
    Triple (command c buffer) (d, h)
      (fun _ u => ∃ register, d.register = some register ∧
        u = ((d.submitted c).switched register index value, h))
      (fun _ u => u = (d.submitted c, h)) := by
  refine Triple.mono command_triple ?_ fun _ _ hu => hu.2
  rintro reply u ⟨-, register, hr, ⟨ho', -⟩ | ⟨-, index', value', hi', hv', rfl⟩⟩
  · exact (ho ho').elim
  · cases hi.symm.trans hi'
    cases hv.symm.trans hv'
    exact ⟨register, hr, rfl⟩

end EmmcVault.Memory.Disk
