import EmmcVault.Proofs.HonestTool

/-!
# Sections of a header dump

What is read of the texts that `cryptsetup` may print of a header: its version,
its active slots, and from them what the state of every slot is. A text is read
only if a line of it tells a version.
-/

namespace EmmcVault

open Text

/-- What a header of this version with these active slots says of a slot. -/
def KeyslotSet.Status {v : LuksVersion} (S : KeyslotSet v) (slot : UInt32) : KeySlotStatus → Prop
  | .invalid => v.maxKeyslots ≤ slot
  | .inactive => slot < v.maxKeyslots ∧ slot ∉ S.slots
  | .activeLast => S.slots = [slot]
  | .active => slot ∈ S.slots ∧ S.slots ≠ [slot]

namespace LuksDump

-- ---------------------------------------------------------------------------
-- The line of the version
-- ---------------------------------------------------------------------------

theorem Reading.version_entry {r : Reading} {text : List Char} :
    (r.entry text).version = r.version := by
  unfold entry
  split
  · split
    · unfold addSlot
      split <;> rfl
    · rfl
  · rfl

/-- A version that a heading tells, or an earlier line. -/
theorem Reading.version_heading {r : Reading} {text : List Char} {v : LuksVersion}
    (h : (r.heading text).version = some v) :
    (∃ value, text = "Version:".toList ++ value ∧ trim value = versionDigit v) ∨
      r.version = some v := by
  unfold heading at h
  split at h
  · rename_i value hvalue
    refine .inl ⟨value, eq_append_of_after? hvalue, ?_⟩
    have hv : versionOf? (trim value) = some v := h
    unfold versionOf? at hv
    split at hv
    · cases hv
      assumption
    split at hv
    · cases hv
      assumption
    · cases hv
  · split at h
    · split at h
      · unfold addSlot at h
        split at h
        · exact .inr h
        · exact .inr h
      · exact .inr h
    · exact .inr h

theorem Reading.version_line {r : Reading} {line : List Char} {v : LuksVersion}
    (h : (r.line line).version = some v) : VersionLine v line ∨ r.version = some v := by
  cases line with
  | nil => exact .inr h
  | cons c rest =>
    by_cases hblank : trim (c :: rest) = []
    · rw [line_blank hblank] at h
      exact .inr h
    cases hc : isBlank c with
    | true =>
      rw [line_setIn ⟨⟨c, rest, rfl, hc⟩, rfl⟩ hblank, version_entry] at h
      exact .inr h
    | false =>
      rw [line_atMargin ⟨⟨c, rest, rfl, hc⟩, rfl⟩] at h
      obtain ⟨value, hvalue, hv⟩ | h := version_heading h
      · exact .inl ⟨value, ⟨⟨c, rest, rfl, hc⟩, hvalue⟩, hv⟩
      · exact .inr h

theorem Reading.version_foldl {r : Reading} {lines : List (List Char)} {v : LuksVersion}
    (h : (lines.foldl Reading.line r).version = some v) :
    (∃ line ∈ lines, VersionLine v line) ∨ r.version = some v := by
  induction lines generalizing r with
  | nil => exact .inr h
  | cons line lines ih =>
    obtain ⟨l, hl, hv⟩ | h := ih h
    · exact .inl ⟨l, List.mem_cons_of_mem _ hl, hv⟩
    obtain hv | h := version_line h
    · exact .inl ⟨line, List.mem_cons_self .., hv⟩
    · exact .inr h

/-- What is read has a line that tells its version. -/
theorem versionLine_of_parse? {text : String} {d : LuksDump} (h : parse? text = some d) :
    ∃ line ∈ lines text.toList, VersionLine d.version line := by
  obtain ⟨v, hv, rfl⟩ := Option.map_eq_some_iff.mp h
  obtain hline | hstart := Reading.version_foldl hv
  · exact hline
  · cases hstart

end LuksDump

-- ---------------------------------------------------------------------------
-- The state of a slot
-- ---------------------------------------------------------------------------

namespace KeyslotSet

variable {v : LuksVersion} {S : KeyslotSet v} {slot : UInt32}

theorem eq_singleton (hm : slot ∈ S.slots) (hl : S.slots.length = 1) : S.slots = [slot] := by
  obtain ⟨s, hs⟩ := List.length_eq_one_iff.mp hl
  rw [hs] at hm
  rw [hs, List.mem_singleton.mp hm]

theorem status_holds : S.Status slot (LuksDump.status ⟨v, S.slots⟩ slot) := by
  unfold LuksDump.status
  dsimp only
  split
  · assumption
  rename_i hlt
  split
  · exact ⟨UInt32.not_le.mp hlt, by assumption⟩
  rename_i hm
  rw [Decidable.not_not] at hm
  split
  · exact eq_singleton hm (by assumption)
  rename_i hl
  exact ⟨hm, fun h => hl (by rw [h]; rfl)⟩

theorem status_iff {state : KeySlotStatus} :
    LuksDump.status ⟨v, S.slots⟩ slot = state ↔ S.Status slot state := by
  constructor
  · rintro rfl
    exact status_holds
  intro h
  have hbelow : slot ∈ S.slots → ¬ v.maxKeyslots ≤ slot := fun hm =>
    UInt32.not_le.mpr (S.below slot hm)
  unfold LuksDump.status
  cases state with
  | invalid => exact if_pos h
  | inactive => rw [if_neg (UInt32.not_le.mpr h.1), if_pos h.2]
  | activeLast =>
    have hs : S.slots = [slot] := h
    have hm : slot ∈ S.slots := by
      rw [hs]
      exact List.mem_singleton_self slot
    have hl : S.slots.length = 1 := congrArg List.length hs
    rw [if_neg (hbelow hm), if_neg (not_not_intro hm), if_pos hl]
  | active =>
    rw [if_neg (hbelow h.1), if_neg (not_not_intro h.1),
      if_neg fun hl => h.2 (eq_singleton h.1 hl)]

end KeyslotSet

-- ---------------------------------------------------------------------------
-- A dump and its header
-- ---------------------------------------------------------------------------

namespace LuksDump

open Linux.Cryptsetup (detail_key setIn_entry atMargin_tokens twoKeys)

/-- Of a dump with these sections, reading recovers the version and the active
slots of the header, and from them the state of every slot. A text without a
line that tells a version is refused. -/
theorem recovers_header :
    (∀ {v : LuksVersion} (S : KeyslotSet v) (text : String),
      Dump (¬ SlotNamed ·) v S.slots (lines text.toList) →
        parse? text = some ⟨v, S.slots⟩ ∧
          ∀ slot state, status ⟨v, S.slots⟩ slot = state ↔ S.Status slot state) ∧
    ∀ text : String, (∀ line ∈ lines text.toList, ∀ v, ¬ VersionLine v line) →
      parse? text = none := by
  refine ⟨fun S text h => ⟨parse?_of_dump h S.ascending, fun _ _ => KeyslotSet.status_iff⟩,
    fun text h => ?_⟩
  cases hread : parse? text with
  | none => rfl
  | some d =>
    obtain ⟨line, hl, hv⟩ := versionLine_of_parse? hread
    exact absurd hv (h line hl d.version)

def withTokens : List (List Char) :=
  ["LUKS header information".toList] ++ "Version:       \t2".toList ::
    (["".toList, "Data segments:".toList, "  0: crypt".toList, "".toList] ++
      "Keyslots:".toList ::
        (["  0: luks2".toList, "\tKey:        512 bits".toList, "  3: luks2".toList] ++
          ["Tokens:".toList, "  1: systemd-tpm2".toList]))

theorem dump_withTokens : Dump (¬ SlotNamed ·) .luks2 [0, 3] withTokens := by
  have hdetail : Detail "\tKey:        512 bits".toList :=
    detail_key ⟨⟨_, _, rfl, rfl⟩, by decide⟩
  have hsection : SlotSection [0, 3]
      ["  0: luks2".toList, "\tKey:        512 bits".toList, "  3: luks2".toList] :=
    .entry (setIn_entry 0) (.detail hdetail (.entry (setIn_entry 3) .nil))
  refine .luks2 (asides_of_all (by decide))
    ⟨"       \t2".toList, atMargin_self rfl (by decide), by decide⟩ (asides_of_all (by decide))
    (atMargin_self rfl (by decide)) hsection (fun _ => Iff.rfl) (asides_of_all (by decide)) ?_
  rintro _ ⟨⟩
  exact atMargin_tokens

/-- The tokens of this dump do not count, and a dump needs a line of the version. -/
theorem recovers_header_withTokens :
    parse? (textOf withTokens) = some ⟨.luks2, [0, 3]⟩ ∧
      status ⟨.luks2, [0, 3]⟩ 1 = .inactive ∧
      parse? (textOf ["Keyslots:".toList, "  0: luks2".toList]) = none := by
  have hdump : Dump (¬ SlotNamed ·) .luks2 [0, 3] (lines (textOf withTokens).toList) := by
    rw [lines_textOf (by decide)]
    exact dump_withTokens
  obtain ⟨hread, hstatus⟩ := recovers_header.1 twoKeys (textOf withTokens) hdump
  refine ⟨hread, (hstatus 1 .inactive).mpr ⟨by decide, by decide⟩,
    recovers_header.2 _ fun line hl v => ?_⟩
  rw [lines_textOf (by decide)] at hl
  rintro ⟨value, ⟨-, hversion⟩, -⟩
  have hfirst : (trim line).head? = some 'V' := by
    rw [hversion]
    rfl
  obtain rfl | rfl : line = "Keyslots:".toList ∨ line = "  0: luks2".toList := by simpa using hl
  · exact absurd hfirst (by decide)
  · exact absurd hfirst (by decide)

/-- A section after that of the slots, headed like a slot of the older format. -/
def misleading : List (List Char) :=
  ["LUKS header information".toList] ++ "Version:       \t2".toList ::
    (["".toList] ++ "Keyslots:".toList :: (["  0: luks2".toList] ++
      ["Key Slot priorities:".toList, "  1: high".toList]))

/-- The heading of a section, whatever its name. -/
def IsHeading (text : List Char) : Prop := ∃ name, text = name ++ [':']

/-- Slot 0 alone is active in this header, and the reading counts slot 1 as well. -/
theorem not_recovers_header_slotHeading :
    Dump IsHeading .luks2 [0] (lines (textOf misleading).toList) ∧
      parse? (textOf misleading) = some ⟨.luks2, [0, 1]⟩ := by
  rw [parse?, lines_textOf (by decide)]
  refine ⟨?_, by decide⟩
  have henables : ¬ Enables "Key Slot priorities:".toList := by
    rintro ⟨slot, state, he, hslot, -, hstate⟩
    have hcut : "Key Slot ".toList ++ "priorities:".toList =
        "Key Slot ".toList ++ (slot ++ ':' :: state) := he
    have hsplit : splitOnce ':' "priorities:".toList = some (slot, state) := by
      rw [List.append_cancel_left hcut, splitOnce_append hslot]
    have hempty : state = [] := (congrArg Prod.snd (Option.some.inj hsplit)).symm
    rw [hempty] at hstate
    exact absurd hstate (by decide)
  have hsection : SlotSection [0] ["  0: luks2".toList] := .entry (setIn_entry 0) .nil
  refine .luks2 (asides_of_all (by decide))
    ⟨"       \t2".toList, atMargin_self rfl (by decide), by decide⟩ (asides_of_all (by decide))
    (atMargin_self rfl (by decide)) hsection (fun _ => Iff.rfl) ?_ ?_
  · simp only [List.forall_mem_cons]
    exact ⟨.atMargin (atMargin_self rfl (by decide)) (by decide) henables (by decide),
      aside_of_looksAside (by decide), List.forall_mem_nil _⟩
  · rintro _ ⟨⟩
    exact ⟨_, atMargin_self rfl (by decide), "Key Slot priorities".toList, by decide⟩

end LuksDump

end EmmcVault
