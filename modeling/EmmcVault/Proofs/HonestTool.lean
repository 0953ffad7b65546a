import EmmcVault.Proofs.DumpLayout
import EmmcVault.Proofs.HostLog

/-!
# A tool that does what it is asked

What is assumed of `cryptsetup` where it works: it prints the header of the
device as it is and removes the keyslots that it is asked to remove. What the
calls of the backend on such a tool give, and which of its runs remove a slot.
-/

namespace EmmcVault

open Text Linux LuksDump

-- ---------------------------------------------------------------------------
-- Keyslots
-- ---------------------------------------------------------------------------

theorem LuksVersion.maxKeyslots_le (v : LuksVersion) : v.maxKeyslots.toNat ≤ 32 := by
  cases v <;> decide

/-- The active slots of a header of this version. -/
structure KeyslotSet (v : LuksVersion) where
  slots : List UInt32
  ascending : Ascending slots
  below : ∀ slot ∈ slots, slot < v.maxKeyslots

namespace KeyslotSet

variable {v : LuksVersion} {S : KeyslotSet v} {slot n : UInt32}

def empty : KeyslotSet v := ⟨[], .nil, nofun⟩

def erase (S : KeyslotSet v) (slot : UInt32) : KeyslotSet v where
  slots := S.slots.erase slot
  ascending := S.ascending.sublist List.erase_sublist
  below n hn := S.below n (List.mem_of_mem_erase hn)

theorem eq_empty (h : S.slots = []) : S = empty := by
  cases S
  cases h
  rfl

theorem status_holdsKeyMaterial (h : slot < v.maxKeyslots) :
    (LuksDump.status ⟨v, S.slots⟩ slot).holdsKeyMaterial = true ↔ slot ∈ S.slots := by
  unfold LuksDump.status
  rw [if_neg (UInt32.not_le.mpr h)]
  by_cases hm : slot ∈ S.slots
  · by_cases hl : S.slots.length = 1 <;> simp [hm, hl, KeySlotStatus.holdsKeyMaterial]
  · simp [hm, KeySlotStatus.holdsKeyMaterial]

theorem succ_le_of_lt (h : slot < n) : slot + 1 ≤ n := by
  have hn := n.toNat_lt
  rw [UInt32.lt_iff_toNat_lt] at h
  rw [UInt32.le_iff_toNat_le, UInt32.toNat_add]
  simp only [UInt32.toNat_one]
  omega

/-- Ascending slots fit between the first and the bound. -/
theorem length_le_of_ascending {slots : List UInt32} (low : UInt32) (ha : Ascending slots)
    (hbounds : ∀ n ∈ slots, low ≤ n ∧ n < v.maxKeyslots) :
    slots.length ≤ v.maxKeyslots.toNat - low.toNat := by
  induction slots generalizing low with
  | nil => simp
  | cons first rest ih =>
    obtain ⟨hlow, hmax⟩ := hbounds first (List.mem_cons_self ..)
    have hrest := ih (first + 1) ha.of_cons fun n hn =>
      ⟨succ_le_of_lt (List.rel_of_pairwise_cons ha hn), (hbounds n (List.mem_cons_of_mem _ hn)).2⟩
    have hv := v.maxKeyslots_le
    rw [UInt32.le_iff_toNat_le] at hlow
    rw [UInt32.lt_iff_toNat_lt] at hmax
    rw [UInt32.toNat_add, UInt32.toNat_one] at hrest
    rw [List.length_cons]
    omega

theorem length_le : S.slots.length ≤ v.maxKeyslots.toNat := by
  have h := length_le_of_ascending 0 S.ascending fun n hn =>
    ⟨UInt32.le_iff_toNat_le.mpr (Nat.zero_le _), S.below n hn⟩
  simpa using h

/-- The least active slot comes first. -/
theorem eq_cons_erase (hm : slot ∈ S.slots) (hmin : ∀ n ∈ S.slots, slot ≤ n) :
    S.slots = slot :: S.slots.erase slot := by
  cases hs : S.slots with
  | nil => simp [hs] at hm
  | cons first rest =>
    have ha : Ascending (first :: rest) := hs ▸ S.ascending
    have hfirst : first = slot := by
      rw [hs] at hm
      obtain rfl | hrest := List.mem_cons.mp hm
      · rfl
      · have hlt : first < slot := List.rel_of_pairwise_cons ha hrest
        exact absurd hlt (UInt32.not_lt.mpr (hmin first (hs ▸ List.mem_cons_self ..)))
    rw [hfirst, List.erase_cons_head]

theorem lt_of_mem_erase (hm : slot ∈ S.slots) (hmin : ∀ n ∈ S.slots, slot ≤ n)
    (hn : n ∈ S.slots.erase slot) : slot < n := by
  have ha : Ascending (slot :: S.slots.erase slot) := eq_cons_erase hm hmin ▸ S.ascending
  exact List.rel_of_pairwise_cons ha hn

end KeyslotSet

-- ---------------------------------------------------------------------------
-- The tool
-- ---------------------------------------------------------------------------

namespace Linux.Cryptsetup

variable {σ η : Type} {v : LuksVersion}

def killRun (program : String) (device : Path) (slot : UInt32) : ToolRun :=
  toolRun program ["luksKillSlot", "--batch-mode"] [device.octets, Utf8.encode (toString slot)]

/-- The tool finds the header on the device, prints it with the active slots it
has and removes those that it is asked to remove. `Shows` says in which worlds
the header has which slots. -/
structure Honest (h : Host σ η) (program : String) (device : Path)
    (Shows : KeyslotSet v → σ → Prop) : Prop where
  pathExists {S w} : Shows S w → h.pathExists w device = true
  isLuks {S w} : Shows S w → h.Runs (toolRun program ["isLuks"] [device.octets]) w
    fun out w' => out.code = some 0 ∧ Shows S w'
  luksDump {S w} : Shows S w → h.Runs (toolRun program ["luksDump"] [device.octets]) w
    fun out w' => out.code = some 0 ∧
      Dump (¬ SlotNamed ·) v S.slots (lines (Utf8.lossy out.out).toList) ∧ Shows S w'
  luksKillSlot {S w slot} : Shows S w → slot ∈ S.slots → h.Runs (killRun program device slot) w
    fun out w' => out.code = some 0 ∧ Shows (S.erase slot) w'

/-- The run asks for a slot to be removed. -/
def removes (r : ToolRun) : Bool := r.args.head? == some (Utf8.encode "luksKillSlot")

/-- The header has these slots, and these runs so far asked for one to be
removed. -/
def Holds (Shows : KeyslotSet v → σ → Prop) (S : KeyslotSet v) (removals : List ToolRun)
    (s : Logged σ) : Prop :=
  Shows S s.world ∧ s.runs.filter removes = removals

variable {h : Host σ η} {program : String} {device : Path} {Shows : KeyslotSet v → σ → Prop}
  {S : KeyslotSet v} {removals : List ToolRun} {slot : UInt32}

theorem pathArg_triple {s : Logged σ} (hd : device.text?.isSome = true) :
    Triple (pathArg device) s (fun arg s' => arg = device.octets ∧ s' = s) (fun _ _ => False) := by
  unfold pathArg
  rw [if_pos hd]
  exact Triple.pure ⟨rfl, rfl⟩

theorem requireDevice_triple {s : Logged σ} (hp : h.pathExists s.world device = true) :
    Triple (requireDevice h.logged device) s (fun _ s' => s' = s) (fun _ _ => False) := by
  refine Triple.bind (R := fun seen s' => seen = s ∧ s' = s) ⟨rfl, rfl⟩ ?_
  rintro _ _ ⟨rfl, rfl⟩
  rw [if_pos (show h.logged.pathExists _ device = true from hp)]
  exact Triple.pure rfl

theorem Holds.after {S' : KeyslotSet v} {s s' : Logged σ} {r : ToolRun}
    (hs : Holds Shows S removals s) (hshows : Shows S' s'.world) (hruns : s'.runs = s.runs ++ [r]) :
    Holds Shows S' (removals ++ [r].filter removes) s' :=
  ⟨hshows, by rw [hruns, List.filter_append, hs.2]⟩

/-- One more tool was run, and not to remove a slot. -/
theorem Holds.afterQuery {s s' : Logged σ} {r : ToolRun} (hs : Holds Shows S removals s)
    (hshows : Shows S s'.world) (hruns : s'.runs = s.runs ++ [r]) (hr : removes r = false) :
    Holds Shows S removals s' := by
  have h := hs.after hshows hruns
  rwa [List.filter_cons_of_neg (by simp [hr]), List.filter_nil, List.append_nil] at h

section
variable (honest : Honest h program device Shows) (hd : device.text?.isSome = true)
include honest hd

theorem dump_triple {s : Logged σ} (hs : Holds Shows S removals s) :
    Triple (dump h.logged program device) s
      (fun d s' => d = ⟨v, S.slots⟩ ∧ Holds Shows S removals s') (fun _ _ => False) := by
  refine Triple.bind (pathArg_triple hd) ?_
  rintro _ _ ⟨rfl, rfl⟩
  refine Triple.bind (honest.luksDump hs.1).checked ?_
  rintro _ s' ⟨out, rfl, ⟨hdump, hshows⟩, hruns⟩
  have hparse : LuksDump.parse? (ToolReport.ofOutput out).out = some ⟨v, S.slots⟩ :=
    parse?_of_dump hdump S.ascending
  simp only [hparse]
  exact Triple.pure ⟨rfl, hs.afterQuery hshows hruns rfl⟩

theorem readHeader_triple {s : Logged σ} (hs : Holds Shows S removals s) :
    Triple (load h.logged program device) s
      (fun version s' => version = v ∧ Holds Shows S removals s') (fun _ _ => False) := by
  refine Triple.bind (requireDevice_triple (honest.pathExists hs.1)) ?_
  rintro _ _ rfl
  refine Triple.bind (R := fun _ => Holds Shows S removals) ?_ fun _ s' hs' => ?_
  · refine Triple.bind (pathArg_triple hd) ?_
    rintro _ _ ⟨rfl, rfl⟩
    refine Triple.bind (honest.isLuks hs.1).report ?_
    rintro _ s' ⟨out, rfl, ⟨hcode, hshows⟩, hruns⟩
    simp only [ToolReport.succeeded_ofOutput hcode]
    exact Triple.pure (hs.afterQuery hshows hruns rfl)
  refine Triple.bind (dump_triple honest hd hs') ?_
  rintro _ s'' ⟨rfl, hs''⟩
  exact Triple.pure ⟨rfl, hs''⟩

theorem killSlot_triple {s : Logged σ} (hs : Holds Shows S removals s) (hm : slot ∈ S.slots) :
    Triple (killSlot h.logged program device slot) s
      (fun _ => Holds Shows (S.erase slot) (removals ++ [killRun program device slot]))
      (fun _ _ => False) := by
  refine Triple.bind (pathArg_triple hd) ?_
  rintro _ _ ⟨rfl, rfl⟩
  refine Triple.bind (honest.luksKillSlot hs.1 hm).checked ?_
  rintro _ s' ⟨out, rfl, hshows, hruns⟩
  exact Triple.pure (hs.after hshows hruns)

theorem load_triple {s : Session (Logged σ)} (hs : Holds Shows S removals s.world) :
    Triple ((backend h.logged program).load device) s
      (fun version s' => version = v ∧ Holds Shows S removals s'.world) (fun _ _ => False) :=
  Session.onWorld_triple (Triple.adaptExcept (readHeader_triple honest hd hs))

theorem keyslotStatus_triple {s : Session (Logged σ)} (hs : Holds Shows S removals s.world) :
    Triple ((backend h.logged program).keyslotStatus device slot) s
      (fun status s' => status = LuksDump.status ⟨v, S.slots⟩ slot ∧
        Holds Shows S removals s'.world) (fun _ _ => False) := by
  refine Session.onWorld_triple (Triple.adaptExcept ?_)
  refine Triple.bind (dump_triple honest hd hs) ?_
  rintro _ s' ⟨rfl, hs'⟩
  exact Triple.pure ⟨rfl, hs'⟩

theorem destroyKeyslot_triple {s : Session (Logged σ)} (hs : Holds Shows S removals s.world)
    (hm : slot ∈ S.slots) :
    Triple ((backend h.logged program).destroyKeyslot device slot) s
      (fun _ s' => Holds Shows (S.erase slot) (removals ++ [killRun program device slot]) s'.world)
      (fun _ _ => False) :=
  Session.onWorld_triple (Triple.adaptExcept (killSlot_triple honest hd hs hm))

end

-- ---------------------------------------------------------------------------
-- Such a tool
-- ---------------------------------------------------------------------------

def entryLines (slot : UInt32) : List (List Char) :=
  ["  ".toList ++ ((toString slot).toList ++ ": luks2".toList), "\tKey:        512 bits".toList]

/-- What is printed of a header of the newer format. -/
def dumpLines (slots : List UInt32) : List (List Char) :=
  ["LUKS header information".toList] ++ "Version:       \t2".toList ::
    (["Epoch:         \t3".toList, []] ++ "Keyslots:".toList ::
      (slots.flatMap entryLines ++ ["Tokens:".toList, "Digests:".toList, "  0: pbkdf2".toList]))

/-- The tool over a header of the newer format, of which the world keeps the
active slots. -/
def headerTool (r : ToolRun) : SystemCall (List UInt32) ToolOutput := fun slots =>
  if r.args.head? = some (Utf8.encode "isLuks") then .ok {} slots
  else if r.args.head? = some (Utf8.encode "luksDump") then
    .ok { out := Utf8.encode (textOf (dumpLines slots)) } slots
  else if removes r then
    match slots.find? fun slot => r.args.getLast? = some (Utf8.encode (toString slot)) with
    | some slot => .ok {} (slots.erase slot)
    | none => .ok { code := some 1 } slots
  else .ok { code := some 1 } slots

/-- A character of a line of ASCII text. -/
def plain (c : Char) : Bool := c.toNat < 128 && c != '\n' && c != '\r'

theorem plain_of_isDigit {c : Char} (h : c.isDigit = true) : plain c = true := by
  have hc := toNat_of_isDigit h
  have hn : c ≠ '\n' := by
    rintro rfl
    exact absurd hc.1 (by decide)
  have hr : c ≠ '\r' := by
    rintro rfl
    exact absurd hc.1 (by decide)
  simp only [plain, Bool.and_eq_true, decide_eq_true_eq, bne_iff_ne]
  exact ⟨⟨Nat.lt_of_le_of_lt hc.2 (by decide), hn⟩, hr⟩

theorem plain_toString (n : UInt32) : (toString n).toList.all plain = true :=
  List.all_eq_true.mpr fun _ hc => plain_of_isDigit (Decimal.isDigit_of_mem_toString hc)

theorem dumpLines_plain {slots : List UInt32} :
    ∀ line ∈ dumpLines slots, line.all plain = true := by
  have hentries : ∀ line ∈ slots.flatMap entryLines, line.all plain = true := by
    intro line hline
    obtain ⟨slot, -, hslot⟩ := List.mem_flatMap.mp hline
    obtain rfl | hslot := List.mem_cons.mp hslot
    · rw [List.all_append, List.all_append, plain_toString]
      decide
    · obtain rfl := List.mem_singleton.mp hslot
      decide
  simp only [dumpLines, List.forall_mem_append, List.forall_mem_cons]
  exact ⟨by decide, by decide, by decide, by decide, hentries, by decide⟩

theorem lines_of_plain {ls : List (List Char)} (h : ∀ line ∈ ls, line.all plain = true) :
    lines (Utf8.lossy (Utf8.encode (textOf ls))).toList = ls := by
  simp only [List.all_eq_true, plain, Bool.and_eq_true, decide_eq_true_eq, bne_iff_ne] at h
  rw [Utf8.lossy_encode]
  · exact lines_textOf fun line hl =>
      ⟨fun hn => (h line hl _ hn).1.2 rfl, fun hr => (h line hl _ hr).2 rfl⟩
  · intro c hc
    rw [textOf, String.toList_ofList] at hc
    obtain ⟨line, hl, hc⟩ := List.mem_flatMap.mp hc
    obtain hc | hc := List.mem_append.mp hc
    · exact (h line hl c hc).1.1
    · obtain rfl := List.mem_singleton.mp hc
      decide

theorem setIn_entry (slot : UInt32) :
    SetIn ("  ".toList ++ ((toString slot).toList ++ ": luks2".toList))
      ((toString slot).toList ++ ':' :: " luks2".toList) := by
  refine ⟨⟨' ', _, rfl, rfl⟩, trim_padded "  ".toList (by decide) ?_ ?_⟩
  · intro c hc
    cases hd : (toString slot).toList with
    | nil => exact absurd ((Decimal.toList_toString slot).symm.trans hd) Nat.toDigits_ne_nil
    | cons d ds =>
      rw [hd] at hc
      obtain rfl : d = c := by simpa using hc
      exact isBlank_of_isDigit (Decimal.isDigit_of_mem_toString (hd ▸ List.mem_cons_self ..))
  · intro c hc
    obtain rfl : '2' = c := by simpa [List.getLast?_append] using hc
    decide

/-- The name `Key` is not the number of a slot. -/
theorem detail_key {value : List Char} (h : SetIn ('\t' :: ("Key".toList ++ ':' :: value))
    ("Key".toList ++ ':' :: value)) : Detail ('\t' :: ("Key".toList ++ ':' :: value)) := by
  refine .named h (by decide) ?_
  rintro ⟨digits, hk | hk, -, hdigits, -⟩
  · exact absurd (hdigits 'K' (hk ▸ List.mem_cons_self ..)) (by decide)
  · cases hk

theorem slotSection_entries (slots : List UInt32) :
    SlotSection slots (slots.flatMap entryLines) := by
  induction slots with
  | nil => exact .nil
  | cons slot slots ih =>
    have hdetail : Detail "\tKey:        512 bits".toList :=
      detail_key ⟨⟨_, _, rfl, rfl⟩, by decide⟩
    exact .entry (setIn_entry slot) (.detail hdetail ih)

/-- The heading of the tokens is not taken for a slot. -/
theorem atMargin_tokens : ∃ text, AtMargin "Tokens:".toList text ∧ ¬ SlotNamed text := by
  refine ⟨_, atMargin_self rfl (by decide), ?_⟩
  rintro ⟨rest, h, -⟩
  cases h

theorem dump_dumpLines (slots : List UInt32) :
    Dump (¬ SlotNamed ·) .luks2 slots (dumpLines slots) := by
  refine .luks2 (asides_of_all (by decide))
    ⟨"       \t2".toList, atMargin_self rfl (by decide), by decide⟩ (asides_of_all (by decide))
    (atMargin_self rfl (by decide)) (slotSection_entries slots) (fun _ => Iff.rfl)
    (asides_of_all (by decide)) ?_
  rintro _ ⟨⟩
  exact atMargin_tokens

def HasSlots (S : KeyslotSet .luks2) (w : Attended (List UInt32)) : Prop := w.world = S.slots

def twoKeys : KeyslotSet .luks2 where
  slots := [0, 3]
  ascending := by unfold Ascending; decide
  below n hn := by
    obtain rfl | rfl : n = 0 ∨ n = 3 := by simpa using hn
    · decide
    · decide

theorem encode_toString_inj {a b : UInt32}
    (h : Utf8.encode (toString a) = Utf8.encode (toString b)) : a = b := by
  have hlossy : ∀ n : UInt32, Utf8.lossy (Utf8.encode (toString n)) = toString n := fun n =>
    Utf8.lossy_encode fun c hc => Nat.lt_of_le_of_lt
      (toNat_of_isDigit (Decimal.isDigit_of_mem_toString hc)).2 (by decide)
  have htext : (toString a).toList = (toString b).toList := by
    rw [← hlossy a, h, hlossy]
  have hread := Decimal.parseUInt32?_toString a
  rw [htext, Decimal.parseUInt32?_toString] at hread
  exact (Option.some.inj hread).symm

/-- The tool does what it is asked, whatever slots are active. -/
theorem headerTool_honest (device : Path) :
    Honest (Host.ofTools (fun _ _ => true) headerTool) tool device HasSlots where
  pathExists _ := rfl
  isLuks {S w} hs := ⟨{}, { world := w.world }, Host.ofTools_run rfl, rfl, hs⟩
  luksDump {S w} hs := by
    refine ⟨{ out := Utf8.encode (textOf (dumpLines w.world)) }, { world := w.world },
      Host.ofTools_run rfl, rfl, ?_, hs⟩
    rw [lines_of_plain dumpLines_plain, show w.world = S.slots from hs]
    exact dump_dumpLines S.slots
  luksKillSlot {S w slot} hs hm := by
    refine ⟨{}, { world := S.slots.erase slot }, Host.ofTools_run ?_, rfl, rfl⟩
    have hcommand : (killRun tool device slot).args.head? = some (Utf8.encode "luksKillSlot") := rfl
    have hlast : (killRun tool device slot).args.getLast? =
        some (Utf8.encode (toString slot)) := rfl
    have hfound : S.slots.find? (fun n => some (Utf8.encode (toString slot)) =
        some (Utf8.encode (toString n))) = some slot := by
      cases hf : S.slots.find? _ with
      | none => exact absurd (List.find?_eq_none.mp hf slot hm) (by simp)
      | some n =>
        have hn : Utf8.encode (toString slot) = Utf8.encode (toString n) := by
          simpa using List.find?_some hf
        rw [encode_toString_inj hn]
    rw [show w.world = S.slots from hs, headerTool, removes, hcommand, if_neg (by decide),
      if_neg (by decide), if_pos (by decide), hlast, hfound]

end Linux.Cryptsetup

end EmmcVault
