import EmmcVault.Luks.Dump

/-!
# The layout of a header dump

What the `cryptsetup` tool prints of a header with a version and a set of
active slots: a version line; then, in the older format, a line for each slot,
and in the newer one a section that lists the active slots. Other lines, other
sections with numbered entries of their own and blank lines may stand between.
Reading a dump so laid out gives the version and the slots back, unless the
section after the list of slots is headed like a slot of the older format: the
reading takes such a heading for one and stays in the list.
-/

namespace EmmcVault.LuksDump

open Text

-- ---------------------------------------------------------------------------
-- Lines
-- ---------------------------------------------------------------------------

/-- The line begins at the margin and reads `text`. -/
def AtMargin (line text : List Char) : Prop :=
  (∃ c rest, line = c :: rest ∧ isBlank c = false) ∧ trim line = text

/-- The line is set in from the margin and reads `text`. -/
def SetIn (line text : List Char) : Prop :=
  (∃ c rest, line = c :: rest ∧ isBlank c = true) ∧ trim line = text

theorem atMargin_self {c : Char} {rest : List Char} (hc : isBlank c = false)
    (ht : trim (c :: rest) = c :: rest) : AtMargin (c :: rest) (c :: rest) :=
  ⟨⟨c, rest, rfl, hc⟩, ht⟩

/-- The text enables a slot of the older format. -/
def Enables (text : List Char) : Prop :=
  ∃ slot state, text = "Key Slot ".toList ++ (slot ++ ':' :: state) ∧ ':' ∉ slot ∧
    Decimal.IsNumber UInt32.size (trim slot) ∧ trim state = "ENABLED".toList

/-- The name before the first colon begins like that of a slot. -/
def SlotNamed (text : List Char) : Prop :=
  ∃ rest, text = "Key Slot ".toList ++ rest ∧ ':' ∈ rest

/-- A line that neither tells the version nor enables a slot nor is the heading
of the slots: one of the header, a heading or an entry of another section. -/
inductive Aside : List Char → Prop
  | blank {line} : trim line = [] → Aside line
  | setIn {line text} : SetIn line text → Aside line
  | atMargin {line text} : AtMargin line text → ¬ "Version:".toList <+: text → ¬ Enables text →
      text ≠ "Keyslots:".toList → Aside line

/-- A line at the margin that begins neither like the version nor like a slot. -/
theorem AtMargin.aside {line text : List Char} (h : AtMargin line text)
    (hv : ¬ "Version:".toList <+: text) (hs : ¬ "Key Slot ".toList <+: text)
    (hk : text ≠ "Keyslots:".toList) : Aside line :=
  .atMargin h hv (fun ⟨_, _, he, _⟩ => hs ⟨_, he.symm⟩) hk

/-- The line is empty, set in, or at the margin without blanks at its end and
with none of the beginnings that count. -/
def looksAside : List Char → Bool
  | [] => true
  | c :: rest => isBlank c || trim (c :: rest) == c :: rest &&
      !"Version:".toList.isPrefixOf (c :: rest) && !"Key Slot ".toList.isPrefixOf (c :: rest) &&
      c :: rest != "Keyslots:".toList

theorem aside_of_looksAside {line : List Char} (h : looksAside line = true) : Aside line := by
  cases line with
  | nil => exact .blank rfl
  | cons c rest =>
    cases hc : isBlank c with
    | true => exact .setIn ⟨⟨c, rest, rfl, hc⟩, rfl⟩
    | false =>
      simp only [looksAside, hc, Bool.false_or, Bool.and_eq_true, beq_iff_eq, bne_iff_ne,
        Bool.not_eq_true', Bool.eq_false_iff, ne_eq, List.isPrefixOf_iff_prefix] at h
      exact (atMargin_self hc h.1.1.1).aside h.1.1.2 h.1.2 h.2

theorem asides_of_all {lines : List (List Char)} (h : lines.all looksAside = true) :
    ∀ line ∈ lines, Aside line := fun line hl =>
  aside_of_looksAside (List.all_eq_true.mp h line hl)

/-- No line both begins at the margin and is set in from it. -/
theorem AtMargin.not_setIn {line text other : List Char} (h : AtMargin line text) :
    ¬ SetIn line other := by
  obtain ⟨⟨c, rest, rfl, hc⟩, -⟩ := h
  rintro ⟨⟨d, more, hd, hblank⟩, -⟩
  cases hd
  cases hc.symm.trans hblank

theorem AtMargin.not_blank {line text : List Char} (h : AtMargin line text) : trim line ≠ [] := by
  obtain ⟨⟨c, rest, rfl, hc⟩, -⟩ := h
  exact trim_ne_nil hc

def versionDigit : LuksVersion → List Char
  | .luks1 => ['1']
  | .luks2 => ['2']

def VersionLine (v : LuksVersion) (line : List Char) : Prop :=
  ∃ value, AtMargin line ("Version:".toList ++ value) ∧ trim value = versionDigit v

/-- A slot of the older format and its state. -/
def SlotLine (slot : UInt32) (state line : List Char) : Prop :=
  ∃ written, AtMargin line ("Key Slot ".toList ++ (toString slot).toList ++ ':' :: written) ∧
    trim written = state

/-- Lines that tell of slots in the older format, of which these are enabled. -/
inductive SlotTable : (enabled : List UInt32) → List (List Char) → Prop
  | nil : SlotTable [] []
  | aside {slots line lines} : Aside line → SlotTable slots lines → SlotTable slots (line :: lines)
  | disabled {slots slot line lines} : SlotLine slot "DISABLED".toList line →
      SlotTable slots lines → SlotTable slots (line :: lines)
  | enabled {slots slot line lines} : SlotLine slot "ENABLED".toList line →
      SlotTable slots lines → SlotTable (slot :: slots) (line :: lines)

/-- A blank line or a property of a slot in the newer format. Its name is not
the number of a slot, or it has none. -/
inductive Detail : List Char → Prop
  | blank {line} : trim line = [] → Detail line
  | unnamed {line text} : SetIn line text → ':' ∉ text → Detail line
  | named {line name value} : SetIn line (name ++ ':' :: value) → ':' ∉ name →
      ¬ Decimal.IsNumber UInt32.size name → Detail line

/-- The section of the slots `listed` in the newer format, below its heading. -/
inductive SlotSection : (listed : List UInt32) → List (List Char) → Prop
  | nil : SlotSection [] []
  | detail {listed line lines} : Detail line → SlotSection listed lines →
      SlotSection listed (line :: lines)
  | entry {listed slot type line lines} : SetIn line ((toString slot).toList ++ ':' :: type) →
      SlotSection listed lines → SlotSection (slot :: listed) (line :: lines)

/-- The lines of a dump of a header of this version with these active slots.
The section of the slots ends with the dump or with a line at the margin that
is as `next` says. -/
inductive Dump (next : List Char → Prop) : LuksVersion → List UInt32 → List (List Char) → Prop
  | luks1 {slots before version enabled table} :
      (∀ line ∈ before, Aside line) → VersionLine .luks1 version →
      SlotTable enabled table → (∀ slot, slot ∈ enabled ↔ slot ∈ slots) →
      Dump next .luks1 slots (before ++ version :: table)
  | luks2 {slots before version between heading listed body after} :
      (∀ line ∈ before, Aside line) → VersionLine .luks2 version →
      (∀ line ∈ between, Aside line) → AtMargin heading "Keyslots:".toList →
      SlotSection listed body → (∀ slot, slot ∈ listed ↔ slot ∈ slots) →
      (∀ line ∈ after, Aside line) →
      (∀ line ∈ after.head?, ∃ text, AtMargin line text ∧ next text) →
      Dump next .luks2 slots (before ++ version :: (between ++ heading :: (body ++ after)))

-- ---------------------------------------------------------------------------
-- Ascending lists
-- ---------------------------------------------------------------------------

def Ascending (slots : List UInt32) : Prop := slots.Pairwise (· < ·)

theorem insertSlot_ascending {slot : UInt32} {slots : List UInt32} (h : Ascending slots) :
    Ascending (insertSlot slot slots) := by
  fun_induction insertSlot slot slots with
  | case1 => exact List.pairwise_singleton _ _
  | case2 s rest hlt =>
    refine List.pairwise_cons.mpr ⟨?_, h⟩
    intro n hn
    obtain rfl | hn := List.mem_cons.mp hn
    · exact hlt
    · exact UInt32.lt_trans hlt (List.rel_of_pairwise_cons h hn)
  | case3 => exact h
  | case4 s rest hlt hne ih =>
    refine List.pairwise_cons.mpr ⟨?_, ih h.of_cons⟩
    intro n hn
    obtain rfl | hn := mem_insertSlot.mp hn
    · exact UInt32.lt_of_le_of_ne (UInt32.not_lt.mp hlt) fun e => hne e.symm
    · exact List.rel_of_pairwise_cons h hn

/-- A list in ascending order is known by its members. -/
theorem Ascending.eq_of_mem_iff {xs ys : List UInt32} (hx : Ascending xs) (hy : Ascending ys)
    (h : ∀ n, n ∈ xs ↔ n ∈ ys) : xs = ys := by
  have nodup : ∀ {zs : List UInt32}, Ascending zs → zs.Nodup := fun hz =>
    hz.imp fun hlt => UInt32.ne_of_lt hlt
  refine List.Perm.eq_of_pairwise (fun a b _ _ hab hba => ?_) hx hy
    ((List.perm_ext_iff_of_nodup (nodup hx) (nodup hy)).mpr h)
  exact absurd hba (UInt32.lt_asymm hab)

def insertAll (listed slots : List UInt32) : List UInt32 :=
  listed.foldl (fun slots slot => insertSlot slot slots) slots

theorem mem_insertAll {listed slots : List UInt32} {n : UInt32} :
    n ∈ insertAll listed slots ↔ n ∈ listed ∨ n ∈ slots := by
  induction listed generalizing slots with
  | nil => simp [insertAll]
  | cons slot listed ih =>
    have hstep : insertAll (slot :: listed) slots = insertAll listed (insertSlot slot slots) := rfl
    rw [hstep, ih, mem_insertSlot, List.mem_cons]
    grind

theorem insertAll_ascending {listed slots : List UInt32} (h : Ascending slots) :
    Ascending (insertAll listed slots) := by
  induction listed generalizing slots with
  | nil => exact h
  | cons slot listed ih => exact ih (insertSlot_ascending h)

theorem insertAll_nil {listed slots : List UInt32} (ha : Ascending slots)
    (h : ∀ slot, slot ∈ listed ↔ slot ∈ slots) : insertAll listed [] = slots := by
  refine (insertAll_ascending List.Pairwise.nil).eq_of_mem_iff ha fun n => ?_
  rw [mem_insertAll, h]
  simp

-- ---------------------------------------------------------------------------
-- Reading
-- ---------------------------------------------------------------------------

namespace Reading

variable {r : Reading} {line text : List Char}

theorem line_blank (h : trim line = []) : r.line line = r := by
  unfold Reading.line
  split
  · rfl
  · rw [h]
    rfl

theorem line_setIn (h : SetIn line text) (ht : text ≠ []) : r.line line = r.entry text := by
  obtain ⟨⟨c, rest, rfl, hc⟩, rfl⟩ := h
  simp [Reading.line, hc, ht]

theorem line_atMargin (h : AtMargin line text) : r.line line = r.heading text := by
  obtain ⟨⟨c, rest, rfl, hc⟩, rfl⟩ := h
  simp [Reading.line, hc, trim_ne_nil hc]

theorem heading_version {value : List Char} :
    r.heading ("Version:".toList ++ value) = { r with version := versionOf? (trim value) } := by
  rw [heading, after?_append]

theorem colon_notMem (slot : UInt32) : ':' ∉ (toString slot).toList := fun h =>
  absurd (Decimal.isDigit_of_mem_toString h) (by decide)

theorem heading_slot {slot : UInt32} {written : List Char} :
    r.heading ("Key Slot ".toList ++ (toString slot).toList ++ ':' :: written) =
      if trim written = "ENABLED".toList then r.addSlot (some slot) else r := by
  have htrim : trim (toString slot).toList = (toString slot).toList :=
    trim_eq_self fun c hc => isBlank_of_isDigit (Decimal.isDigit_of_mem_toString hc)
  have hversion : after? "Version:".toList
      ("Key Slot ".toList ++ (toString slot).toList ++ ':' :: written) = none := rfl
  rw [heading, hversion, List.append_assoc, after?_append]
  simp only [Option.bind_some, splitOnce_append (colon_notMem slot), htrim,
    Decimal.parseUInt32?_toString]

theorem heading_unnamed (hv : ¬ "Version:".toList <+: text) (hs : ¬ SlotNamed text) :
    r.heading text = { r with underHeading := (before? ':' text).getD [] } := by
  rw [heading, after?_eq_none hv]
  cases hrest : after? "Key Slot ".toList text with
  | none => rfl
  | some rest =>
    have hcolon : ':' ∉ rest := fun hm => hs ⟨rest, eq_append_of_after? hrest, hm⟩
    simp only [Option.bind_some, splitOnce_eq_none hcolon]

theorem heading_slotNamed (hv : ¬ "Version:".toList <+: text) (he : ¬ Enables text)
    (hs : SlotNamed text) : r.heading text = r := by
  obtain ⟨rest, rfl, hcolon⟩ := hs
  rw [heading, after?_eq_none hv, after?_append, Option.bind_some]
  cases hsplit : splitOnce ':' rest with
  | none => exact absurd hcolon (notMem_of_splitOnce hsplit)
  | some parts =>
    obtain ⟨slot, state⟩ := parts
    obtain ⟨rfl, hslot⟩ := eq_append_of_splitOnce hsplit
    dsimp only
    split
    · rename_i hstate
      cases hnumber : Decimal.parseUInt32? (trim slot) with
      | none => rfl
      | some n =>
        exact absurd ⟨slot, state, rfl, hslot, Decimal.isNumber_of_parseUInt32? hnumber, hstate⟩ he
    · rfl

/-- Away from the heading of the slots, the reading goes on with another heading. -/
def Passes (r r' : Reading) : Prop :=
  ∃ heading, heading ≠ "Keyslots".toList ∧ r' = { r with underHeading := heading }

/-- At the margin, an aside leaves any section, unless it is named like a slot. -/
theorem line_leaving (h : Aside line) (hm : AtMargin line text) (hs : ¬ SlotNamed text) :
    r.Passes (r.line line) := by
  cases h with
  | blank h => exact absurd h hm.not_blank
  | setIn h => exact absurd h hm.not_setIn
  | atMargin h hv he hk =>
    obtain rfl := hm.2.symm.trans h.2
    rw [line_atMargin h, heading_unnamed hv hs]
    refine ⟨_, ?_, rfl⟩
    cases hb : before? ':' text with
    | none => simp
    | some start =>
      rintro rfl
      exact hk (eq_append_of_before? hb)

theorem line_aside (h : Aside line) (hr : r.underHeading ≠ "Keyslots".toList) :
    r.Passes (r.line line) := by
  cases h with
  | blank h => exact ⟨_, hr, line_blank h⟩
  | @setIn text h =>
    refine ⟨_, hr, ?_⟩
    by_cases ht : text = []
    · exact line_blank (h.2.trans ht)
    · rw [line_setIn h ht, entry, if_neg hr]
  | @atMargin text h hv he hk =>
    by_cases hs : SlotNamed text
    · rw [line_atMargin h, heading_slotNamed hv he hs]
      exact ⟨_, hr, rfl⟩
    · exact line_leaving (.atMargin h hv he hk) h hs

theorem foldl_asides {lines : List (List Char)} (h : ∀ line ∈ lines, Aside line)
    (hr : r.underHeading ≠ "Keyslots".toList) : r.Passes (lines.foldl Reading.line r) := by
  induction lines generalizing r with
  | nil => exact ⟨_, hr, rfl⟩
  | cons line lines ih =>
    obtain ⟨u, hu, hline⟩ := line_aside (h line (List.mem_cons_self ..)) hr
    rw [List.foldl_cons, hline]
    exact ih (fun l hl => h l (List.mem_cons_of_mem _ hl)) hu

theorem line_slot {slot : UInt32} {state : List Char} (h : SlotLine slot state line) :
    r.line line = if state = "ENABLED".toList then r.addSlot (some slot) else r := by
  obtain ⟨written, hline, rfl⟩ := h
  rw [line_atMargin hline, heading_slot]

theorem line_detail (h : Detail line) (hr : r.underHeading = "Keyslots".toList) :
    r.line line = r := by
  cases h with
  | blank h => exact line_blank h
  | @unnamed text h hc =>
    by_cases ht : text = []
    · exact line_blank (h.2.trans ht)
    · rw [line_setIn h ht, entry, if_pos hr, splitOnce_eq_none hc]
  | @named name value h hc hn =>
    have hread : Decimal.parseUInt32? name = none := by
      cases hread : Decimal.parseUInt32? name with
      | none => rfl
      | some n => exact absurd (Decimal.isNumber_of_parseUInt32? hread) hn
    rw [line_setIn h (by simp), entry, if_pos hr, splitOnce_append hc]
    simp only [hread, addSlot]

theorem line_entry {slot : UInt32} {type : List Char}
    (h : SetIn line ((toString slot).toList ++ ':' :: type))
    (hr : r.underHeading = "Keyslots".toList) : r.line line = r.addSlot (some slot) := by
  rw [line_setIn h (by simp), entry, if_pos hr, splitOnce_append (colon_notMem slot)]
  simp only [Decimal.parseUInt32?_toString]

theorem foldl_slotTable {slots : List UInt32} {lines : List (List Char)}
    (h : SlotTable slots lines) (hr : r.underHeading ≠ "Keyslots".toList) :
    Passes { r with activeSlots := insertAll slots r.activeSlots }
      (lines.foldl Reading.line r) := by
  induction h generalizing r with
  | nil => exact ⟨_, hr, rfl⟩
  | aside hl _ ih =>
    obtain ⟨u, hu, hline⟩ := line_aside hl hr
    rw [List.foldl_cons, hline]
    exact ih hu
  | disabled hl _ ih =>
    rw [List.foldl_cons, line_slot hl, if_neg (by decide)]
    exact ih hr
  | enabled hl _ ih =>
    rw [List.foldl_cons, line_slot hl, if_pos rfl]
    exact ih hr

theorem foldl_slotSection {listed : List UInt32} {lines : List (List Char)}
    (h : SlotSection listed lines) (hr : r.underHeading = "Keyslots".toList) :
    lines.foldl Reading.line r = { r with activeSlots := insertAll listed r.activeSlots } := by
  induction h generalizing r with
  | nil => rfl
  | detail hl _ ih =>
    rw [List.foldl_cons, line_detail hl hr]
    exact ih hr
  | entry hl _ ih =>
    rw [List.foldl_cons, line_entry hl hr]
    exact ih hr

theorem line_version {v : LuksVersion} (h : VersionLine v line) :
    r.line line = { r with version := some v } := by
  obtain ⟨value, hline, hv⟩ := h
  rw [line_atMargin hline, heading_version, hv]
  cases v <;> rfl

theorem line_heading (h : AtMargin line "Keyslots:".toList) :
    r.line line = { r with underHeading := "Keyslots".toList } := by
  rw [line_atMargin h]
  rfl

theorem foldl_after {lines : List (List Char)} (h : ∀ line ∈ lines, Aside line)
    (hleft : ∀ line ∈ lines.head?, ∃ text, AtMargin line text ∧ ¬ SlotNamed text) :
    ∃ heading, lines.foldl Reading.line r = { r with underHeading := heading } := by
  cases lines with
  | nil => exact ⟨r.underHeading, rfl⟩
  | cons line lines =>
    obtain ⟨text, hm, hs⟩ := hleft line rfl
    obtain ⟨u, hu, hline⟩ := line_leaving (r := r) (h line (List.mem_cons_self ..)) hm hs
    rw [List.foldl_cons, hline]
    obtain ⟨u', -, hread⟩ := foldl_asides (r := { r with underHeading := u })
      (fun l hl => h l (List.mem_cons_of_mem _ hl)) hu
    exact ⟨u', hread⟩

theorem foldl_dump {v : LuksVersion} {slots : List UInt32} {dump : List (List Char)}
    (h : Dump (¬ SlotNamed ·) v slots dump) (ha : Ascending slots) :
    ∃ u, dump.foldl Reading.line {} = ⟨some v, u, slots⟩ := by
  cases h with
  | luks1 hbefore hversion htable hlisted =>
    obtain ⟨u, hu, hread⟩ := foldl_asides hbefore (r := {}) (by decide)
    obtain ⟨u', -, hread'⟩ := foldl_slotTable htable (r := ⟨some .luks1, u, []⟩) hu
    rw [List.foldl_append, hread, List.foldl_cons, line_version hversion, hread',
      insertAll_nil ha hlisted]
    exact ⟨u', rfl⟩
  | luks2 hbefore hversion hbetween hheading hsection hlisted hafter hnext =>
    obtain ⟨u, hu, hread⟩ := foldl_asides hbefore (r := {}) (by decide)
    obtain ⟨u', -, hread'⟩ := foldl_asides hbetween (r := ⟨some .luks2, u, []⟩) hu
    obtain ⟨u'', hend⟩ := foldl_after (r := ⟨some .luks2, "Keyslots".toList, slots⟩) hafter hnext
    rw [List.foldl_append, hread, List.foldl_cons, line_version hversion, List.foldl_append, hread',
      List.foldl_cons, line_heading hheading, List.foldl_append, foldl_slotSection hsection rfl,
      insertAll_nil ha hlisted, hend]
    exact ⟨u'', rfl⟩

end Reading

/-- Reading a dump gives back the version and the active slots of its header, if
no heading named like a slot follows the section of the slots. -/
theorem parse?_of_dump {v : LuksVersion} {slots : List UInt32} {text : String}
    (h : Dump (¬ SlotNamed ·) v slots (lines text.toList)) (ha : Ascending slots) :
    parse? text = some ⟨v, slots⟩ := by
  obtain ⟨u, hread⟩ := Reading.foldl_dump h ha
  rw [parse?, hread]
  rfl

/-- The text of these lines. -/
def textOf (ls : List (List Char)) : String := String.ofList (ls.flatMap (· ++ ['\n']))

theorem lines_textOf {ls : List (List Char)} (h : ∀ line ∈ ls, '\n' ∉ line ∧ '\r' ∉ line) :
    lines (textOf ls).toList = ls := by
  rw [textOf, String.toList_ofList, lines_flatMap h]

end EmmcVault.LuksDump
