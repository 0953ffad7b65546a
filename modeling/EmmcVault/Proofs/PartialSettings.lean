import EmmcVault.Proofs.WrittenForms
import EmmcVault.Settings.Validation

/-!
# Settings given in part

`Overlay`: of a record, some fields are given and the others are left out, at
every level below. A table with the given fields, in any order and among fields
of other names, is read as the record with the default of each field that was
left out. A map of creation options is one field, given whole or not at all.
-/

namespace EmmcVault

open Codec

/-- Which fields are given, by the names on the way to them. -/
abbrev Choice := List String → Bool

/-- What is chosen of the fields below a field. -/
def Choice.under (given : Choice) (name : String) : Choice :=
  fun path => given (name :: path)

/-- A type whose members can be given in part. -/
class Overlay (α : Type) [Codec α] where
  /-- The member with the default of each field that is not given. -/
  keep : Choice → α → α
  /-- The values that give the chosen part of a member. -/
  Form : Choice → α → Datum → Prop
  /-- Every part of a member can be given. -/
  exists_form (given : Choice) (a : α) : ∃ d, d.isPlain = true ∧ Form given a d
  decode?_form {given : Choice} {a : α} {d : Datum} :
    Form given a d → decode? Json.dialect d = some (keep given a)

namespace Overlay

/-- A type whose members are given whole, in the form they are written in. -/
@[reducible] def whole {α : Type} [Codec α] [LawfulCodec α] : Overlay α where
  keep _ a := a
  Form _ a d := d = encode a
  exists_form _ a := ⟨encode a, isPlain_encode a, rfl⟩
  decode?_form h := by rw [h, decode?_encode]

instance : Overlay UInt32 := whole

instance : Overlay UInt64 := whole

instance : Overlay Bool := whole

instance : Overlay String := whole

instance : Overlay (Option String) := whole

instance : Overlay (List String) := whole

instance : Overlay LuksVersion := whole

instance : Overlay FilesystemType := whole

/-- A map is given whole, its entries in any order. -/
instance : Overlay MkfsOptions where
  keep _ o := o
  Form _ o d := ∃ types : List FilesystemType, types.Perm FilesystemType.all ∧
    d = .table (types.filterMap fun t => (o.get? t).map fun options => (t.name, encode options))
  exists_form _ o := ⟨encode o, isPlain_encode o, FilesystemType.all, .refl _, rfl⟩
  decode?_form := by
    rintro - o - ⟨types, htypes, rfl⟩
    refine MkfsOptions.insertAll?_fields (fun t _ h => by cases t <;> cases h) fun t ht => ?_
    exact absurd (htypes.mem_iff.mpr (by cases t <;> decide)) ht

-- ---------------------------------------------------------------------------
-- Fields of a record
-- ---------------------------------------------------------------------------

section
variable {given : Choice} {fields : List (String × Datum)} {name : String}

/-- The fields of a name, in order. -/
def named (fields : List (String × Datum)) (name : String) : List (String × Datum) :=
  fields.filter fun f => f.1 == name

theorem named_cons_self {value : Datum} :
    named ((name, value) :: fields) name = (name, value) :: named fields name :=
  List.filter_cons_of_pos (beq_self_eq_true name)

theorem named_cons_ne {other : String} {value : Datum} (h : other ≠ name) :
    named ((other, value) :: fields) name = named fields name :=
  List.filter_cons_of_neg (by simpa using h)

theorem occurrences_eq : Datum.occurrences fields name = (named fields name).length := by
  rw [Datum.occurrences, List.count, List.countP_map, List.countP_eq_length_filter]
  rfl

theorem lookup_eq : fields.lookup name = (named fields name).head?.map Prod.snd := by
  induction fields with
  | nil => rfl
  | cons f fields ih =>
    obtain ⟨n, value⟩ := f
    by_cases hn : n = name
    · rw [hn, named_cons_self, List.lookup_cons_self]
      rfl
    · rw [named_cons_ne hn, List.lookup_cons, beq_eq_false_iff_ne.mpr (Ne.symm hn)]
      exact ih

/-- A given field of a record stands among `fields` once, with a value that may
stand in it, and one that is left out not at all. -/
inductive Stands (given : Choice) (fields : List (String × Datum)) (name : String)
    (form : Datum → Prop) : Prop where
  | present {value : Datum} : given [name] = true → form value →
    named fields name = [(name, value)] → Stands given fields name form
  | leftOut : given [name] = false → named fields name = [] → Stands given fields name form

/-- The fields of a record by their names, with what may stand in them. -/
abbrev Parts := List (String × (Datum → Prop))

/-- A table of the given fields of a record. Other names may hold anything, any
number of times. -/
def Gives (given : Choice) (record : Parts) (d : Datum) : Prop :=
  ∃ fields, d = .table fields ∧ ∀ part ∈ record, Stands given fields part.1 part.2

theorem record?_stands {record : Parts}
    (h : ∀ part ∈ record, Stands given fields part.1 part.2) :
    Datum.record? Json.dialect (record.map Prod.fst) (.table fields) =
      some fun name => fields.lookup name := by
  have honce : ∀ part ∈ record, Datum.occurrences fields part.1 ≤ 1 := by
    intro part hpart
    rw [occurrences_eq]
    cases h part hpart with
    | present _ _ hnamed => exact Nat.le_of_eq (congrArg List.length hnamed)
    | leftOut _ hnamed => exact hnamed ▸ Nat.zero_le 1
  have hothers : ∀ d, Json.dialect.passesOver d = true := fun _ => rfl
  exact if_pos (by simpa [hothers] using honce)

/-- Reading a record, by what is read of its fields. -/
theorem bind_of_gives {record : Parts} {β : Type} {f : (String → Option Datum) → Option β}
    {b : β} {d : Datum} (h : Gives given record d)
    (hf : ∀ fields, (∀ part ∈ record, Stands given fields part.1 part.2) →
      f (fun name => fields.lookup name) = some b) :
    (d.record? Json.dialect (record.map Prod.fst)).bind f = some b := by
  obtain ⟨fields, rfl, hstands⟩ := h
  rw [record?_stands hstands]
  exact hf fields hstands

/-- Where every field can be given, so can any part of the record. -/
theorem exists_gives {record : Parts} (hnames : (record.map Prod.fst).Nodup)
    (h : ∀ part ∈ record, ∃ d : Datum, d.isPlain = true ∧ part.2 d) :
    ∃ d, d.isPlain = true ∧ Gives given record d := by
  suffices hfields : ∃ fields : List (String × Datum), (∀ f ∈ fields, f.2.isPlain = true) ∧
      (∀ name ∉ record.map Prod.fst, named fields name = []) ∧
      ∀ part ∈ record, Stands given fields part.1 part.2 by
    obtain ⟨fields, hplain, -, hgives⟩ := hfields
    exact ⟨.table fields, Datum.isPlain_table hplain, fields, rfl, hgives⟩
  induction record with
  | nil => exact ⟨[], List.forall_mem_nil _, fun _ _ => rfl, List.forall_mem_nil _⟩
  | cons first rest ih =>
    obtain ⟨hfirst, hrest⟩ := List.nodup_cons.mp hnames
    obtain ⟨⟨value, hvalue, hform⟩, hparts⟩ := List.forall_mem_cons.mp h
    obtain ⟨fields, hplain, hothers, hgives⟩ := ih hrest hparts
    have hnone : named fields first.1 = [] := hothers _ hfirst
    by_cases hgiven : given [first.1] = true
    · refine ⟨(first.1, value) :: fields, List.forall_mem_cons.mpr ⟨hvalue, hplain⟩, ?_,
        List.forall_mem_cons.mpr ⟨?_, fun part hpart => ?_⟩⟩
      · intro name hname
        have hne : first.1 ≠ name := by
          rintro rfl
          exact hname List.mem_cons_self
        rw [named_cons_ne hne]
        exact hothers name (mt (List.mem_cons_of_mem _) hname)
      · exact .present hgiven hform (by rw [named_cons_self, hnone])
      · have hne : first.1 ≠ part.1 := fun he => hfirst (he ▸ List.mem_map_of_mem hpart)
        cases hgives part hpart with
        | present hgiven hform hnamed =>
          exact .present hgiven hform ((named_cons_ne hne).trans hnamed)
        | leftOut hgiven hnamed => exact .leftOut hgiven ((named_cons_ne hne).trans hnamed)
    · refine ⟨fields, hplain, fun name hname => hothers name (mt (List.mem_cons_of_mem _) hname),
        List.forall_mem_cons.mpr ⟨.leftOut (by simpa using hgiven) hnone, hgives⟩⟩

variable {α : Type} [Codec α] [Overlay α]

def part (given : Choice) (name : String) (a : α) : String × (Datum → Prop) :=
  (name, Form (given.under name) a)

/-- What a field holds once its record is read. -/
def pick (given : Choice) (name : String) (a missing : α) : α :=
  if given [name] then keep (given.under name) a else missing

theorem defaulted_stands {a : α} (missing : α)
    (h : Stands given fields name (Form (given.under name) a)) :
    defaulted Json.dialect (fun name => fields.lookup name) name missing =
      some (pick given name a missing) := by
  unfold pick
  cases h with
  | @present value hgiven hform hnamed =>
    have hlookup : fields.lookup name = some value := lookup_eq.trans (by rw [hnamed]; rfl)
    rw [if_pos hgiven, defaulted, hlookup]
    exact decode?_form hform
  | leftOut hgiven hnamed =>
    have hlookup : fields.lookup name = none := lookup_eq.trans (by rw [hnamed]; rfl)
    rw [if_neg (by simpa using hgiven), defaulted, hlookup]

end

instance : Overlay EncryptionParams where
  keep given p :=
    let missing : EncryptionParams := {}
    { cipher := pick given "cipher" p.cipher missing.cipher
      cipherMode := pick given "cipher_mode" p.cipherMode missing.cipherMode
      keySizeBits := pick given "key_size_bits" p.keySizeBits missing.keySizeBits
      version := pick given "version" p.version missing.version }
  Form given p := Gives given [part given "cipher" p.cipher,
    part given "cipher_mode" p.cipherMode, part given "key_size_bits" p.keySizeBits,
    part given "version" p.version]
  exists_form given _ := exists_gives (by simp [part]) (by simp [part, exists_form])
  decode?_form h := by
    refine bind_of_gives h fun fields hstands => ?_
    repeat rw [List.forall_mem_cons] at hstands
    dsimp only [part] at hstands
    obtain ⟨hcipher, hmode, hsize, hversion, -⟩ := hstands
    simp [defaulted_stands _ hcipher, defaulted_stands _ hmode, defaulted_stands _ hsize,
      defaulted_stands _ hversion]

instance : Overlay MountOptions where
  keep given o :=
    let missing : MountOptions := {}
    { readOnly := pick given "read_only" o.readOnly missing.readOnly
      noDev := pick given "no_dev" o.noDev missing.noDev
      noSuid := pick given "no_suid" o.noSuid missing.noSuid
      noExec := pick given "no_exec" o.noExec missing.noExec
      data := pick given "data" o.data missing.data }
  Form given o := Gives given [part given "read_only" o.readOnly, part given "no_dev" o.noDev,
    part given "no_suid" o.noSuid, part given "no_exec" o.noExec, part given "data" o.data]
  exists_form given _ := exists_gives (by simp [part]) (by simp [part, exists_form])
  decode?_form h := by
    refine bind_of_gives h fun fields hstands => ?_
    repeat rw [List.forall_mem_cons] at hstands
    dsimp only [part] at hstands
    obtain ⟨hro, hdev, hsuid, hexec, hdata, -⟩ := hstands
    simp [defaulted_stands _ hro, defaulted_stands _ hdev, defaulted_stands _ hsuid,
      defaulted_stands _ hexec, defaulted_stands _ hdata]

instance : Overlay FilesystemSettings where
  keep given s :=
    let missing : FilesystemSettings := {}
    { fsType := pick given "fs_type" s.fsType missing.fsType
      mkfsOptions := pick given "mkfs_options" s.mkfsOptions missing.mkfsOptions
      fsckOptions := pick given "fsck_options" s.fsckOptions missing.fsckOptions
      mount := pick given "mount" s.mount missing.mount }
  Form given s := Gives given [part given "fs_type" s.fsType,
    part given "mkfs_options" s.mkfsOptions, part given "fsck_options" s.fsckOptions,
    part given "mount" s.mount]
  exists_form given _ := exists_gives (by simp [part]) (by simp [part, exists_form])
  decode?_form h := by
    refine bind_of_gives h fun fields hstands => ?_
    repeat rw [List.forall_mem_cons] at hstands
    dsimp only [part] at hstands
    obtain ⟨htype, hmkfs, hfsck, hmount, -⟩ := hstands
    simp [defaulted_stands _ htype, defaulted_stands _ hmkfs, defaulted_stands _ hfsck,
      defaulted_stands _ hmount]

instance : Overlay EraseSettings where
  keep given s :=
    let missing : EraseSettings := {}
    { blockSize := pick given "block_size" s.blockSize missing.blockSize
      transferAttempts := pick given "transfer_attempts" s.transferAttempts missing.transferAttempts
      retryDelayMs := pick given "retry_delay_ms" s.retryDelayMs missing.retryDelayMs
      patternSeed := pick given "pattern_seed" s.patternSeed missing.patternSeed
      requireLockedForRawErase := pick given "require_locked_for_raw_erase"
        s.requireLockedForRawErase missing.requireLockedForRawErase }
  Form given s := Gives given [part given "block_size" s.blockSize,
    part given "transfer_attempts" s.transferAttempts,
    part given "retry_delay_ms" s.retryDelayMs, part given "pattern_seed" s.patternSeed,
    part given "require_locked_for_raw_erase" s.requireLockedForRawErase]
  exists_form given _ := exists_gives (by simp [part]) (by simp [part, exists_form])
  decode?_form h := by
    refine bind_of_gives h fun fields hstands => ?_
    repeat rw [List.forall_mem_cons] at hstands
    dsimp only [part] at hstands
    obtain ⟨hblock, hattempts, hdelay, hseed, hlocked, -⟩ := hstands
    simp [defaulted_stands _ hblock, defaulted_stands _ hattempts, defaulted_stands _ hdelay,
      defaulted_stands _ hseed, defaulted_stands _ hlocked]

instance : Overlay VolumeSettings where
  keep given s :=
    let missing : VolumeSettings := {}
    { encryption := pick given "encryption" s.encryption missing.encryption
      filesystem := pick given "filesystem" s.filesystem missing.filesystem
      erase := pick given "erase" s.erase missing.erase }
  Form given s := Gives given [part given "encryption" s.encryption,
    part given "filesystem" s.filesystem, part given "erase" s.erase]
  exists_form given _ := exists_gives (by simp [part]) (by simp [part, exists_form])
  decode?_form h := by
    refine bind_of_gives h fun fields hstands => ?_
    repeat rw [List.forall_mem_cons] at hstands
    dsimp only [part] at hstands
    obtain ⟨hencryption, hfilesystem, herase, -⟩ := hstands
    simp [defaulted_stands _ hencryption, defaulted_stands _ hfilesystem, defaulted_stands _ herase]

end Overlay

-- ---------------------------------------------------------------------------
-- Settings
-- ---------------------------------------------------------------------------

/-- Blocks and transfer budgets are not empty, and a key is some whole octets. -/
def VolumeSettings.Usable (s : VolumeSettings) : Prop :=
  0 < s.erase.blockSize.toNat ∧ 0 < s.erase.transferAttempts.toNat ∧
    0 < s.encryption.keySizeBits.toNat ∧ 8 ∣ s.encryption.keySizeBits.toNat

theorem VolumeSettings.validate_iff {s : VolumeSettings} : s.validate = .ok () ↔ s.Usable := by
  have hblock : s.erase.blockSize = 0 ↔ s.erase.blockSize.toNat = 0 := UInt64.toNat_inj.symm
  have hattempts : s.erase.transferAttempts = 0 ↔ s.erase.transferAttempts.toNat = 0 :=
    UInt32.toNat_inj.symm
  have hsize : s.encryption.keySizeBits = 0 ↔ s.encryption.keySizeBits.toNat = 0 :=
    UInt32.toNat_inj.symm
  have hoctets : s.encryption.keySizeBits % 8 = 0 ↔ s.encryption.keySizeBits.toNat % 8 = 0 :=
    UInt32.toNat_inj.symm
  unfold validate Usable
  simp only [ne_eq, hblock, hattempts, hsize, hoctets]
  split
  · exact iff_of_false (by simp) (by omega)
  split
  · exact iff_of_false (by simp) (by omega)
  split
  · exact iff_of_false (by simp) (by omega)
  · exact iff_of_true rfl (by omega)

namespace Json

open Overlay

/-- Whatever part of the settings is given, at any level, some text gives it, and
from every text that does the settings are read with the defaults of all that
was left out. They can be used exactly if blocks, transfer budget and key size
can. -/
theorem partial_settings_read_back (given : Choice) (s : VolumeSettings) :
    (∃ text d, parse? text = some d ∧ Form given s d) ∧
      (∀ text d, parse? text = some d → Form given s d →
        (parse? text).bind (decode? dialect) = some (keep given s)) ∧
      ((keep given s).validate = .ok () ↔ (keep given s).Usable) := by
  refine ⟨?_, fun text d htext hform => ?_, VolumeSettings.validate_iff⟩
  · obtain ⟨d, hplain, hform⟩ := exists_form given s
    exact ⟨compact d, d, parse?_compact hplain, hform⟩
  · rw [htext, Option.bind_some]
    exact decode?_form hform

/-- Some of the erase settings and the creation options of one filesystem. -/
def sampleChoice : Choice := fun path =>
  [["erase"], ["erase", "block_size"], ["filesystem"], ["filesystem", "mkfs_options"]].contains path

def sampleSettings : VolumeSettings where
  encryption := { keySizeBits := 7 }
  filesystem := { fsType := .vfat, mkfsOptions := { xfs := some ["-f"] } }
  erase := { blockSize := 8192, transferAttempts := 0 }

/-- Fields of other names stand before and between the given ones. -/
def sampleTable : Datum :=
  .table [("label", .null),
    ("erase", .table [("block_sizes", .list [.int 1]), ("block_size", .int 8192)]),
    ("filesystem", .table [("mkfs_options", .table [("xfs", .list [.text "-f"])])])]

theorem partial_settings_read_back_sample :
    (parse? (compact sampleTable) = some sampleTable ∧
      Form sampleChoice sampleSettings sampleTable) ∧
    (parse? (compact sampleTable)).bind (decode? dialect) = some
      { filesystem := { mkfsOptions := { xfs := some ["-f"] } }
        erase := { blockSize := 8192 } : VolumeSettings } := by
  have htext : parse? (compact sampleTable) = some sampleTable := parse?_compact (by rfl)
  have herase : Form (sampleChoice.under "erase") sampleSettings.erase
      (.table [("block_sizes", .list [.int 1]), ("block_size", .int 8192)]) := by
    refine ⟨_, rfl, ?_⟩
    repeat rw [List.forall_mem_cons]
    exact ⟨.present rfl rfl rfl, .leftOut rfl rfl, .leftOut rfl rfl, .leftOut rfl rfl,
      .leftOut rfl rfl, List.forall_mem_nil _⟩
  have hfilesystem : Form (sampleChoice.under "filesystem") sampleSettings.filesystem
      (.table [("mkfs_options", .table [("xfs", .list [.text "-f"])])]) := by
    refine ⟨_, rfl, ?_⟩
    repeat rw [List.forall_mem_cons]
    exact ⟨.leftOut rfl rfl, .present rfl ⟨_, .refl _, rfl⟩ rfl, .leftOut rfl rfl,
      .leftOut rfl rfl, List.forall_mem_nil _⟩
  have hform : Form sampleChoice sampleSettings sampleTable := by
    refine ⟨_, rfl, ?_⟩
    repeat rw [List.forall_mem_cons]
    exact ⟨.leftOut rfl rfl, .present rfl hfilesystem rfl, .present rfl herase rfl,
      List.forall_mem_nil _⟩
  obtain ⟨-, hread, -⟩ := partial_settings_read_back sampleChoice sampleSettings
  exact ⟨⟨htext, hform⟩, hread _ _ htext hform⟩

end Json

end EmmcVault
