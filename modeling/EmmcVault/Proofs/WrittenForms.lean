import EmmcVault.Datum.Settings
import EmmcVault.Datum.Volume
import EmmcVault.Proofs.JsonText
import EmmcVault.Proofs.Utf8

/-!
# Written forms are read back

`LawfulCodec`: every member of a type is written as a plain value, which any
reader takes for this member. Records follow from their fields, so that each
has one short instance, and `Json.roundTrip` from the text of plain values.
Paths are the exception: only text has a written form.
-/

namespace EmmcVault

open Codec Text

/-- Writing loses nothing, whatever else a text format allows. -/
class LawfulCodec (α : Type) [Codec α] : Prop where
  isPlain_encode (a : α) : (encode a).isPlain = true
  decode?_encode (dialect : Datum.Dialect) (a : α) : decode? dialect (encode a) = some a

attribute [simp] LawfulCodec.isPlain_encode LawfulCodec.decode?_encode

export LawfulCodec (isPlain_encode decode?_encode)

-- ---------------------------------------------------------------------------
-- Single values
-- ---------------------------------------------------------------------------

theorem Datum.below?_int {limit n : Nat} (h : n < limit) : (int n).below? limit = some n :=
  if_pos h

instance : LawfulCodec UInt8 where
  isPlain_encode _ := rfl
  decode?_encode _ n := by
    show ((Datum.int n.toNat).below? UInt8.size).map UInt8.ofNat = some n
    rw [Datum.below?_int n.toNat_lt, Option.map_some, UInt8.ofNat_toNat]

instance : LawfulCodec UInt32 where
  isPlain_encode _ := rfl
  decode?_encode _ n := by
    show ((Datum.int n.toNat).below? UInt32.size).map UInt32.ofNat = some n
    rw [Datum.below?_int n.toNat_lt, Option.map_some, UInt32.ofNat_toNat]

instance : LawfulCodec UInt64 where
  isPlain_encode _ := rfl
  decode?_encode _ n := by
    show ((Datum.int n.toNat).below? UInt64.size).map UInt64.ofNat = some n
    rw [Datum.below?_int n.toNat_lt, Option.map_some, UInt64.ofNat_toNat]

instance : LawfulCodec Bool := ⟨fun _ => rfl, fun _ _ => rfl⟩

instance : LawfulCodec String := ⟨fun _ => rfl, fun _ _ => rfl⟩

section
variable {α : Type} [Codec α] [LawfulCodec α]

/-- An absent value is told apart where null stands for no member. -/
theorem lawfulCodec_option (h : ∀ a : α, encode a ≠ .null) : LawfulCodec (Option α) where
  isPlain_encode
    | none => rfl
    | some a => isPlain_encode a
  decode?_encode dialect
    | none => rfl
    | some a => by
      have hsome : ∀ d : Datum, d ≠ .null →
          (decode? dialect d : Option (Option α)) = (decode? dialect d).map some := by
        intro d hd
        cases d <;> first | rfl | exact absurd rfl hd
      exact (hsome _ (h a)).trans (by rw [decode?_encode, Option.map_some])

theorem arePlain_map_encode (items : List α) : Datum.arePlain (items.map encode) = true := by
  induction items with
  | nil => rfl
  | cons a items ih => simp [Datum.arePlain, ih]

theorem mapM_decode? (dialect : Datum.Dialect) (items : List α) :
    (items.map encode).mapM (decode? dialect) = some items := by
  induction items with
  | nil => rfl
  | cons a items ih => simp [ih]

instance : LawfulCodec (List α) := ⟨arePlain_map_encode, mapM_decode?⟩

end

instance : LawfulCodec (Option UInt8) := lawfulCodec_option fun _ => nofun

instance : LawfulCodec (Option String) := lawfulCodec_option fun _ => nofun

theorem encode_path {p : Path} {s : String} (h : p.text? = some s) : encode p = .text s :=
  congrArg Datum.text (Utf8.lossy_of_decode? h)

theorem decode?_encode_path {p : Path} (dialect : Datum.Dialect) (h : p.text?.isSome) :
    decode? dialect (encode p) = some p := by
  obtain ⟨s, hs⟩ := Option.isSome_iff_exists.mp h
  have hoctets : Utf8.encode s = p.octets := Utf8.encode_of_decode? hs
  rw [encode_path hs]
  exact congrArg (fun octets => some (Path.mk octets)) hoctets

-- ---------------------------------------------------------------------------
-- Named cases
-- ---------------------------------------------------------------------------

/-- Names that belong to one case each. -/
theorem lawfulCodec_ofCases {α : Type} {cases : List α} {name : α → String}
    (h : ∀ a, cases.find? (fun b => name b == name a) = some a) :
    @LawfulCodec α (ofCases cases name) :=
  @LawfulCodec.mk α (ofCases cases name) (fun _ => rfl) fun _ => h

instance : LawfulCodec LuksVersion := lawfulCodec_ofCases fun a => by cases a <;> rfl

instance : LawfulCodec KeySlotStatus := lawfulCodec_ofCases fun a => by cases a <;> rfl

instance : LawfulCodec LockState := lawfulCodec_ofCases fun a => by cases a <;> rfl

instance : LawfulCodec EraseMethod := lawfulCodec_ofCases fun a => by cases a <;> rfl

instance : LawfulCodec ErasePass := lawfulCodec_ofCases fun a => by cases a <;> rfl

instance : LawfulCodec ErrorKind := lawfulCodec_ofCases fun a => by cases a <;> rfl

theorem FilesystemType.find?_name (t : FilesystemType) :
    FilesystemType.all.find? (fun u => u.name == t.name) = some t := by
  cases t <;> rfl

instance : LawfulCodec FilesystemType := lawfulCodec_ofCases FilesystemType.find?_name

-- ---------------------------------------------------------------------------
-- Records
-- ---------------------------------------------------------------------------

theorem Datum.isPlain_table {fields : List (String × Datum)}
    (h : ∀ f ∈ fields, f.2.isPlain = true) : (table fields).isPlain = true := by
  show arePlainFields fields = true
  induction fields with
  | nil => rfl
  | cons f fields ih =>
    obtain ⟨hf, hfields⟩ := List.forall_mem_cons.mp h
    simp [arePlainFields, hf, ih hfields]

/-- A table whose fields are among those of a record, each at most once. -/
theorem record?_bind {α : Type} {dialect : Datum.Dialect} {names : List String}
    {fields : List (String × Datum)} {f : (String → Option Datum) → Option α}
    (hfields : (fields.map Prod.fst).Sublist names) (hnames : names.Nodup) :
    (Datum.record? dialect names (.table fields)).bind f = f fun n => fields.lookup n := by
  have honce : ∀ n, Datum.occurrences fields n ≤ 1 := fun n =>
    List.nodup_iff_count.mp (hnames.sublist hfields) n
  have hasked : ∀ f ∈ fields, f.1 ∈ names := fun f hf =>
    hfields.subset (List.mem_map_of_mem hf)
  rw [Datum.record?, if_pos, Option.bind_some]
  simp only [Bool.and_eq_true, List.all_eq_true, decide_eq_true_eq, Bool.or_eq_true,
    List.contains_iff_mem]
  exact ⟨fun n _ => honce n, fun f hf => .inl (hasked f hf)⟩

instance : LawfulCodec KeySlot where
  isPlain_encode _ := Datum.isPlain_table (by simp)
  decode?_encode _ _ := by
    refine Eq.trans (record?_bind (.refl _) (by decide)) ?_
    simp [required, List.lookup_cons]

instance : LawfulCodec EncryptionParams where
  isPlain_encode _ := Datum.isPlain_table (by simp)
  decode?_encode _ _ := by
    refine Eq.trans (record?_bind (.refl _) (by decide)) ?_
    simp [defaulted, List.lookup_cons]

instance : LawfulCodec MountOptions where
  isPlain_encode _ := Datum.isPlain_table (by simp)
  decode?_encode _ _ := by
    refine Eq.trans (record?_bind (.refl _) (by decide)) ?_
    simp [defaulted, List.lookup_cons]

theorem MkfsOptions.eq_of_get? {o p : MkfsOptions} (h : ∀ t, o.get? t = p.get? t) : o = p := by
  cases o
  cases p
  exact MkfsOptions.mk.injEq .. ▸ ⟨h .ext4, h .ext3, h .ext2, h .xfs, h .vfat⟩

/-- `read` holds entries of `o` only, and `types` those that may be missing. -/
theorem MkfsOptions.insertAll?_fields {dialect : Datum.Dialect} {o : MkfsOptions}
    {types : List FilesystemType} {read : MkfsOptions}
    (hread : ∀ t options, read.get? t = some options → o.get? t = some options)
    (hrest : ∀ t, t ∉ types → read.get? t = o.get? t) :
    insertAll? dialect read (types.filterMap fun t =>
      (o.get? t).map fun options => (t.name, encode options)) = some o := by
  induction types generalizing read with
  | nil => exact congrArg some (eq_of_get? fun t => hrest t List.not_mem_nil)
  | cons t types ih =>
    cases ht : o.get? t with
    | none =>
      have hnone : read.get? t = none := by
        cases hr : read.get? t with
        | none => rfl
        | some options => exact absurd (hread t options hr) (by simp [ht])
      rw [List.filterMap_cons, ht]
      refine ih hread fun u hu => ?_
      by_cases hut : u = t
      · rw [hut, hnone, ht]
      · exact hrest u (by simp [hut, hu])
    | some options =>
      have hinserted : ∀ u, (read.insert t options).get? u =
          if u = t then some options else read.get? u := fun u => get?_insert read t u options
      simp only [List.filterMap_cons, ht, Option.map_some, insertAll?, FilesystemType.find?_name,
        decode?_encode, Option.bind_eq_bind, Option.bind_some]
      refine ih (fun u l hu => ?_) fun u hu => ?_
      · rw [hinserted] at hu
        split at hu
        · rename_i hut
          rw [hut, ht, ← hu]
        · exact hread u l hu
      · rw [hinserted]
        split
        · rename_i hut
          rw [hut, ht]
        · rename_i hut
          exact hrest u (by simp [hut, hu])

instance : LawfulCodec MkfsOptions where
  isPlain_encode o := Datum.isPlain_table fun f hf => by
    obtain ⟨t, -, ht⟩ := List.mem_filterMap.mp hf
    obtain ⟨options, -, rfl⟩ := Option.map_eq_some_iff.mp ht
    exact isPlain_encode options
  decode?_encode _ _ := MkfsOptions.insertAll?_fields
    (fun t _ h => by cases t <;> cases h) (fun t ht => by cases t <;> exact absurd (by decide) ht)

instance : LawfulCodec FilesystemSettings where
  isPlain_encode _ := Datum.isPlain_table (by simp)
  decode?_encode _ _ := by
    refine Eq.trans (record?_bind (.refl _) (by decide)) ?_
    simp [defaulted, List.lookup_cons]

instance : LawfulCodec EraseSettings where
  isPlain_encode _ := Datum.isPlain_table (by simp)
  decode?_encode _ _ := by
    refine Eq.trans (record?_bind (.refl _) (by decide)) ?_
    simp [defaulted, List.lookup_cons]

instance : LawfulCodec VolumeSettings where
  isPlain_encode _ := Datum.isPlain_table (by simp)
  decode?_encode _ _ := by
    refine Eq.trans (record?_bind (.refl _) (by decide)) ?_
    simp [defaulted, List.lookup_cons]

instance : LawfulCodec GeometryBounds where
  isPlain_encode _ := Datum.isPlain_table (by simp)
  decode?_encode _ _ := by
    refine Eq.trans (record?_bind (.refl _) (by decide)) ?_
    simp [required, List.lookup_cons]

instance : LawfulCodec VolumeMetadata where
  isPlain_encode _ := Datum.isPlain_table (by simp)
  decode?_encode _ _ := by
    refine Eq.trans (record?_bind (.refl _) (by decide)) ?_
    simp [defaulted, List.lookup_cons]

instance : LawfulCodec EraseReport where
  isPlain_encode _ := Datum.isPlain_table (by simp)
  decode?_encode _ _ := by
    refine Eq.trans (record?_bind (.refl _) (by decide)) ?_
    simp [required, List.lookup_cons]

instance : LawfulCodec StorageError where
  isPlain_encode
    | ⟨_, _, []⟩ => Datum.isPlain_table (by simp)
    | ⟨_, _, _ :: _⟩ => Datum.isPlain_table (by simp)
  decode?_encode
    | _, ⟨_, _, []⟩ => by
      refine Eq.trans (record?_bind (List.sublist_append_left ["kind", "message"] ["rollback"])
        (by decide)) ?_
      simp [required, defaulted, List.lookup_cons]
    | _, ⟨_, _, _ :: _⟩ => by
      refine Eq.trans (record?_bind (.refl _) (by decide)) ?_
      simp [required, defaulted, List.lookup_cons]

/-- The failed cleanup is written exactly when there is some. -/
theorem StorageError.get?_rollback (e : StorageError) :
    (encode e).get? "rollback" = none ↔ e.rollback = [] := by
  obtain ⟨kind, message, rollback⟩ := e
  cases rollback with
  | nil => simp [encode, Datum.get?, List.lookup_cons]
  | cons first rest => simp [encode, Datum.get?, List.lookup_cons]

theorem VolumeIdentity.isPlain_encode (v : VolumeIdentity) : (encode v).isPlain = true :=
  Datum.isPlain_table (by simp [show ∀ p : Path, (encode p).isPlain = true from fun _ => rfl])

theorem VolumeIdentity.decode?_encode {v : VolumeIdentity} (dialect : Datum.Dialect)
    (hdevice : v.device.text?.isSome) (hmount : v.mountPoint.text?.isSome) :
    decode? dialect (encode v) = some v := by
  refine Eq.trans (record?_bind (.refl _) (by decide)) ?_
  simp [required, List.lookup_cons, decode?_encode_path dialect hdevice,
    decode?_encode_path dialect hmount]

-- ---------------------------------------------------------------------------
-- Through the text
-- ---------------------------------------------------------------------------

namespace Json

/-- What is read where `a` was written on one line. -/
def roundTrip {α : Type} [Codec α] (a : α) : Option α :=
  (parse? (compact (encode a))).bind (decode? dialect)

theorem roundTrip_eq {α : Type} [Codec α] [LawfulCodec α] (a : α) : roundTrip a = some a := by
  rw [roundTrip, parse?_compact (isPlain_encode a), Option.bind_some, decode?_encode]

theorem roundTrip_identity {v : VolumeIdentity} (hdevice : v.device.text?.isSome)
    (hmount : v.mountPoint.text?.isSome) : roundTrip v = some v := by
  rw [roundTrip, parse?_compact v.isPlain_encode, Option.bind_some,
    VolumeIdentity.decode?_encode dialect hdevice hmount]

/-- Every value that reports, settings and requests exchange comes through its
one-line text; the failed cleanup of an error is left out of it exactly when
there is none. -/
theorem exposed_values_read_back :
    (∀ e : StorageError, roundTrip e = some e ∧
      ((parse? (compact (encode e))).bind (Datum.get? · "rollback") = none ↔ e.rollback = [])) ∧
    (∀ s : VolumeSettings, roundTrip s = some s) ∧
    (∀ s : FilesystemSettings, roundTrip s = some s) ∧
    (∀ s : EraseSettings, roundTrip s = some s) ∧
    (∀ p : EncryptionParams, roundTrip p = some p) ∧
    (∀ o : MountOptions, roundTrip o = some o) ∧
    (∀ v : VolumeIdentity, v.device.text?.isSome → v.mountPoint.text?.isSome →
      roundTrip v = some v) ∧
    (∀ m : VolumeMetadata, roundTrip m = some m) ∧
    (∀ b : GeometryBounds, roundTrip b = some b) ∧
    (∀ k : KeySlot, roundTrip k = some k) ∧
    (∀ r : EraseReport, roundTrip r = some r) ∧
    (∀ k : ErrorKind, roundTrip k = some k) ∧
    (∀ s : LockState, roundTrip s = some s) ∧
    (∀ v : LuksVersion, roundTrip v = some v) ∧
    (∀ s : KeySlotStatus, roundTrip s = some s) ∧
    (∀ t : FilesystemType, roundTrip t = some t) ∧
    (∀ m : EraseMethod, roundTrip m = some m) ∧
    ∀ p : ErasePass, roundTrip p = some p := by
  refine ⟨fun e => ⟨roundTrip_eq e, ?_⟩, roundTrip_eq, roundTrip_eq, roundTrip_eq, roundTrip_eq,
    roundTrip_eq, fun _ => roundTrip_identity, roundTrip_eq, roundTrip_eq, roundTrip_eq,
    roundTrip_eq, roundTrip_eq, roundTrip_eq, roundTrip_eq, roundTrip_eq, roundTrip_eq,
    roundTrip_eq, roundTrip_eq⟩
  rw [parse?_compact (isPlain_encode e), Option.bind_some, e.get?_rollback]

/-- Paths beyond ASCII and a name that must be escaped. -/
def sampleIdentity : VolumeIdentity where
  device := Path.ofString "/dev/mmc\u00e9"
  container := "a\"b\\\n"
  mountPoint := Path.ofString "/mnt/\u20ac"

theorem exposed_values_read_back_sample :
    (sampleIdentity.device.text?.isSome ∧ sampleIdentity.mountPoint.text?.isSome) ∧
      roundTrip sampleIdentity = some sampleIdentity := by
  have htext : sampleIdentity.device.text?.isSome ∧ sampleIdentity.mountPoint.text?.isSome := by
    decide +kernel
  obtain ⟨-, -, -, -, -, -, hidentity, -⟩ := exposed_values_read_back
  exact ⟨htext, hidentity sampleIdentity htext.1 htext.2⟩

end Json

end EmmcVault
