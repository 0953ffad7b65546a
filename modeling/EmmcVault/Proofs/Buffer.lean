import EmmcVault.Buffer

/-!
# Buffers as lists

What reading, overwriting and comparing buffers mean for the lists of their
octets.
-/

namespace EmmcVault.Buffer

theorem toList_loop {b : ByteArray} {i : Nat} {r : List UInt8} :
    ByteArray.toList.loop b i r = r.reverse ++ b.data.toList.drop i := by
  fun_induction ByteArray.toList.loop b i r with
  | case1 i r hlt ih =>
    have hlength : i < b.data.toList.length := hlt
    have hoctet : b.get! i = b.data.toList[i] := getElem!_pos b.data i hlt
    rw [ih, List.drop_eq_getElem_cons hlength, hoctet]
    simp
  | case2 i r hge =>
    have hend : b.data.toList.drop i = [] := List.drop_eq_nil_of_le (Nat.le_of_not_lt hge)
    rw [hend, List.append_nil]

theorem toList_eq {b : ByteArray} : b.toList = b.data.toList := by
  rw [ByteArray.toList, toList_loop]
  simp

theorem overlay_toList {target source : ByteArray} {offset : Nat} :
    (overlay target offset source).data.toList =
      target.data.toList.take offset ++ source.data.toList ++
        target.data.toList.drop (offset + source.size) := by
  have hrest : (target.data.toList.drop (offset + source.size)).take
      (target.size - (offset + source.size)) = target.data.toList.drop (offset + source.size) :=
    List.take_of_length_le (by simp)
  rw [overlay, ByteArray.copySlice_eq_append]
  simp [List.extract_eq_take_drop, hrest]

/-- A buffer of the right size takes the source over as it is. -/
theorem overlay_size {target source : ByteArray} {offset : Nat}
    (h : offset + source.size ≤ target.size) :
    (overlay target offset source).size = target.size := by
  have hlength := congrArg List.length (@overlay_toList target source offset)
  simp only [Array.length_toList, List.length_append, List.length_take, List.length_drop] at hlength
  have hsize : ∀ b : ByteArray, b.data.size = b.size := fun _ => rfl
  simp only [hsize] at hlength
  omega

theorem fillFront_of_size {target source : ByteArray} (h : target.size = source.size) :
    fillFront target source = source := by
  refine ByteArray.ext (Array.ext' ?_)
  rw [fillFront, h, Nat.min_self, ByteArray.extract_zero_size, overlay_toList, Nat.zero_add,
    List.drop_eq_nil_of_le (Nat.le_of_eq h)]
  simp

-- ---------------------------------------------------------------------------
-- Comparing
-- ---------------------------------------------------------------------------

variable {expected actual : List UInt8}

theorem firstDifference?_cons {a b : UInt8} :
    firstDifference? (a :: expected) (b :: actual) =
      if a = b then (firstDifference? expected actual).map (· + 1) else some 0 := by
  by_cases hab : a = b <;> simp [firstDifference?, List.findIdx?_cons, hab]

theorem eq_of_firstDifference? (hlength : expected.length = actual.length)
    (h : firstDifference? expected actual = none) : actual = expected := by
  induction expected generalizing actual with
  | nil =>
    rw [List.length_nil] at hlength
    exact List.eq_nil_of_length_eq_zero hlength.symm
  | cons a expected ih =>
    cases actual with
    | nil => cases hlength
    | cons b actual =>
      rw [firstDifference?_cons] at h
      split at h
      · rename_i hab
        rw [Option.map_eq_none_iff] at h
        rw [ih (Nat.succ.inj hlength) h, hab]
      · cases h

/-- Before the first difference the lists agree. -/
theorem of_firstDifference? {k : Nat} (h : firstDifference? expected actual = some k) :
    k < expected.length ∧ actual[k]? ≠ expected[k]? ∧ actual.take k = expected.take k := by
  induction expected generalizing actual k with
  | nil => simp [firstDifference?] at h
  | cons a expected ih =>
    cases actual with
    | nil => simp [firstDifference?] at h
    | cons b actual =>
      rw [firstDifference?_cons] at h
      split at h
      · rename_i hab
        obtain ⟨j, hj, rfl⟩ := Option.map_eq_some_iff.mp h
        obtain ⟨hlt, hne, htake⟩ := ih hj
        refine ⟨by simpa using hlt, by simpa using hne, ?_⟩
        rw [List.take_succ_cons, List.take_succ_cons, htake, hab]
      · rename_i hab
        cases h
        refine ⟨by simp, ?_, rfl⟩
        simpa using fun he => hab he.symm

-- ---------------------------------------------------------------------------
-- Zeros
-- ---------------------------------------------------------------------------

theorem zeros_toList {length : Nat} : (zeros length).data.toList = List.replicate length 0 := by
  simp [zeros, constant]

theorem eq_of_firstNonzero? {b : ByteArray} (h : firstNonzero? b = none) :
    b.data.toList = List.replicate b.size 0 := by
  rw [firstNonzero?, Array.findIdx?_eq_none_iff] at h
  refine List.eq_replicate_iff.mpr ⟨rfl, fun x hx => ?_⟩
  simpa using h x (Array.mem_toList_iff.mp hx)

/-- Before the first octet that is not zero stand zeros. -/
theorem of_firstNonzero? {b : ByteArray} {k : Nat} (h : firstNonzero? b = some k) :
    k < b.size ∧ b.data.toList[k]? ≠ some 0 ∧ b.data.toList.take k = List.replicate k 0 := by
  obtain ⟨hlt, hne, hbefore⟩ := Array.findIdx?_eq_some_iff_getElem.mp h
  have hlength : k < b.data.toList.length := hlt
  refine ⟨hlt, ?_, List.eq_replicate_iff.mpr ⟨?_, fun x hx => ?_⟩⟩
  · rw [List.getElem?_eq_getElem hlength, Array.getElem_toList]
    simpa using hne
  · rw [List.length_take, Nat.min_eq_left (Nat.le_of_lt hlength)]
  · obtain ⟨j, hj, rfl⟩ := List.mem_take_iff_getElem.mp hx
    simpa using hbefore j (by omega)

end EmmcVault.Buffer
