import EmmcVault.Text.Utf8

/-!
# Decoded text keeps its octets

`encode_of_decode?`: a byte string that decodes to a text is the spelling of
this text and of no other. A character that is not finished yet is sound when
every way to end it is spelt by its octets; its first octet makes it sound, and
each octet that may come next keeps it so.
-/

namespace EmmcVault.Text.Utf8

-- ---------------------------------------------------------------------------
-- Unfinished characters
-- ---------------------------------------------------------------------------

/-- The value of a character after one more octet. -/
def continued (value : Nat) (b : UInt8) : Nat :=
  64 * value + (b.toNat - 0x80)

/-- Every way to end the character spells it. -/
def Unfinished.Sound (u : Unfinished) : Prop :=
  ∀ b rest, u.low.toNat ≤ b.toNat → b.toNat ≤ u.high.toNat → rest.length + 1 = u.missing →
    (∀ c ∈ rest, 0x80 ≤ c.toNat ∧ c.toNat ≤ 0xBF) →
    String.utf8EncodeChar (Char.ofNat (rest.foldl continued (continued u.value b))) =
      u.seen ++ b :: rest

theorem ofNat_eq {n : Nat} {b : UInt8} (h : n = b.toNat) : UInt8.ofNat n = b := by
  rw [h, UInt8.ofNat_toNat]

theorem val_ofNat {n : Nat} (h : n < 0xD800 ∨ 0xE000 ≤ n ∧ n < 0x110000) :
    (Char.ofNat n).val.toNat = n := by
  have hvalid : n.isValidChar := by
    unfold Nat.isValidChar
    omega
  rw [Char.ofNat, dif_pos hvalid]
  rfl

theorem sound_two {a : UInt8} (ha : 0xC2 ≤ a.toNat ∧ a.toNat < 0xE0) :
    Unfinished.Sound ⟨[a], a.toNat - 0xC0, 1, 0x80, 0xBF⟩ := by
  intro b rest hlow hhigh hlength _
  simp only [UInt8.reduceToNat] at hlow hhigh
  obtain rfl := List.eq_nil_of_length_eq_zero (Nat.succ.inj hlength)
  have hvalue := val_ofNat (n := continued (a.toNat - 0xC0) b) (by unfold continued; omega)
  simp only [List.foldl_nil, String.utf8EncodeChar, hvalue]
  unfold continued
  rw [if_neg (by omega), if_pos (by omega), ofNat_eq (b := a) (by omega),
    ofNat_eq (b := b) (by omega)]
  rfl

/-- A second octet below `low` would spell what two octets spell, one above
`high` half of a pair. -/
theorem sound_three {a low high : UInt8} {n : Nat} (ha : a.toNat = 0xE0 + n)
    (hrange : n < 16 ∧ 0x80 ≤ low.toNat ∧ high.toNat ≤ 0xBF ∧ (n = 0 → 0xA0 ≤ low.toNat) ∧
      (n = 0xD → high.toNat ≤ 0x9F)) : Unfinished.Sound ⟨[a], n, 2, low, high⟩ := by
  intro b rest hb hb' hlength htail
  simp only at hb hb'
  obtain ⟨c, rfl⟩ := List.length_eq_one_iff.mp (Nat.succ.inj hlength)
  have hc := htail c List.mem_cons_self
  have hvalue := val_ofNat (n := continued (continued n b) c) (by unfold continued; omega)
  simp only [List.foldl_cons, List.foldl_nil, String.utf8EncodeChar, hvalue]
  unfold continued
  rw [if_neg (by omega), if_neg (by omega), if_pos (by omega), ofNat_eq (b := a) (by omega),
    ofNat_eq (b := b) (by omega), ofNat_eq (b := c) (by omega)]
  rfl

/-- A second octet below `low` would spell what three octets spell, one above
`high` no character. -/
theorem sound_four {a low high : UInt8} {n : Nat} (ha : a.toNat = 0xF0 + n)
    (hrange : n < 5 ∧ 0x80 ≤ low.toNat ∧ high.toNat ≤ 0xBF ∧ (n = 0 → 0x90 ≤ low.toNat) ∧
      (n = 4 → high.toNat ≤ 0x8F)) : Unfinished.Sound ⟨[a], n, 3, low, high⟩ := by
  intro b rest hb hb' hlength htail
  simp only at hb hb'
  match rest, hlength with
  | [c, d], _ =>
  have hc := htail c (by simp)
  have hd := htail d (by simp)
  have hvalue := val_ofNat (n := continued (continued (continued n b) c) d)
    (by unfold continued; omega)
  simp only [List.foldl_cons, List.foldl_nil, String.utf8EncodeChar, hvalue]
  unfold continued
  rw [if_neg (by omega), if_neg (by omega), if_neg (by omega), ofNat_eq (b := a) (by omega),
    ofNat_eq (b := b) (by omega), ofNat_eq (b := c) (by omega), ofNat_eq (b := d) (by omega)]
  rfl

theorem lead_multi {a : UInt8} {u : Unfinished} (h : lead a = .multi u) :
    u.Sound ∧ u.seen = [a] := by
  unfold lead at h
  simp only [UInt8.lt_iff_toNat_lt, ← UInt8.toNat_inj, UInt8.reduceToNat] at h
  repeat' split at h
  all_goals cases h
  all_goals refine ⟨?_, rfl⟩
  · exact sound_two (by omega)
  · exact sound_three (by omega) (by simp)
  · exact sound_three (by omega) (by simp)
  · exact sound_three (by omega) (by simp; omega)
  · exact sound_four (by omega) (by simp)
  · exact sound_four (by omega) (by simp; omega)
  · exact sound_four (by omega) (by simp)

theorem lead_ascii {b : UInt8} {c : Char} (h : lead b = .ascii c) :
    String.utf8EncodeChar c = [b] := by
  unfold lead at h
  simp only at h
  split at h
  · rename_i hascii
    cases h
    have hb : b.toNat < 0x80 := hascii
    simp only [String.utf8EncodeChar, val_ofNat (n := b.toNat) (by omega)]
    rw [if_pos (by omega), UInt8.ofNat_toNat]
  · repeat' split at h
    all_goals cases h

/-- An octet that may come next leaves a sound beginning. -/
theorem Unfinished.Sound.next {u : Unfinished} (h : u.Sound) {b : UInt8}
    (hlow : u.low.toNat ≤ b.toNat) (hhigh : b.toNat ≤ u.high.toNat) :
    Unfinished.Sound ⟨u.seen ++ [b], continued u.value b, u.missing - 1, 0x80, 0xBF⟩ := by
  intro c rest hc hc' hlength htail
  simp only [UInt8.reduceToNat] at hc hc' hlength
  have hall := h b (c :: rest) hlow hhigh (by simp only [List.length_cons]; omega)
    (List.forall_mem_cons.mpr ⟨⟨hc, hc'⟩, htail⟩)
  simpa using hall

theorem piecesFrom_cons {u : Unfinished} {b : UInt8} {rest : Bytes}
    (hlow : u.low.toNat ≤ b.toNat) (hhigh : b.toNat ≤ u.high.toNat) :
    piecesFrom u (b :: rest) =
      if u.missing = 1 then .char (Char.ofNat (continued u.value b)) :: pieces rest
      else piecesFrom ⟨u.seen ++ [b], continued u.value b, u.missing - 1, 0x80, 0xBF⟩ rest := by
  rw [piecesFrom, if_pos (by simpa [UInt8.le_iff_toNat_le] using And.intro hlow hhigh)]
  rfl

-- ---------------------------------------------------------------------------
-- Whole byte strings
-- ---------------------------------------------------------------------------

mutual

theorem flatMap_pieces : (bytes : Bytes) → {cs : List Char} → chars? (pieces bytes) = some cs →
    cs.flatMap String.utf8EncodeChar = bytes
  | [], _, h => by
    cases h
    rfl
  | b :: rest, _, h => by
    rw [pieces] at h
    split at h
    · rename_i c hc
      obtain ⟨cs, hcs, rfl⟩ := Option.map_eq_some_iff.mp h
      rw [List.flatMap_cons, lead_ascii hc, flatMap_pieces rest hcs, List.singleton_append]
    · cases h
    · rename_i u hu
      obtain ⟨hsound, hseen⟩ := lead_multi hu
      rw [flatMap_piecesFrom rest hsound h, hseen, List.singleton_append]

/-- Inside a character no octet is passed over: one that does not continue it
is broken. -/
theorem flatMap_piecesFrom : (bytes : Bytes) → {u : Unfinished} → {cs : List Char} → u.Sound →
    chars? (piecesFrom u bytes) = some cs → cs.flatMap String.utf8EncodeChar = u.seen ++ bytes
  | [], _, _, _, h => by cases h
  | b :: rest, u, _, hu, h => by
    by_cases hb : u.low.toNat ≤ b.toNat ∧ b.toNat ≤ u.high.toNat
    · rw [piecesFrom_cons hb.1 hb.2] at h
      by_cases hlast : u.missing = 1
      · rw [if_pos hlast] at h
        obtain ⟨cs, hcs, rfl⟩ := Option.map_eq_some_iff.mp h
        have hspelt := hu b [] hb.1 hb.2 hlast.symm (fun _ hc => nomatch hc)
        rw [List.foldl_nil] at hspelt
        rw [List.flatMap_cons, hspelt, flatMap_pieces rest hcs, List.append_assoc,
          List.singleton_append]
      · rw [if_neg hlast] at h
        rw [flatMap_piecesFrom rest (hu.next hb.1 hb.2) h, List.append_assoc,
          List.singleton_append]
    · rw [piecesFrom, if_neg (by simpa [UInt8.le_iff_toNat_le] using hb)] at h
      cases h

end

theorem eq_map_of_chars? {pieces : List Piece} {cs : List Char} (h : chars? pieces = some cs) :
    pieces = cs.map .char := by
  fun_induction chars? pieces generalizing cs with
  | case1 => simp_all
  | case2 c rest ih =>
    obtain ⟨cs, hcs, rfl⟩ := Option.map_eq_some_iff.mp h
    rw [ih hcs, List.map_cons]
  | case3 => cases h

/-- A byte string that is text holds the octets of this text. -/
theorem encode_of_decode? {bytes : Bytes} {s : String} (h : decode? bytes = some s) :
    encode s = bytes := by
  obtain ⟨cs, hcs, rfl⟩ := Option.map_eq_some_iff.mp h
  rw [encode, String.toList_ofList]
  exact flatMap_pieces bytes hcs

theorem lossy_of_decode? {bytes : Bytes} {s : String} (h : decode? bytes = some s) :
    lossy bytes = s := by
  obtain ⟨cs, hcs, rfl⟩ := Option.map_eq_some_iff.mp h
  rw [lossy, eq_map_of_chars? hcs, List.map_map]
  exact congrArg String.ofList (List.map_id' cs)

end EmmcVault.Text.Utf8
