/-!
# Unsigned decimal numbers

Reading a number of a bounded width: ASCII digits, at least one, with an
optional plus sign in front. Leading zeros are allowed, a minus sign is not.
-/

namespace EmmcVault.Text.Decimal

def digit? (c : Char) : Option Nat :=
  if c.isDigit then some (c.toNat - '0'.toNat) else none

/-- The number whose digits are `cs`, continuing from `value`. -/
def digits? (value : Nat) : List Char → Option Nat
  | [] => some value
  | c :: cs => (digit? c).bind fun d => digits? (10 * value + d) cs

/-- Drops one plus sign. -/
def unsigned : List Char → List Char
  | '+' :: cs => cs
  | cs => cs

/-- A number below `limit`. -/
def parse? (limit : Nat) (cs : List Char) : Option Nat :=
  if (unsigned cs).isEmpty then none
  else (digits? 0 (unsigned cs)).filter (· < limit)

def parseUInt32? (cs : List Char) : Option UInt32 :=
  (parse? UInt32.size cs).map UInt32.ofNat

def parseUInt64? (cs : List Char) : Option UInt64 :=
  (parse? UInt64.size cs).map UInt64.ofNat

/-- A number below `limit` as it may be written: digits, with a plus sign or
without. -/
def IsNumber (limit : Nat) (cs : List Char) : Prop :=
  ∃ digits, (cs = digits ∨ cs = '+' :: digits) ∧ digits ≠ [] ∧
    (∀ c ∈ digits, c.isDigit = true) ∧ Nat.ofDigitChars 10 digits 0 < limit

theorem isDigit_of_digits? {value n : Nat} {cs : List Char} (h : digits? value cs = some n) :
    ∀ c ∈ cs, c.isDigit = true := by
  induction cs generalizing value with
  | nil => exact nofun
  | cons c cs ih =>
    obtain ⟨d, hd, hrest⟩ := Option.bind_eq_some_iff.mp h
    intro a ha
    obtain rfl | ha := List.mem_cons.mp ha
    · exact (Option.ite_none_right_eq_some.mp hd).1
    · exact ih hrest a ha

theorem digits?_ofDigitChars {value : Nat} {cs : List Char} (h : ∀ c ∈ cs, c.isDigit = true) :
    digits? value cs = some (Nat.ofDigitChars 10 cs value) := by
  induction cs generalizing value with
  | nil => rfl
  | cons c cs ih =>
    have hc : digit? c = some (c.toNat - '0'.toNat) := if_pos (h c (List.mem_cons_self ..))
    rw [digits?, hc, Option.bind_some, ih fun d hd => h d (List.mem_cons_of_mem _ hd)]
    rfl

/-- Nothing but a number is read as one. -/
theorem isNumber_of_parseUInt32? {n : UInt32} {cs : List Char} (h : parseUInt32? cs = some n) :
    IsNumber UInt32.size cs := by
  obtain ⟨value, hparse, -⟩ := Option.map_eq_some_iff.mp h
  rw [parse?] at hparse
  split at hparse
  · cases hparse
  rename_i hsome
  obtain ⟨hvalue, hlimit⟩ := Option.filter_eq_some_iff.mp hparse
  have hdigits := isDigit_of_digits? hvalue
  rw [digits?_ofDigitChars hdigits, Option.some.injEq] at hvalue
  refine ⟨unsigned cs, ?_, fun he => hsome (by rw [he]; rfl), hdigits, ?_⟩
  · unfold unsigned
    split
    · exact .inr rfl
    · exact .inl rfl
  · rw [hvalue]
    simpa using hlimit

/-- What is written of a number is read as this number. -/
theorem parse?_toDigits {limit n : Nat} (h : n < limit) :
    parse? limit (Nat.toDigits 10 n) = some n := by
  have hdigits : ∀ c ∈ Nat.toDigits 10 n, c.isDigit = true := fun c hc =>
    Nat.isDigit_of_mem_toDigits (by decide) (by decide) hc
  have hsign : unsigned (Nat.toDigits 10 n) = Nat.toDigits 10 n := by
    unfold unsigned
    split
    · rename_i cs hcs
      exact absurd (hdigits '+' (hcs ▸ List.mem_cons_self ..)) (by decide)
    · rfl
  have hvalue : digits? 0 (Nat.toDigits 10 n) = some n := by
    rw [digits?_ofDigitChars hdigits, Nat.ofDigitChars_toDigits (by decide) (by decide)]
  rw [parse?, hsign, hvalue, if_neg (by simp [Nat.toDigits_ne_nil])]
  exact Option.filter_some_pos (by simpa using h)

theorem toList_toString (n : UInt32) : (toString n).toList = Nat.toDigits 10 n.toNat :=
  Nat.toList_repr

theorem isDigit_of_mem_toString {n : UInt32} {c : Char} (h : c ∈ (toString n).toList) :
    c.isDigit = true := by
  rw [toList_toString] at h
  exact Nat.isDigit_of_mem_toDigits (by decide) (by decide) h

theorem parseUInt32?_toString (n : UInt32) : parseUInt32? (toString n).toList = some n := by
  rw [parseUInt32?, toList_toString, parse?_toDigits n.toNat_lt]
  exact congrArg some UInt32.ofNat_toNat

end EmmcVault.Text.Decimal
