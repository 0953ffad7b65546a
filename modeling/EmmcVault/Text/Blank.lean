/-!
# Blank characters

The Unicode `White_Space` property and the trimming it defines. Tool output,
names typed by people and configuration words are trimmed by this property.
Letter case is folded for ASCII letters only.
-/

namespace EmmcVault.Text

/-- Members of Unicode `White_Space`. -/
def isBlank (c : Char) : Bool :=
  let n := c.toNat
  (9 ≤ n && n ≤ 13) || n == 0x20 || n == 0x85 || n == 0xA0 || n == 0x1680 ||
    (0x2000 ≤ n && n ≤ 0x200A) || n == 0x2028 || n == 0x2029 || n == 0x202F ||
    n == 0x205F || n == 0x3000

def trimStart (cs : List Char) : List Char :=
  cs.dropWhile isBlank

/-- Drops the trailing characters that satisfy `p`. -/
def dropEndWhile (p : Char → Bool) (cs : List Char) : List Char :=
  (cs.reverse.dropWhile p).reverse

def trim (cs : List Char) : List Char :=
  dropEndWhile isBlank (trimStart cs)

/-- Capital letters of ASCII become small, every other character stays. -/
def foldCase (cs : List Char) : List Char :=
  cs.map Char.toLower

theorem toNat_of_isDigit {c : Char} (h : c.isDigit = true) : 48 ≤ c.toNat ∧ c.toNat ≤ 57 := by
  simpa [Char.isDigit, UInt32.le_iff_toNat_le] using h

theorem isBlank_of_isDigit {c : Char} (h : c.isDigit = true) : isBlank c = false := by
  have hc := toNat_of_isDigit h
  simp only [isBlank, Bool.or_eq_false_iff, Bool.and_eq_false_iff, decide_eq_false_iff_not,
    beq_eq_false_iff_ne]
  omega

theorem trim_padded (start : List Char) {text : List Char} (hs : start.all isBlank = true)
    (hfirst : ∀ c ∈ text.head?, isBlank c = false)
    (hlast : ∀ c ∈ text.getLast?, isBlank c = false) : trim (start ++ text) = text := by
  have keeps : ∀ {cs : List Char}, (∀ c ∈ cs.head?, isBlank c = false) →
      cs.dropWhile isBlank = cs := by
    intro cs hc
    cases cs with
    | nil => rfl
    | cons c cs => exact List.dropWhile_cons_of_neg (by simp [hc c rfl])
  have hstart : trimStart (start ++ text) = text := by
    rw [trimStart, List.dropWhile_append_of_pos (List.all_eq_true.mp hs), keeps hfirst]
  rw [trim, hstart, dropEndWhile, keeps (by simpa using hlast), List.reverse_reverse]

theorem trim_eq_self {cs : List Char} (h : ∀ c ∈ cs, isBlank c = false) : trim cs = cs :=
  trim_padded [] rfl (fun c hc => h c (List.mem_of_mem_head? hc))
    fun c hc => h c (List.mem_of_getLast? hc)

theorem trim_ne_nil {c : Char} {rest : List Char} (hc : isBlank c = false) :
    trim (c :: rest) ≠ [] := by
  have hstart : trimStart (c :: rest) = c :: rest :=
    List.dropWhile_cons_of_neg (by simp [hc])
  rw [trim, hstart, dropEndWhile, List.reverse_cons, List.dropWhile_append]
  split <;> simp [hc]

end EmmcVault.Text
