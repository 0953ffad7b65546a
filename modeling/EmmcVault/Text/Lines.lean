/-!
# Lines and labels

Cutting text at line ends, at the first separator and after a leading label.
A line ends at a line feed, which takes one carriage return before it along;
text after the last line feed is a line of its own unless it is empty, and it
keeps a trailing carriage return.
-/

namespace EmmcVault.Text

/-- The lines of a text, without their line ends. -/
def lines : List Char → List (List Char)
  | [] => []
  | '\n' :: rest => [] :: lines rest
  | '\r' :: '\n' :: rest => [] :: lines rest
  | c :: rest =>
    match lines rest with
    | [] => [[c]]
    | line :: more => (c :: line) :: more

/-- What stands before and after the first `separator`. -/
def splitOnce (separator : Char) : List Char → Option (List Char × List Char)
  | [] => none
  | c :: rest =>
    if c = separator then some ([], rest)
    else (splitOnce separator rest).map fun (before, after) => (c :: before, after)

/-- What follows `label`, if the text starts with it. -/
def after? : (label text : List Char) → Option (List Char)
  | [], text => some text
  | _ :: _, [] => none
  | a :: label, c :: text => if a = c then after? label text else none

/-- What stands before a final `c`. -/
def before? (c : Char) (text : List Char) : Option (List Char) :=
  if text.getLast? = some c then some text.dropLast else none

theorem lines_cons {line rest : List Char} (hn : '\n' ∉ line) (hr : '\r' ∉ line) :
    lines (line ++ '\n' :: rest) = line :: lines rest := by
  induction line with
  | nil => rfl
  | cons c line ih =>
    have hc : c ≠ '\n' ∧ c ≠ '\r' := ⟨fun e => hn (by simp [e]), fun e => hr (by simp [e])⟩
    rw [List.cons_append, lines, ih (fun h => hn (List.mem_cons_of_mem _ h))
      fun h => hr (List.mem_cons_of_mem _ h)]
    · exact hc.1
    · intro _ hcr
      exact absurd hcr hc.2

/-- Lines with an end after each are the lines of their text. -/
theorem lines_flatMap {ls : List (List Char)} (h : ∀ line ∈ ls, '\n' ∉ line ∧ '\r' ∉ line) :
    lines (ls.flatMap (· ++ ['\n'])) = ls := by
  induction ls with
  | nil => rfl
  | cons line ls ih =>
    obtain ⟨hn, hr⟩ := h line (List.mem_cons_self ..)
    rw [List.flatMap_cons, List.append_assoc, List.singleton_append, lines_cons hn hr,
      ih fun l hl => h l (List.mem_cons_of_mem _ hl)]

theorem after?_append (label text : List Char) : after? label (label ++ text) = some text := by
  induction label with
  | nil => simp [after?]
  | cons a label ih => simp [after?, ih]

theorem eq_append_of_after? {label text rest : List Char} (h : after? label text = some rest) :
    text = label ++ rest := by
  fun_induction after? label text with
  | case1 text => simpa using h
  | case2 => simp at h
  | case3 a label text ih => simp [ih h]
  | case4 => simp at h

theorem after?_eq_none {label text : List Char} (h : ¬ label <+: text) : after? label text = none := by
  cases hr : after? label text with
  | none => rfl
  | some rest => exact absurd ⟨rest, (eq_append_of_after? hr).symm⟩ h

theorem eq_append_of_before? {c : Char} {text start : List Char} (h : before? c text = some start) :
    text = start ++ [c] := by
  unfold before? at h
  split at h
  · rename_i hlast
    obtain ⟨ys, rfl⟩ := List.getLast?_eq_some_iff.mp hlast
    simpa using h
  · cases h

theorem splitOnce_append {separator : Char} {before rest : List Char}
    (h : separator ∉ before) :
    splitOnce separator (before ++ separator :: rest) = some (before, rest) := by
  induction before with
  | nil => simp [splitOnce]
  | cons c before ih =>
    have hc : c ≠ separator := fun e => h (by simp [e])
    simp [splitOnce, hc, ih (fun m => h (List.mem_cons_of_mem _ m))]

theorem splitOnce_eq_none {separator : Char} {text : List Char} (h : separator ∉ text) :
    splitOnce separator text = none := by
  induction text with
  | nil => rfl
  | cons c text ih =>
    have hc : c ≠ separator := fun e => h (by simp [e])
    simp [splitOnce, hc, ih (fun m => h (List.mem_cons_of_mem _ m))]

theorem eq_append_of_splitOnce {separator : Char} {text before rest : List Char}
    (h : splitOnce separator text = some (before, rest)) :
    text = before ++ separator :: rest ∧ separator ∉ before := by
  induction text generalizing before with
  | nil => cases h
  | cons c text ih =>
    rw [splitOnce] at h
    split at h
    · rename_i hc
      cases h
      exact ⟨by rw [hc, List.nil_append], List.not_mem_nil⟩
    · rename_i hc
      obtain ⟨⟨start, tail⟩, hsplit, hcut⟩ := Option.map_eq_some_iff.mp h
      cases hcut
      obtain ⟨rfl, hnot⟩ := ih hsplit
      exact ⟨rfl, fun hm => (List.mem_cons.mp hm).elim (fun he => hc he.symm) hnot⟩

theorem notMem_of_splitOnce {separator : Char} {text : List Char}
    (h : splitOnce separator text = none) : separator ∉ text := by
  intro hm
  obtain ⟨start, rest, rfl, hstart⟩ := List.eq_append_cons_of_mem hm
  rw [splitOnce_append hstart] at h
  cases h

end EmmcVault.Text
