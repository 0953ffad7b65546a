import EmmcVault.Json.Parser
import EmmcVault.Json.Printer
import EmmcVault.Text.Blank

/-!
# JSON text is read back

`parse?_compact`: a value written on one line is read back as it was, whatever
its strings, numbers and nesting. The text is first cut into the tokens of the
value, and the stack of frames then puts them together again; each half is an
induction over the value, with any text or tokens after it.
-/

namespace EmmcVault

namespace Datum

mutual

/-- Whether no part of a value is written as something else than itself. -/
def isPlain : Datum → Bool
  | other | unreadable => false
  | list items => arePlain items
  | table fields => arePlainFields fields
  | _ => true

def arePlain : List Datum → Bool
  | [] => true
  | d :: rest => isPlain d && arePlain rest

def arePlainFields : List (String × Datum) → Bool
  | [] => true
  | (_, d) :: rest => isPlain d && arePlainFields rest

end

end Datum

namespace Json

-- ---------------------------------------------------------------------------
-- Texts and their tokens
-- ---------------------------------------------------------------------------

theorem tokensFrom?_found (found : List Token) (s : Scan) (text : List Char) :
    tokensFrom? found s text = (tokensFrom? [] s text).map (found.reverse ++ ·) := by
  induction text generalizing found s with
  | nil => cases s.finish? <;> simp [tokensFrom?, *]
  | cons c rest ih =>
    simp only [tokensFrom?]
    split
    · rfl
    · rename_i s tokens _
      rw [ih (tokens.reverseAux found), ih (tokens.reverseAux [])]
      simp [List.reverseAux_eq, Function.comp_def]

theorem tokensFrom?_cons {s s' : Scan} {c : Char} {tokens : List Token} {rest : List Char}
    (h : s.next? c = some (s', tokens)) :
    tokensFrom? [] s (c :: rest) = (tokensFrom? [] s' rest).map (tokens ++ ·) := by
  simp only [tokensFrom?, h, List.reverseAux_eq]
  rw [tokensFrom?_found]
  simp

/-- `text` is cut into `tokens`, whatever comes after it. -/
def Spells (text : List Char) (tokens : List Token) : Prop :=
  ∀ rest, tokensFrom? [] .between (text ++ rest) =
    (tokensFrom? [] .between rest).map (tokens ++ ·)

/-- Nothing, or a text that does not continue a number or a word. -/
def Delimited (rest : List Char) : Prop :=
  ∀ c ∈ rest.head?, isNumeric c = false ∧ c.isAlpha = false

/-- `text` is cut into `tokens` where it is not continued. -/
def SpellsOut (text : List Char) (tokens : List Token) : Prop :=
  ∀ rest, Delimited rest → tokensFrom? [] .between (text ++ rest) =
    (tokensFrom? [] .between rest).map (tokens ++ ·)

theorem Spells.out {text : List Char} {tokens : List Token} (h : Spells text tokens) :
    SpellsOut text tokens :=
  fun rest _ => h rest

theorem spells_nil : Spells [] [] := fun rest => by simp

theorem Spells.append {a b : List Char} {s t : List Token} (ha : Spells a s) (hb : Spells b t) :
    Spells (a ++ b) (s ++ t) := by
  intro rest
  rw [List.append_assoc, ha, hb, Option.map_map]
  simp [Function.comp_def]

theorem Spells.append_out {a b : List Char} {s t : List Token} (ha : Spells a s)
    (hb : SpellsOut b t) : SpellsOut (a ++ b) (s ++ t) := by
  intro rest hrest
  rw [List.append_assoc, ha, hb rest hrest, Option.map_map]
  simp [Function.comp_def]

/-- A character that is a token by itself. -/
structure IsMark (c : Char) (t : Token) : Prop where
  begins : begin? c = some (.between, [t])
  delimits : isNumeric c = false ∧ c.isAlpha = false

theorem IsMark.spells {c : Char} {t : Token} (h : IsMark c t) : Spells [c] [t] :=
  fun _ => tokensFrom?_cons (s := .between) h.begins

/-- A mark ends what is before it. -/
theorem SpellsOut.mark {a : List Char} {c : Char} {s : List Token} {t : Token}
    (ha : SpellsOut a s) (hc : IsMark c t) : Spells (a ++ [c]) (s ++ [t]) := by
  intro rest
  have hrest : Delimited (c :: rest) := fun d hd => Option.some.inj hd ▸ hc.delimits
  rw [List.append_assoc, List.singleton_append, ha _ hrest,
    tokensFrom?_cons (s := .between) hc.begins, Option.map_map]
  simp [Function.comp_def]

-- ---------------------------------------------------------------------------
-- Numbers and words
-- ---------------------------------------------------------------------------

section
variable (state : List Char → Scan) {belongs : Char → Bool} {token? : List Char → Option Token}
  {c : Char} {run : List Char} {t : Token}
  (hnext : ∀ cs c, (state cs).next? c =
    if belongs c then some (state (c :: cs), [])
    else (token? cs.reverse).bind fun t => (begin? c).bind fun (s, ts) => some (s, t :: ts))
  (hfinish : ∀ cs, (state cs).finish? = (token? cs.reverse).map ([·]))
  (hrun : ∀ c ∈ run, belongs c = true)
include hnext hfinish hrun

/-- A run of characters that belong together is one token, up to the first
character that does not belong to it. -/
theorem tokensFrom?_run {read rest : List Char} (hrest : ∀ c ∈ rest.head?, belongs c = false)
    (ht : token? (read.reverse ++ run) = some t) :
    tokensFrom? [] (state read) (run ++ rest) =
      (tokensFrom? [] .between rest).map (t :: ·) := by
  induction run generalizing read with
  | nil =>
    rw [List.append_nil] at ht
    cases rest with
    | nil =>
      rw [List.append_nil, tokensFrom?, hfinish, ht]
      rfl
    | cons c rest =>
      -- the character that ends the token is looked at again
      have hin : (state read).next? c = (begin? c).map fun (s, ts) => (s, t :: ts) := by
        rw [hnext, hrest c rfl, ht]
        cases begin? c <;> rfl
      cases hout : Scan.between.next? c with
      | none =>
        rw [show begin? c = none from hout] at hin
        simp only [List.nil_append, tokensFrom?, hin, hout, Option.map_none]
      | some next =>
        rw [show begin? c = some next from hout] at hin
        rw [List.nil_append, tokensFrom?_cons hin, tokensFrom?_cons hout, Option.map_map]
        rfl
  | cons c run ih =>
    obtain ⟨hc, hmore⟩ := List.forall_mem_cons.mp hrun
    have hstep : (state read).next? c = some (state (c :: read), []) := by
      rw [hnext, hc, if_pos rfl]
    rw [List.cons_append, tokensFrom?_cons hstep, ih hmore (by simpa using ht)]
    exact Option.map_id' ..

theorem spellsOut_run (hc : begin? c = some (state [c], []))
    (hends : ∀ c, isNumeric c = false ∧ c.isAlpha = false → belongs c = false)
    (ht : token? (c :: run) = some t) : SpellsOut (c :: run) [t] := by
  intro rest hrest
  have hmore : tokensFrom? [] (state [c]) (run ++ rest) =
      (tokensFrom? [] .between rest).map (t :: ·) :=
    tokensFrom?_run state hnext hfinish hrun (fun d hd => hends d (hrest d hd)) ht
  rw [List.cons_append, tokensFrom?_cons (s := .between) hc, hmore]
  exact Option.map_id' ..

end

theorem spellsOut_number {c : Char} {figures : List Char} {t : Token}
    (hc : begin? c = some (.number [c], [])) (hfigures : ∀ c ∈ figures, isNumeric c = true)
    (ht : numberToken? (c :: figures) = some t) : SpellsOut (c :: figures) [t] :=
  spellsOut_run .number (fun _ _ => rfl) (fun _ => rfl) hfigures hc (fun _ h => h.1) ht

theorem spellsOut_word {c : Char} {letters : List Char} {t : Token}
    (hc : begin? c = some (.word [c], [])) (hletters : ∀ c ∈ letters, c.isAlpha = true)
    (ht : wordToken? (c :: letters) = some t) : SpellsOut (c :: letters) [t] :=
  spellsOut_run .word (fun _ _ => rfl) (fun _ => rfl) hletters hc (fun _ h => h.2) ht

theorem spellsOut_null : SpellsOut "null".toList [.null] := by
  have hletters : ∀ c ∈ ['u', 'l', 'l'], c.isAlpha = true := by simp
  exact spellsOut_word (c := 'n') rfl hletters rfl

theorem spellsOut_true : SpellsOut "true".toList [.bool true] := by
  have hletters : ∀ c ∈ ['r', 'u', 'e'], c.isAlpha = true := by simp
  exact spellsOut_word (c := 't') rfl hletters rfl

theorem spellsOut_false : SpellsOut "false".toList [.bool false] := by
  have hletters : ∀ c ∈ ['a', 'l', 's', 'e'], c.isAlpha = true := by simp
  exact spellsOut_word (c := 'f') rfl hletters rfl

theorem begin?_of_isDigit {c : Char} (h : c.isDigit = true) : begin? c = some (.number [c], []) := by
  have hne : ∀ d : Char, d.isDigit = false → c ≠ d := by
    rintro d hd rfl
    simp [h] at hd
  have hc := Text.toNat_of_isDigit h
  have hopen : c.toNat ≠ 0x7B := by omega
  have hclose : c.toNat ≠ 0x7D := by omega
  simp [begin?, h, hopen, hclose, hne ' ' rfl, hne '\t' rfl, hne '\n' rfl, hne '\r' rfl,
    hne '[' rfl, hne ']' rfl, hne ',' rfl, hne ':' rfl, hne '"' rfl]

/-- The digits of a number other than zero begin with another digit than zero. -/
theorem toDigits_eq_cons {n : Nat} (h : 0 < n) :
    ∃ c rest, Nat.toDigits 10 n = c :: rest ∧ c ≠ '0' := by
  induction n using Nat.strongRecOn with
  | ind n ih =>
    rcases Nat.lt_or_ge n 10 with hlt | hge
    · refine ⟨_, [], Nat.toDigits_of_lt_base hlt, ?_⟩
      have hdigit : ∀ d < 10, 0 < d → Nat.digitChar d ≠ '0' := by decide
      exact hdigit n hlt h
    · obtain ⟨c, rest, hc, hne⟩ := ih (n / 10) (by omega) (by omega)
      exact ⟨c, rest ++ [_], by rw [Nat.toDigits_of_base_le (by decide) hge, hc]; rfl, hne⟩

theorem isDigit_of_mem {n : Nat} {c : Char} (h : c ∈ Nat.toDigits 10 n) : c.isDigit = true :=
  Nat.isDigit_of_mem_toDigits (by decide) (by decide) h

theorem isWhole_toDigits (n : Nat) : isWhole (Nat.toDigits 10 n) = true := by
  rcases Nat.eq_zero_or_pos n with rfl | hpos
  · rfl
  · obtain ⟨c, rest, hc, hne⟩ := toDigits_eq_cons hpos
    have hfirst : c.isDigit = true := isDigit_of_mem (hc ▸ List.mem_cons_self)
    have hrest : ∀ d ∈ rest, d.isDigit = true := fun d hd =>
      isDigit_of_mem (hc ▸ List.mem_cons_of_mem c hd)
    rw [hc]
    simpa [isWhole, hne, hfirst] using hrest

/-- The whole part of a number written with digits only is all of it. -/
theorem span_toDigits (n : Nat) : (Nat.toDigits 10 n).takeWhile Char.isDigit = Nat.toDigits 10 n ∧
    (Nat.toDigits 10 n).dropWhile Char.isDigit = [] := by
  have hdigits : ∀ c ∈ Nat.toDigits 10 n, c.isDigit = true := fun _ => isDigit_of_mem
  rw [← List.append_nil (Nat.toDigits 10 n), List.takeWhile_append_of_pos hdigits,
    List.dropWhile_append_of_pos hdigits]
  exact ⟨rfl, rfl⟩

theorem natOfDigits_toDigits (n : Nat) : natOfDigits (Nat.toDigits 10 n) = n :=
  Nat.ofDigitChars_toDigits (by decide) (by decide)

theorem numberToken?_toDigits (n : Nat) :
    numberToken? (Nat.toDigits 10 n) = some (.number (some n)) := by
  obtain ⟨htake, hdrop⟩ := span_toDigits n
  have hsign : (Nat.toDigits 10 n).head? ≠ some '-' := fun h =>
    absurd (isDigit_of_mem (List.mem_of_head? h)) (by decide)
  simp [numberToken?, hsign, htake, hdrop, isWhole_toDigits, natOfDigits_toDigits, isFraction,
    isExponent]

theorem numberToken?_minus {n : Nat} (h : 0 < n) :
    numberToken? ('-' :: Nat.toDigits 10 n) = some (.number (some (-n))) := by
  obtain ⟨htake, hdrop⟩ := span_toDigits n
  simp [numberToken?, htake, hdrop, isWhole_toDigits, natOfDigits_toDigits, isFraction, isExponent,
    Nat.ne_of_gt h]

theorem spellsOut_toString (i : Int) : SpellsOut (toString i).toList [.number (some i)] := by
  have hnumeric : ∀ {n : Nat}, ∀ c ∈ Nat.toDigits 10 n, isNumeric c = true := fun c hc => by
    simp [isNumeric, isDigit_of_mem hc]
  cases i with
  | ofNat n =>
    have htext : (toString (Int.ofNat n)).toList = Nat.toDigits 10 n := Nat.toList_repr
    have hnumber := numberToken?_toDigits n
    obtain ⟨c, rest, hc⟩ := List.exists_cons_of_ne_nil (Nat.toDigits_ne_nil (n := n) (b := 10))
    rw [htext, hc]
    rw [hc] at hnumber
    exact spellsOut_number (begin?_of_isDigit (isDigit_of_mem (hc ▸ List.mem_cons_self)))
      (fun d hd => hnumeric d (hc ▸ List.mem_cons_of_mem c hd)) hnumber
  | negSucc n =>
    have htext : (toString (Int.negSucc n)).toList = '-' :: Nat.toDigits 10 (n + 1) := by
      show ("-" ++ (n + 1).repr).toList = _
      rw [String.toList_append, Nat.toList_repr]
      rfl
    rw [htext]
    exact spellsOut_number rfl hnumeric (numberToken?_minus n.succ_pos)

-- ---------------------------------------------------------------------------
-- Strings
-- ---------------------------------------------------------------------------

theorem join?_chars (cs : List Char) : join? (cs.map .char) = some cs := by
  induction cs with
  | nil => rfl
  | cons c cs ih => simp [join?, ih]

theorem hexDigit?_digitChar : ∀ d < 16, hexDigit? (Nat.digitChar d) = some d := by decide

/-- Between quotes, what a character is written as is read as this character. -/
theorem tokensFrom?_escapeChar (c : Char) (units : List Unit16) (rest : List Char) :
    tokensFrom? [] (.text units) (escapeChar c ++ rest) =
      tokensFrom? [] (.text (.char c :: units)) rest := by
  unfold escapeChar
  split
  case h_8 _ hquote hbackslash _ _ _ _ _ =>
    replace hquote : c ≠ '"' := hquote
    replace hbackslash : c ≠ '\\' := hbackslash
    split
    · rename_i hcontrol
      have hhigh := hexDigit?_digitChar (c.toNat / 16) (by omega)
      have hlow := hexDigit?_digitChar (c.toNat % 16) (by omega)
      have hzero : hexDigit? '0' = some 0 := rfl
      have hunit : unit16 (16 * (c.toNat / 16) + c.toNat % 16) = .char c := by
        rw [Nat.div_add_mod, unit16, if_neg (by simp; omega), if_neg (by simp; omega),
          Char.ofNat_toNat]
      simp [numberedEscape, tokensFrom?, Scan.next?, hhigh, hlow, hzero, hunit]
    · rename_i hplain
      simp [tokensFrom?, Scan.next?, hquote, hbackslash, hplain]
  all_goals rfl

theorem tokensFrom?_quoted (units : List Char) (cs rest : List Char) :
    tokensFrom? [] (.text (units.map .char)) (cs.flatMap escapeChar ++ '"' :: rest) =
      (tokensFrom? [] .between rest).map (.text (some (String.ofList (units.reverse ++ cs))) :: ·) := by
  induction cs generalizing units with
  | nil =>
    have hend : (Scan.text (units.map .char)).next? '"' =
        some (.between, [.text (some (String.ofList units.reverse))]) := by
      simp [Scan.next?, ← List.map_reverse, join?_chars]
    simpa using tokensFrom?_cons hend
  | cons c cs ih =>
    rw [List.flatMap_cons, List.append_assoc, tokensFrom?_escapeChar]
    simpa using ih (c :: units)

theorem spells_quote (s : String) : Spells (quote s).toList [.text (some s)] := by
  intro rest
  have hopen : Scan.between.next? '"' = some (.text [], []) := rfl
  have hread := tokensFrom?_quoted [] s.toList rest
  simp only [quote, String.toList_ofList, List.cons_append, List.nil_append, List.append_assoc]
  rw [tokensFrom?_cons hopen]
  simpa using hread

-- ---------------------------------------------------------------------------
-- Cutting the text of a value
-- ---------------------------------------------------------------------------

mutual

/-- The tokens a value is written with. -/
def tokens : Datum → List Token
  | .null | .other | .unreadable => [.null]
  | .bool b => [.bool b]
  | .int i => [.number (some i)]
  | .text s => [.text (some s)]
  | .list items => .openList :: (itemTokens items ++ [.closeList])
  | .table fields => .openTable :: (fieldTokens fields ++ [.closeTable])

def itemTokens : List Datum → List Token
  | [] => []
  | [d] => tokens d
  | d :: rest => tokens d ++ .comma :: itemTokens rest

def fieldTokens : List (String × Datum) → List Token
  | [] => []
  | [(name, d)] => .text (some name) :: .colon :: tokens d
  | (name, d) :: rest => .text (some name) :: .colon :: (tokens d ++ .comma :: fieldTokens rest)

end

theorem isMark_comma : IsMark ',' .comma := ⟨rfl, by decide⟩

theorem isMark_colon : IsMark ':' .colon := ⟨rfl, by decide⟩

theorem isMark_closeList : IsMark ']' .closeList := ⟨rfl, by decide⟩

theorem isMark_closeTable : IsMark (Char.ofNat 0x7D) .closeTable := ⟨rfl, by decide⟩

theorem spells_name (name : String) :
    Spells ((quote name).toList ++ [':']) [.text (some name), .colon] :=
  (spells_quote name).append isMark_colon.spells

mutual

theorem spellsOut_compact : (d : Datum) → SpellsOut (compact d).toList (tokens d)
  | .null | .other | .unreadable => spellsOut_null
  | .bool true => spellsOut_true
  | .bool false => spellsOut_false
  | .int i => by simpa only [compact, tokens] using spellsOut_toString i
  | .text s => by simpa only [compact, tokens] using (spells_quote s).out
  | .list items => by
    have hopen : Spells ['['] [.openList] := IsMark.spells ⟨rfl, by decide⟩
    have htext := hopen.append ((spellsOut_compactItems items).mark isMark_closeList)
    simpa [compact, tokens] using htext.out
  | .table fields => by
    have hopen : Spells openBrace.toList [.openTable] :=
      IsMark.spells (c := Char.ofNat 0x7B) ⟨rfl, by decide⟩
    have htext := hopen.append ((spellsOut_compactFields fields).mark isMark_closeTable)
    simpa [compact, tokens, closeBrace] using htext.out

theorem spellsOut_compactItems : (items : List Datum) →
    SpellsOut (compactItems items).toList (itemTokens items)
  | [] => by simpa [compactItems, itemTokens] using spells_nil.out
  | [d] => spellsOut_compact d
  | d :: e :: rest => by
    have hfirst := (spellsOut_compact d).mark isMark_comma
    simpa [compactItems, itemTokens] using hfirst.append_out (spellsOut_compactItems (e :: rest))

theorem spellsOut_compactFields : (fields : List (String × Datum)) →
    SpellsOut (compactFields fields).toList (fieldTokens fields)
  | [] => by simpa [compactFields, fieldTokens] using spells_nil.out
  | [(name, d)] => by
    simpa [compactFields, fieldTokens] using (spells_name name).append_out (spellsOut_compact d)
  | (name, d) :: e :: rest => by
    have hfirst := (spells_name name).append ((spellsOut_compact d).mark isMark_comma)
    simpa [compactFields, fieldTokens] using
      hfirst.append_out (spellsOut_compactFields (e :: rest))

end

theorem tokens?_compact (d : Datum) : tokens? (compact d) = some (tokens d) := by
  simpa [tokens?, tokensFrom?, Scan.finish?] using spellsOut_compact d [] (fun c hc => nomatch hc)

-- ---------------------------------------------------------------------------
-- Putting tokens together
-- ---------------------------------------------------------------------------

theorem addField_some (fields : List (String × Datum)) (name : String) (d : Datum) :
    addField (some fields) (some name) d = some ((name, d) :: fields) :=
  rfl

theorem run?_cons {r r' : Reader} {t : Token} (rest : List Token) (h : r.next? t = some r') :
    r.run? (t :: rest) = r'.run? rest := by
  rw [Reader.run?, h]

/-- A value begins in the same way at the start of a list. -/
theorem run?_valueOrClose (d : Datum) (frames : List Frame) (rest : List Token) :
    Reader.run? ⟨.valueOrClose, frames⟩ (tokens d ++ rest) =
      Reader.run? ⟨.value, frames⟩ (tokens d ++ rest) := by
  cases d <;> rfl

theorem run?_firstItem {items : List Datum} (h : items ≠ []) (frames : List Frame)
    (rest : List Token) : Reader.run? ⟨.valueOrClose, frames⟩ (itemTokens items ++ rest) =
      Reader.run? ⟨.value, frames⟩ (itemTokens items ++ rest) := by
  match items with
  | [] => exact absurd rfl h
  | [d] => exact run?_valueOrClose d frames rest
  | d :: e :: items => simpa [itemTokens] using run?_valueOrClose d frames _

theorem run?_firstField {fields : List (String × Datum)} (h : fields ≠ []) (frames : List Frame)
    (rest : List Token) : Reader.run? ⟨.keyOrClose, frames⟩ (fieldTokens fields ++ rest) =
      Reader.run? ⟨.key, frames⟩ (fieldTokens fields ++ rest) := by
  match fields with
  | [] => exact absurd rfl h
  | [_] => rfl
  | _ :: _ :: _ => rfl

mutual

theorem run?_tokens : (d : Datum) → d.isPlain = true → ∀ frames rest,
    Reader.run? ⟨.value, frames⟩ (tokens d ++ rest) = Reader.run? ⟨.next d, frames⟩ rest
  | .null, _, _, _ | .bool _, _, _, _ | .int _, _, _, _ | .text _, _, _, _ => rfl
  | .list items, h, frames, rest => by
    rw [tokens, List.cons_append, run?_cons _ rfl, List.append_assoc, List.singleton_append]
    by_cases hempty : items = []
    · rw [hempty]
      rfl
    · rw [run?_firstItem hempty, run?_itemTokens items h hempty]
      rfl
  | .table fields, h, frames, rest => by
    rw [tokens, List.cons_append, run?_cons _ rfl, List.append_assoc, List.singleton_append]
    by_cases hempty : fields = []
    · rw [hempty]
      rfl
    · rw [run?_firstField hempty, run?_fieldTokens fields h hempty]
      rfl

/-- Items that come after those of `read`. -/
theorem run?_itemTokens : (items : List Datum) → Datum.arePlain items = true → items ≠ [] →
    ∀ read frames rest,
      Reader.run? ⟨.value, .list read :: frames⟩ (itemTokens items ++ .closeList :: rest) =
        Reader.run? ⟨.next (.list (read.reverse ++ items)), frames⟩ rest
  | [], _, h, _, _, _ => absurd rfl h
  | [d], h, _, read, frames, rest => by
    have hd : d.isPlain = true := by simpa [Datum.arePlain] using h
    rw [itemTokens, run?_tokens d hd, run?_cons _ rfl, List.reverse_cons]
  | d :: e :: items, h, _, read, frames, rest => by
    obtain ⟨hd, hitems⟩ := Bool.and_eq_true_iff.mp h
    have hmore := run?_itemTokens (e :: items) hitems (List.cons_ne_nil e items) (d :: read) frames
    rw [itemTokens, List.append_assoc, run?_tokens d hd, List.cons_append, run?_cons _ rfl, hmore]
    · simp
    · simp

/-- Fields that come after those of `read`. -/
theorem run?_fieldTokens : (fields : List (String × Datum)) → Datum.arePlainFields fields = true →
    fields ≠ [] → ∀ read frames rest,
      Reader.run? ⟨.key, .table (some read) none :: frames⟩
          (fieldTokens fields ++ .closeTable :: rest) =
        Reader.run? ⟨.next (.table (read.reverse ++ fields)), frames⟩ rest
  | [], _, h, _, _, _ => absurd rfl h
  | [(name, d)], h, _, read, frames, rest => by
    have hd : d.isPlain = true := by simpa [Datum.arePlainFields] using h
    rw [fieldTokens, List.cons_append, List.cons_append, run?_cons _ rfl, run?_cons _ rfl,
      run?_tokens d hd, run?_cons _ rfl, addField_some, tableOf, List.reverse_cons]
  | (name, d) :: f :: fields, h, _, read, frames, rest => by
    obtain ⟨hd, hfields⟩ := Bool.and_eq_true_iff.mp h
    have hmore := run?_fieldTokens (f :: fields) hfields (List.cons_ne_nil f fields)
      ((name, d) :: read) frames
    rw [fieldTokens, List.cons_append, List.cons_append, run?_cons _ rfl, run?_cons _ rfl,
      List.append_assoc, run?_tokens d hd, List.cons_append, run?_cons _ rfl, addField_some, hmore]
    · simp
    · simp

end

/-- What is written on one line is read back. -/
theorem parse?_compact {d : Datum} (h : d.isPlain = true) : parse? (compact d) = some d := by
  have hread : Reader.run? {} (tokens d) = some d := by
    have hall := run?_tokens d h [] []
    rwa [List.append_nil] at hall
  simp [parse?, tokens?_compact, hread]

end Json

end EmmcVault
