import EmmcVault.Text.Hidden

/-!
# UTF-8 text inside byte strings

Paths, passphrases and tool output are byte strings. Decoding cuts one into
pieces: the characters it spells and, where it is not UTF-8, the longest runs
that could have begun a character. Three readings use the pieces: strict text,
text with a replacement character for each broken run, and a quoted form that
shows broken octets in hexadecimal.
-/

namespace EmmcVault.Text

/-- A byte string that names, unlocks or carries something. -/
abbrev Bytes := List UInt8

namespace Utf8

/-- The octets that spell a text. -/
def encode (s : String) : Bytes :=
  s.toList.flatMap String.utf8EncodeChar

inductive Piece where
  | char (c : Char)
  /-- Octets that begin no character, or only its beginning. -/
  | broken (octets : Bytes)
deriving DecidableEq, Repr

/-- A character whose last `missing` octets are still to come; the next one
must lie between `low` and `high`. -/
structure Unfinished where
  seen : Bytes
  value : Nat
  missing : Nat
  low : UInt8
  high : UInt8

/-- What an octet means where a character may begin. -/
inductive Lead where
  | ascii (c : Char)
  | multi (u : Unfinished)
  | broken

def lead (b : UInt8) : Lead :=
  let begins (value missing : Nat) (low high : UInt8) : Lead :=
    .multi ⟨[b], value, missing, low, high⟩
  if b < 0x80 then .ascii (Char.ofNat b.toNat)
  else if b < 0xC2 then .broken
  else if b < 0xE0 then begins (b.toNat - 0xC0) 1 0x80 0xBF
  else if b = 0xE0 then begins 0 2 0xA0 0xBF
  else if b = 0xED then begins 0xD 2 0x80 0x9F
  else if b < 0xF0 then begins (b.toNat - 0xE0) 2 0x80 0xBF
  else if b = 0xF0 then begins 0 3 0x90 0xBF
  else if b < 0xF4 then begins (b.toNat - 0xF0) 3 0x80 0xBF
  else if b = 0xF4 then begins 4 3 0x80 0x8F
  else .broken

mutual

/-- The pieces of octets that start at a character boundary. -/
def pieces : Bytes → List Piece
  | [] => []
  | b :: rest =>
    match lead b with
    | .ascii c => .char c :: pieces rest
    | .broken => .broken [b] :: pieces rest
    | .multi u => piecesFrom u rest

/-- The pieces of octets that come inside a character. -/
def piecesFrom (u : Unfinished) : Bytes → List Piece
  | [] => [.broken u.seen]
  | b :: rest =>
    if u.low ≤ b && b ≤ u.high then
      let value := 64 * u.value + (b.toNat - 0x80)
      if u.missing = 1 then .char (Char.ofNat value) :: pieces rest
      else piecesFrom ⟨u.seen ++ [b], value, u.missing - 1, 0x80, 0xBF⟩ rest
    else
      .broken u.seen ::
        match lead b with
        | .ascii c => .char c :: pieces rest
        | .broken => .broken [b] :: pieces rest
        | .multi v => piecesFrom v rest

end

def chars? : List Piece → Option (List Char)
  | [] => some []
  | .char c :: rest => (chars? rest).map (c :: ·)
  | .broken _ :: _ => none

def decode? (bytes : Bytes) : Option String :=
  (chars? (pieces bytes)).map String.ofList

/-- The text with U+FFFD for each broken run. -/
def lossy (bytes : Bytes) : String :=
  String.ofList <| (pieces bytes).map fun
    | .char c => c
    | .broken _ => '\uFFFD'

def hexDigits (n : Nat) : List Char :=
  Nat.toDigits 16 n

/-- How a character shows between quotes. -/
def quotedChar (c : Char) : List Char :=
  match c with
  | '\x00' => ['\\', '0']
  | '\t' => ['\\', 't']
  | '\r' => ['\\', 'r']
  | '\n' => ['\\', 'n']
  | '"' => ['\\', '"']
  | '\\' => ['\\', '\\']
  | c =>
    if isHidden c then ['\\', 'u', Char.ofNat 0x7B] ++ hexDigits c.toNat ++ [Char.ofNat 0x7D]
    else [c]

/-- How a broken octet shows between quotes: two capital hexadecimal digits. -/
def quotedOctet (b : UInt8) : List Char :=
  let digits := (hexDigits b.toNat).map Char.toUpper
  ['\\', 'x'] ++ (if digits.length < 2 then ['0'] else []) ++ digits

/-- A byte string between quotes, readable whatever it holds. -/
def quoted (bytes : Bytes) : String :=
  String.ofList <| ['"'] ++ (pieces bytes).flatMap (fun
    | .char c => quotedChar c
    | .broken octets => octets.flatMap quotedOctet) ++ ['"']

theorem pieces_ascii {cs : List Char} (h : ∀ c ∈ cs, c.toNat < 128) :
    pieces (cs.flatMap String.utf8EncodeChar) = cs.map .char := by
  induction cs with
  | nil => rfl
  | cons c cs ih =>
    have hc := h c (List.mem_cons_self ..)
    have hencode : String.utf8EncodeChar c = [UInt8.ofNat c.toNat] :=
      if_pos (Nat.le_of_lt_succ hc)
    have hoctet : (UInt8.ofNat c.toNat).toNat = c.toNat :=
      UInt8.toNat_ofNat_of_lt' (Nat.lt_trans hc (by decide))
    have hlead : lead (UInt8.ofNat c.toNat) = .ascii c := by
      have hlt : UInt8.ofNat c.toNat < 0x80 := by
        rw [UInt8.lt_iff_toNat_lt, hoctet]
        exact hc
      rw [lead, if_pos hlt, hoctet, Char.ofNat_toNat]
    rw [List.flatMap_cons, hencode, List.singleton_append, pieces, hlead, List.map_cons,
      ← ih fun d hd => h d (List.mem_cons_of_mem _ hd)]

/-- ASCII text is read back from its octets. -/
theorem lossy_encode {s : String} (h : ∀ c ∈ s.toList, c.toNat < 128) : lossy (encode s) = s := by
  rw [lossy, encode, pieces_ascii h, List.map_map]
  simp [Function.comp_def]

theorem encode_injective {s t : String} (h : encode s = encode t) : s = t := by
  refine String.toByteArray_inj.mp ?_
  rw [← String.ofList_toList (s := s), ← String.ofList_toList (s := t), String.toByteArray_ofList,
    String.toByteArray_ofList]
  exact congrArg List.toByteArray h

theorem encode_append {s t : String} : encode (s ++ t) = encode s ++ encode t := by
  simp [encode]

/-- An ASCII octet stands for its character alone. -/
theorem mem_of_mem_encode {s : String} {b : UInt8} (hb : b.toNat < 128) (h : b ∈ encode s) :
    Char.ofNat b.toNat ∈ s.toList := by
  obtain ⟨c, hc, hmem⟩ := List.mem_flatMap.mp h
  have hspelt : c.toNat = b.toNat := by
    have octet : ∀ n : Nat, n < 256 → b = UInt8.ofNat n → b.toNat = n := by
      rintro n hn rfl
      exact UInt8.toNat_ofNat_of_lt' hn
    -- every octet of a longer spelling is at least 128
    have high : ∀ n : Nat, 128 ≤ n → n < 256 → b ≠ UInt8.ofNat n := by
      intro n hlow hn he
      have hoctet := octet n hn he
      omega
    unfold String.utf8EncodeChar at hmem
    simp only at hmem
    split at hmem
    · rename_i hv
      rw [List.mem_singleton] at hmem
      exact (octet _ (by omega) hmem).symm
    · exfalso
      repeat' split at hmem
      all_goals simp (disch := omega) only [List.mem_cons, List.not_mem_nil, or_false, high] at hmem
  rw [← hspelt, Char.ofNat_toNat]
  exact hc

end Utf8

end EmmcVault.Text
