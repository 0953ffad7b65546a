/-!
# JSON tokens

Cutting JSON text into tokens, one character at a time. A character either
continues the token that is open or closes it and is then looked at again, so
that every character is consumed exactly once.
-/

namespace EmmcVault.Json

inductive Token where
  | openList
  | closeList
  | openTable
  | closeTable
  | comma
  | colon
  | null
  | bool (b : Bool)
  /-- A number; `none` if it is not written as an integer. -/
  | number (value : Option Int)
  /-- A string; `none` if an escape in it names no character. -/
  | text (value : Option String)
deriving DecidableEq, Repr

/-- A character of a string, or half of a pair of code units. -/
inductive Unit16 where
  | char (c : Char)
  | high (u : Nat)
  | low (u : Nat)

/-- The text whose characters and code units are `units`; a half without its
other half names no character. -/
def join? : List Unit16 → Option (List Char)
  | [] => some []
  | .char c :: rest => (join? rest).map (c :: ·)
  | .high h :: .low l :: rest =>
    (join? rest).map (Char.ofNat (0x10000 + (h - 0xD800) * 0x400 + (l - 0xDC00)) :: ·)
  | .high _ :: _ | .low _ :: _ => none

def unit16 (n : Nat) : Unit16 :=
  if 0xD800 ≤ n && n < 0xDC00 then .high n
  else if 0xDC00 ≤ n && n < 0xE000 then .low n
  else .char (Char.ofNat n)

def hexDigit? (c : Char) : Option Nat :=
  if c.isDigit then some (c.toNat - '0'.toNat)
  else if 'a' ≤ c && c ≤ 'f' then some (c.toNat - 'a'.toNat + 10)
  else if 'A' ≤ c && c ≤ 'F' then some (c.toNat - 'A'.toNat + 10)
  else none

/-- The character a short escape stands for. -/
def shortEscape? : Char → Option Char
  | '"' => some '"'
  | '\\' => some '\\'
  | '/' => some '/'
  | 'b' => some '\x08'
  | 'f' => some '\x0c'
  | 'n' => some '\n'
  | 'r' => some '\r'
  | 't' => some '\t'
  | _ => none

/-- The token that is open; what it holds so far is in reverse. -/
inductive Scan where
  | between
  | word (letters : List Char)
  | number (figures : List Char)
  | text (units : List Unit16)
  | escape (units : List Unit16)
  /-- An escape by number, of which `missing` digits are still to come. -/
  | code (units : List Unit16) (value missing : Nat)

def isNumeric (c : Char) : Bool :=
  c.isDigit || c == '-' || c == '+' || c == '.' || c == 'e' || c == 'E'

/-- Digits without a superfluous leading zero. -/
def isWhole (digits : List Char) : Bool :=
  match digits with
  | [] => false
  | ['0'] => true
  | c :: rest => c.isDigit && c != '0' && rest.all Char.isDigit

def natOfDigits (digits : List Char) : Nat :=
  digits.foldl (fun n c => 10 * n + (c.toNat - '0'.toNat)) 0

/-- What follows a sign, if there is one. -/
def dropSign : List Char → List Char
  | '-' :: rest | '+' :: rest => rest
  | cs => cs

/-- Nothing, or an exponent. -/
def isExponent : List Char → Bool
  | [] => true
  | e :: rest =>
    (e == 'e' || e == 'E') && !(dropSign rest).isEmpty && (dropSign rest).all Char.isDigit

/-- Nothing, or a fraction and an exponent. -/
def isFraction : List Char → Bool
  | '.' :: rest =>
    (rest.head?.map Char.isDigit).getD false && isExponent (rest.dropWhile Char.isDigit)
  | cs => isExponent cs

/-- The token of a number written with `figures`. Minus zero is no integer. -/
def numberToken? (figures : List Char) : Option Token :=
  let negative := figures.head? == some '-'
  let unsigned := if negative then figures.tail else figures
  let whole := unsigned.takeWhile Char.isDigit
  let rest := unsigned.dropWhile Char.isDigit
  if !isWhole whole || !isFraction rest then none
  else if !rest.isEmpty then some (.number none)
  else
    let n := natOfDigits whole
    if negative then some (.number (if n = 0 then none else some (-n))) else some (.number (some n))

def wordToken? (letters : List Char) : Option Token :=
  match String.ofList letters with
  | "null" => some .null
  | "true" => some (.bool true)
  | "false" => some (.bool false)
  | _ => none

/-- Begins a token with `c`; `none` if no token begins so. -/
def begin? (c : Char) : Option (Scan × List Token) :=
  if c == ' ' || c == '\t' || c == '\n' || c == '\r' then some (.between, [])
  else if c == '[' then some (.between, [.openList])
  else if c == ']' then some (.between, [.closeList])
  else if c.toNat == 0x7B then some (.between, [.openTable])
  else if c.toNat == 0x7D then some (.between, [.closeTable])
  else if c == ',' then some (.between, [.comma])
  else if c == ':' then some (.between, [.colon])
  else if c == '"' then some (.text [], [])
  else if c.isDigit || c == '-' then some (.number [c], [])
  else if c.isAlpha then some (.word [c], [])
  else none

def Scan.next? (s : Scan) (c : Char) : Option (Scan × List Token) :=
  match s with
  | between => begin? c
  | word letters =>
    if c.isAlpha then some (word (c :: letters), [])
    else do
      let token ← wordToken? letters.reverse
      let (s, tokens) ← begin? c
      pure (s, token :: tokens)
  | number figures =>
    if isNumeric c then some (number (c :: figures), [])
    else do
      let token ← numberToken? figures.reverse
      let (s, tokens) ← begin? c
      pure (s, token :: tokens)
  | text units =>
    if c == '"' then some (between, [.text ((join? units.reverse).map String.ofList)])
    else if c == '\\' then some (escape units, [])
    else if c.toNat < 0x20 then none
    else some (text (.char c :: units), [])
  | escape units =>
    if c == 'u' then some (code units 0 4, [])
    else (shortEscape? c).map fun c => (text (.char c :: units), [])
  | code units value missing =>
    (hexDigit? c).map fun d =>
      let value := 16 * value + d
      if missing ≤ 1 then (text (unit16 value :: units), [])
      else (code units value (missing - 1), [])

/-- The tokens still open at the end of the text. -/
def Scan.finish? : Scan → Option (List Token)
  | between => some []
  | word letters => (wordToken? letters.reverse).map ([·])
  | number figures => (numberToken? figures.reverse).map ([·])
  | text _ | escape _ | code .. => none

/-- The tokens of `text`, read from the state `s`; `found` are those before, in
reverse. -/
def tokensFrom? (found : List Token) (s : Scan) : (text : List Char) → Option (List Token)
  | [] => s.finish?.map fun last => found.reverse ++ last
  | c :: rest =>
    match s.next? c with
    | none => none
    | some (s, tokens) => tokensFrom? (tokens.reverseAux found) s rest

def tokens? (text : String) : Option (List Token) :=
  tokensFrom? [] .between text.toList

end EmmcVault.Json
