import EmmcVault.Datum
import EmmcVault.Json.Token

/-!
# TOML scalars

Words, numbers, dates and times, told apart by how they are written.
-/

namespace EmmcVault.Toml

/-- Drops underscores, each of which must stand between two digits. -/
def groups? (isDigit : Char → Bool) : List Char → Option (List Char)
  | [] => none
  | [c] => if isDigit c then some [c] else none
  | c :: '_' :: rest => if isDigit c then (groups? isDigit rest).map (c :: ·) else none
  | c :: rest => if isDigit c then (groups? isDigit rest).map (c :: ·) else none

def valueOf (base : Nat) (digits : List Char) : Nat :=
  digits.foldl (fun n c => base * n + (Json.hexDigit? c).getD 0) 0

/-- Whether a zero stands in front of others. -/
def hasLeadingZero : List Char → Bool
  | '0' :: _ :: _ => true
  | _ => false

/-- An integer; one that fits neither 128 bits with sign nor 128 without has no
value. -/
def integer (i : Int) : Datum :=
  if -(1 <<< 127 : Nat) ≤ i && i < (1 <<< 128 : Nat) then .int i else .unreadable

/-- An integer behind the mark of its base. Without digits it has no value. -/
def based? (base : Nat) (isDigit : Char → Bool) (cs : List Char) : Option Datum :=
  if cs.isEmpty then some .unreadable
  else (groups? isDigit cs).map fun ds => integer (valueOf base ds)

def isHexDigit (c : Char) : Bool :=
  (Json.hexDigit? c).isSome

/-- Whether each underscore stands between two hexadecimal digits; `before` is
the character in front. -/
def areSeparators (before : Option Char) : List Char → Bool
  | [] => true
  | '_' :: rest =>
    before.any isHexDigit && rest.head?.any isHexDigit && areSeparators (some '_') rest
  | c :: rest => areSeparators (some c) rest

/-- A decimal integer without its sign. Behind an underscore anything may
stand, but only digits give it a value. -/
def decimal? (negative : Bool) (cs : List Char) : Option Datum :=
  if hasLeadingZero cs || !areSeparators none cs then none
  else
    let ds := cs.filter (· != '_')
    if ds.all Char.isDigit then
      some (integer (if negative then -(valueOf 10 ds : Int) else valueOf 10 ds))
    else some .unreadable

/-- Nothing, or an exponent, as its value. -/
def exponent? : List Char → Option Int
  | [] => some 0
  | e :: rest =>
    if e != 'e' && e != 'E' then none
    else
      match rest with
      | '-' :: ds => (groups? Char.isDigit ds).map fun ds => -(valueOf 10 ds : Int)
      | '+' :: ds => (groups? Char.isDigit ds).map fun ds => (valueOf 10 ds : Int)
      | ds => (groups? Char.isDigit ds).map fun ds => (valueOf 10 ds : Int)

/-- A fraction without a sign: its digits and the power of ten they are
multiplied with. -/
def fraction? (cs : List Char) : Option (List Char × Int) := do
  let isInner (c : Char) : Bool := c.isDigit || c == '_'
  let front ← (groups? Char.isDigit (cs.takeWhile isInner)).filter (!hasLeadingZero ·)
  match cs.dropWhile isInner with
  | '.' :: rest =>
    let back ← groups? Char.isDigit (rest.takeWhile isInner)
    let power ← exponent? (rest.dropWhile isInner)
    return (front ++ back, power - back.length)
  | rest =>
    if rest.isEmpty then none else return (front, ← exponent? rest)

/-- Whether a number is too large to be rounded to a finite double. -/
def overflows (digits : List Char) (power : Int) : Bool :=
  let digits := digits.dropWhile (· == '0')
  let bound : Nat := (1 <<< 1024) - (1 <<< 970)
  let size : Int := digits.length + power
  if digits.isEmpty || size < 308 then false
  else if 310 < size then true
  else if power < 0 then bound * Nat.pow 10 power.natAbs ≤ valueOf 10 digits
  else bound ≤ valueOf 10 digits * Nat.pow 10 power.natAbs

/-- A number with a fraction or an exponent, without its sign. One that is
rounded to infinity has no value. -/
def float? (cs : List Char) : Option Datum :=
  (fraction? cs).map fun (digits, power) => if overflows digits power then .unreadable else .other

/-- Two digits below `limit`. -/
def pair? (limit : Nat) (a b : Char) : Option Nat :=
  if a.isDigit && b.isDigit then some (valueOf 10 [a, b]) |>.filter (· < limit) else none

def daysIn (year month : Nat) : Nat :=
  if month = 2 then
    if year % 4 = 0 ∧ (year % 100 ≠ 0 ∨ year % 400 = 0) then 29 else 28
  else if month = 4 ∨ month = 6 ∨ month = 9 ∨ month = 11 then 30
  else 31

/-- What follows a date. -/
def afterDate? : List Char → Option (List Char)
  | a :: b :: c :: d :: '-' :: e :: f :: '-' :: g :: h :: rest =>
    if [a, b, c, d].all Char.isDigit then do
      let month ← pair? 13 e f
      let day ← pair? 32 g h
      if 1 ≤ month && 1 ≤ day && day ≤ daysIn (valueOf 10 [a, b, c, d]) month then some rest
      else none
    else none
  | _ => none

/-- What follows a time of day; the seconds and their fraction may be missing. -/
def afterTime? : List Char → Option (List Char)
  | a :: b :: ':' :: c :: d :: rest => do
    let _ ← pair? 24 a b
    let _ ← pair? 60 c d
    match rest with
    | ':' :: e :: f :: rest =>
      let _ ← pair? 61 e f
      match rest with
      | '.' :: g :: rest => if g.isDigit then some (rest.dropWhile Char.isDigit) else none
      | rest => some rest
    | rest => some rest
  | _ => none

/-- Nothing, or the distance from universal time. -/
def isOffset : List Char → Bool
  | [] | ['Z'] | ['z'] => true
  | s :: a :: b :: ':' :: c :: d :: [] =>
    (s == '+' || s == '-') && (pair? 24 a b).isSome && (pair? 60 c d).isSome
  | _ => false

def isDateTime (cs : List Char) : Bool :=
  match afterDate? cs with
  | some [] => true
  | some (sep :: rest) =>
    (sep == 'T' || sep == 't' || sep == ' ') &&
      match afterTime? rest with
      | some rest => isOffset rest
      | none => false
  | none => afterTime? cs == some []

/-- A date or time, kept as a table of a field that nothing asks for. -/
def dateTime? (cs : List Char) : Option Datum :=
  if isDateTime cs then some (.table [("datetime", .text (String.ofList cs))]) else none

/-- A scalar that begins with a digit behind its sign, told apart by what
follows the first digits. -/
def numeral? (sign : Option Char) (cs : List Char) : Option Datum :=
  let rest := cs.dropWhile Char.isDigit
  if rest.head? = some '-' ∨ rest.head? = some ':' then
    if sign.isNone then dateTime? cs else none
  else if rest.any fun c => c == '.' || c == 'e' || c == 'E' then float? cs
  else if rest.isEmpty || rest.head? = some '_' then decimal? (sign == some '-') cs
  else none

/-- A number without its sign. The mark of a base goes without sign. -/
def unsigned? (sign : Option Char) (cs : List Char) : Option Datum :=
  match cs with
  | ['i', 'n', 'f'] | ['n', 'a', 'n'] => some .other
  | '0' :: 'x' :: rest => if sign.isNone then based? 16 isHexDigit rest else none
  | '0' :: 'o' :: rest => if sign.isNone then based? 8 (fun c => '0' ≤ c && c ≤ '7') rest else none
  | '0' :: 'b' :: rest => if sign.isNone then based? 2 (fun c => c == '0' || c == '1') rest else none
  | c :: _ => if c.isDigit then numeral? sign cs else none
  | [] => none

def scalar? (cs : List Char) : Option Datum :=
  match cs with
  | '+' :: rest => unsigned? (some '+') rest
  | '-' :: rest => unsigned? (some '-') rest
  | ['t', 'r', 'u', 'e'] => some (.bool true)
  | ['f', 'a', 'l', 's', 'e'] => some (.bool false)
  | cs => unsigned? none cs

end EmmcVault.Toml
