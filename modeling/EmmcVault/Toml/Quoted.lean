import EmmcVault.Json.Token

/-!
# TOML strings

The four kinds of string: with and without escapes, on one line and over
several. Every scan starts behind the opening quotes and gives the text and
what follows the closing ones.
-/

namespace EmmcVault.Toml

/-- Characters that may stand in a line as they are. -/
def isPlain (c : Char) : Bool :=
  c == '\t' || (0x20 ≤ c.toNat && c.toNat != 0x7F)

def isBlank (c : Char) : Bool :=
  c == ' ' || c == '\t'

/-- The character an escape of one letter stands for. -/
def shortEscape? : Char → Option Char
  | 'b' => some '\x08'
  | 't' => some '\t'
  | 'n' => some '\n'
  | 'f' => some '\x0c'
  | 'r' => some '\r'
  | 'e' => some '\x1b'
  | '"' => some '"'
  | '\\' => some '\\'
  | _ => none

/-- The character whose number is written with hexadecimal `digits`. -/
def charOfHex? (digits : List Char) : Option Char := do
  let n ← digits.foldlM (fun n c => return 16 * n + (← Json.hexDigit? c)) 0
  if n.isValidChar then some (Char.ofNat n) else none

/-- Whether nothing but blanks stands before the end of the line. -/
def endsLine (cs : List Char) : Bool :=
  match cs.dropWhile isBlank with
  | '\n' :: _ => true
  | '\r' :: '\n' :: _ => true
  | _ => false

/-- A string with escapes on one line; `found` is in reverse. -/
def basic? (found : List Char) : List Char → Option (List Char × List Char)
  | '"' :: rest => some (found.reverse, rest)
  | '\\' :: 'x' :: a :: b :: rest => do basic? ((← charOfHex? [a, b]) :: found) rest
  | '\\' :: 'u' :: a :: b :: c :: d :: rest => do
    basic? ((← charOfHex? [a, b, c, d]) :: found) rest
  | '\\' :: 'U' :: a :: b :: c :: d :: e :: f :: g :: h :: rest => do
    basic? ((← charOfHex? [a, b, c, d, e, f, g, h]) :: found) rest
  | '\\' :: c :: rest => do basic? ((← shortEscape? c) :: found) rest
  | c :: rest => if isPlain c then basic? (c :: found) rest else none
  | [] => none

/-- A string without escapes on one line. -/
def literal? (found : List Char) : List Char → Option (List Char × List Char)
  | '\'' :: rest => some (found.reverse, rest)
  | c :: rest => if isPlain c then literal? (c :: found) rest else none
  | [] => none

/-- A string with escapes over several lines. While `skipping`, after a
backslash that ends a line, blanks and line ends are passed over. Up to two
quotes may stand before the closing three. -/
def longBasic? (skipping : Bool) (found : List Char) : List Char → Option (List Char × List Char)
  | '"' :: '"' :: '"' :: '"' :: '"' :: rest => some (('"' :: '"' :: found).reverse, rest)
  | '"' :: '"' :: '"' :: '"' :: rest => some (('"' :: found).reverse, rest)
  | '"' :: '"' :: '"' :: rest => some (found.reverse, rest)
  | '\\' :: 'x' :: a :: b :: rest => do longBasic? false ((← charOfHex? [a, b]) :: found) rest
  | '\\' :: 'u' :: a :: b :: c :: d :: rest => do
    longBasic? false ((← charOfHex? [a, b, c, d]) :: found) rest
  | '\\' :: 'U' :: a :: b :: c :: d :: e :: f :: g :: h :: rest => do
    longBasic? false ((← charOfHex? [a, b, c, d, e, f, g, h]) :: found) rest
  | '\\' :: c :: rest =>
    if endsLine (c :: rest) then longBasic? true found (c :: rest)
    else do longBasic? false ((← shortEscape? c) :: found) rest
  | '\r' :: '\n' :: rest =>
    if skipping then longBasic? true found rest
    else longBasic? false ('\n' :: '\r' :: found) rest
  | c :: rest =>
    if skipping && (isBlank c || c == '\n') then longBasic? true found rest
    else if isPlain c || c == '\n' then longBasic? false (c :: found) rest
    else none
  | [] => none

/-- A string without escapes over several lines. -/
def longLiteral? (found : List Char) : List Char → Option (List Char × List Char)
  | '\'' :: '\'' :: '\'' :: '\'' :: '\'' :: rest => some (('\'' :: '\'' :: found).reverse, rest)
  | '\'' :: '\'' :: '\'' :: '\'' :: rest => some (('\'' :: found).reverse, rest)
  | '\'' :: '\'' :: '\'' :: rest => some (found.reverse, rest)
  | '\r' :: '\n' :: rest => longLiteral? ('\n' :: '\r' :: found) rest
  | c :: rest => if isPlain c || c == '\n' then longLiteral? (c :: found) rest else none
  | [] => none

/-- A line end right behind the opening quotes does not count. -/
def dropLineEnd : List Char → List Char
  | '\n' :: rest => rest
  | '\r' :: '\n' :: rest => rest
  | cs => cs

end EmmcVault.Toml
