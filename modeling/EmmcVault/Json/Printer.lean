import EmmcVault.Datum

/-!
# Writing JSON

Two layouts of the same value: all on one line without blanks, and one item a
line, indented by two blanks for each level. Strings escape the quote, the
backslash and control characters, and nothing else.
-/

namespace EmmcVault.Json

def openBrace : String := "\x7b"

def closeBrace : String := "\x7d"

/-- A control character by its number, in four hexadecimal digits. -/
def numberedEscape (c : Char) : List Char :=
  let n := c.toNat
  let digit (d : Nat) : Char := Nat.digitChar d
  ['\\', 'u', '0', '0', digit (n / 16), digit (n % 16)]

/-- How a character is written between quotes. -/
def escapeChar (c : Char) : List Char :=
  match c with
  | '"' => ['\\', '"']
  | '\\' => ['\\', '\\']
  | '\x08' => ['\\', 'b']
  | '\x0c' => ['\\', 'f']
  | '\n' => ['\\', 'n']
  | '\r' => ['\\', 'r']
  | '\t' => ['\\', 't']
  | c => if c.toNat < 0x20 then numberedEscape c else [c]

def quote (s : String) : String :=
  String.ofList (['"'] ++ s.toList.flatMap escapeChar ++ ['"'])

mutual

def compact : Datum → String
  | .null => "null"
  | .bool true => "true"
  | .bool false => "false"
  | .int i => toString i
  | .text s => quote s
  | .other | .unreadable => "null"
  | .list items => "[" ++ compactItems items ++ "]"
  | .table fields => openBrace ++ compactFields fields ++ closeBrace

def compactItems : List Datum → String
  | [] => ""
  | [d] => compact d
  | d :: rest => compact d ++ "," ++ compactItems rest

def compactFields : List (String × Datum) → String
  | [] => ""
  | [(name, d)] => quote name ++ ":" ++ compact d
  | (name, d) :: rest => quote name ++ ":" ++ compact d ++ "," ++ compactFields rest

end

def newLine (level : Nat) : String :=
  "\n" ++ String.ofList (List.replicate (2 * level) ' ')

mutual

/-- A value at a level, one item a line. -/
def prettyAt (level : Nat) : Datum → String
  | .list [] => "[]"
  | .list items => "[" ++ prettyItems (level + 1) items ++ newLine level ++ "]"
  | .table [] => openBrace ++ closeBrace
  | .table fields => openBrace ++ prettyFields (level + 1) fields ++ newLine level ++ closeBrace
  | .null => "null"
  | .bool true => "true"
  | .bool false => "false"
  | .int i => toString i
  | .text s => quote s
  | .other | .unreadable => "null"

def prettyItems (level : Nat) : List Datum → String
  | [] => ""
  | [d] => newLine level ++ prettyAt level d
  | d :: rest => newLine level ++ prettyAt level d ++ "," ++ prettyItems level rest

def prettyFields (level : Nat) : List (String × Datum) → String
  | [] => ""
  | [(name, d)] => newLine level ++ quote name ++ ": " ++ prettyAt level d
  | (name, d) :: rest =>
    newLine level ++ quote name ++ ": " ++ prettyAt level d ++ "," ++ prettyFields level rest

end

def pretty (d : Datum) : String :=
  prettyAt 0 d

end EmmcVault.Json
