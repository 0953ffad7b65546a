import EmmcVault.Toml.Lexeme

/-!
# The form of a TOML document

A document is a list of statements, one to a line: headers and key-value
pairs. Reading the form settles where every key and scalar begins and ends, and
how lists and tables nest; what they mean is left open. A function that goes on
with the rest that another one leaves gets `fuel`, which it never exhausts when
it is at least the length of the text: each call consumes a character.
-/

namespace EmmcVault.Toml

/-- A dotted key: the way to its table and its last part. -/
structure Key where
  path : List Lexeme
  last : Lexeme
deriving DecidableEq, Repr

inductive Form where
  | scalar (l : Lexeme)
  | list (items : List Form)
  | table (pairs : List (Key × Form))
deriving Inhabited, Repr

inductive Statement where
  | pair (key : Key) (value : Form)
  | header (repeated : Bool) (key : Key)
deriving Repr

def skipBlanks (cs : List Char) : List Char :=
  cs.dropWhile isBlank

mutual

/-- Skips blanks, line ends and comments. -/
def skipSpace? : List Char → Option (List Char)
  | ' ' :: rest => skipSpace? rest
  | '\t' :: rest => skipSpace? rest
  | '\n' :: rest => skipSpace? rest
  | '\r' :: '\n' :: rest => skipSpace? rest
  | '#' :: rest => skipComment? rest
  | rest => some rest

/-- Skips the rest of a comment and what may be skipped behind it. -/
def skipComment? : List Char → Option (List Char)
  | [] => some []
  | '\n' :: rest => skipSpace? rest
  | '\r' :: '\n' :: rest => skipSpace? rest
  | c :: rest => if isPlain c then skipComment? rest else none

end

/-- What follows a comment, its line end not taken. -/
def afterComment? (cs : List Char) : Option (List Char) :=
  match cs.dropWhile isPlain with
  | [] => some []
  | '\n' :: rest => some ('\n' :: rest)
  | '\r' :: '\n' :: rest => some ('\n' :: rest)
  | _ => none

/-- What follows the end of a statement: blanks, a comment and a line end. -/
def afterStatement? (cs : List Char) : Option (List Char) := do
  let rest ← match skipBlanks cs with
    | '#' :: rest => afterComment? rest
    | rest => some rest
  match rest with
  | [] => some []
  | '\n' :: rest => some rest
  | '\r' :: '\n' :: rest => some rest
  | _ => none

/-- The key that starts here and the blanks behind it. Its parts may be empty. -/
def cutKey : (fuel : Nat) → List Char → Key × List Char
  | 0, cs => (⟨[], ⟨.bare, []⟩⟩, cs)
  | fuel + 1, cs =>
    let (part, rest) := cutKeyPart (skipBlanks cs)
    match skipBlanks rest with
    | '.' :: rest =>
      let (key, rest) := cutKey fuel rest
      (⟨part :: key.path, key.last⟩, rest)
    | rest => (⟨[], part⟩, rest)

/-- How deep lists and tables may nest in a value. -/
def maxNesting : Nat := 80

mutual

/-- A value, if one starts here, whose lists and tables nest no deeper than
`room`. -/
def form? : (fuel room : Nat) → List Char → Option (Form × List Char)
  | 0, _, _ => none
  | fuel + 1, room, cs =>
    match cs with
    | '[' :: rest => if room = 0 then none else items? fuel (room - 1) [] rest
    | '\x7b' :: rest => if room = 0 then none else pairs? fuel (room - 1) [] rest
    | cs =>
      let (l, rest) := cutScalar cs
      if l.style = .bare ∧ l.body.isEmpty then none else some (.scalar l, rest)

/-- The rest of a list whose items so far are `found`, in reverse. -/
def items? : (fuel room : Nat) → List Form → List Char → Option (Form × List Char)
  | 0, _, _, _ => none
  | fuel + 1, room, found, cs => do
    match ← skipSpace? cs with
    | ']' :: rest => some (.list found.reverse, rest)
    | cs =>
      let (f, rest) ← form? fuel room cs
      match ← skipSpace? rest with
      | ',' :: rest => items? fuel room (f :: found) rest
      | ']' :: rest => some (.list (f :: found).reverse, rest)
      | _ => none

/-- The rest of a table between braces whose pairs so far are `found`, in
reverse. -/
def pairs? : (fuel room : Nat) → List (Key × Form) → List Char → Option (Form × List Char)
  | 0, _, _, _ => none
  | fuel + 1, room, found, cs => do
    match ← skipSpace? cs with
    | '\x7d' :: rest => some (.table found.reverse, rest)
    | cs =>
      let (key, rest) := cutKey fuel cs
      match ← skipSpace? rest with
      | '=' :: rest =>
        let (f, rest) ← form? fuel room (← skipSpace? rest)
        match ← skipSpace? rest with
        | ',' :: rest => pairs? fuel room ((key, f) :: found) rest
        | '\x7d' :: rest => some (.table ((key, f) :: found).reverse, rest)
        | _ => none
      | _ => none

end

/-- The value of a pair on a line of its own; it may be missing. -/
def lineValue? (fuel : Nat) (cs : List Char) : Option (Form × List Char) :=
  if (afterStatement? cs).isSome then some (.scalar ⟨.bare, []⟩, cs)
  else form? fuel maxNesting cs

namespace Statement

/-- Reads a header behind its opening brackets. -/
def header? (fuel : Nat) (repeated : Bool) (cs : List Char) :
    Option (Statement × List Char) := do
  let (key, rest) := cutKey fuel cs
  let rest ← match repeated, rest with
    | true, ']' :: ']' :: rest => some rest
    | false, ']' :: rest => some rest
    | _, _ => none
  return (header repeated key, ← afterStatement? rest)

/-- Reads one statement and the end of its line. -/
def read? (fuel : Nat) (cs : List Char) : Option (Statement × List Char) :=
  match cs with
  | '[' :: '[' :: rest => header? fuel true rest
  | '[' :: rest => header? fuel false rest
  | cs =>
    match cutKey fuel cs with
    | (key, '=' :: rest) => do
      let (value, rest) ← lineValue? fuel (skipBlanks rest)
      return (pair key value, ← afterStatement? rest)
    | _ => none

/-- Reads all statements; those before are `found`, in reverse. -/
def readAll? : (fuel : Nat) → List Statement → List Char → Option (List Statement)
  | 0, _, _ => none
  | fuel + 1, found, cs => do
    match ← skipSpace? cs with
    | [] => some found.reverse
    | cs =>
      let (s, rest) ← read? fuel cs
      readAll? fuel (s :: found) rest

end Statement

/-- The statements of a document. A byte order mark in front is skipped. -/
def statements? (text : String) : Option (List Statement) :=
  let cs := match text.toList with
    | '\uFEFF' :: rest => rest
    | cs => cs
  Statement.readAll? (cs.length + 1) [] cs

end EmmcVault.Toml
