import EmmcVault.Toml.Quoted
import EmmcVault.Toml.Scalar

/-!
# TOML lexemes

Keys and scalars as they are written. Where one ends is told by its delimiters
alone; whether it means anything is a second question.
-/

namespace EmmcVault.Toml

/-- How a piece of text is marked off. -/
inductive Style where
  | bare
  | basic
  | literal
  | longBasic
  | longLiteral
deriving DecidableEq, Repr

/-- A piece of text without its opening quotes, but with its closing ones. -/
structure Lexeme where
  style : Style
  body : List Char
deriving DecidableEq, Repr

/-- Puts characters in front of the first of two texts. -/
def prepend (front : List Char) (cut : List Char × List Char) : List Char × List Char :=
  (front ++ cut.1, cut.2)

/-- Cuts behind the closing quote, or before the end of the line. -/
def cutBasic : List Char → List Char × List Char
  | [] => ([], [])
  | '"' :: rest => (['"'], rest)
  | '\n' :: rest => ([], '\n' :: rest)
  | '\\' :: '"' :: rest => prepend ['\\', '"'] (cutBasic rest)
  | '\\' :: '\\' :: rest => prepend ['\\', '\\'] (cutBasic rest)
  | c :: rest => prepend [c] (cutBasic rest)

/-- Cuts behind the closing quote, or before the end of the line. -/
def cutLiteral : List Char → List Char × List Char
  | [] => ([], [])
  | '\'' :: rest => (['\''], rest)
  | '\n' :: rest => ([], '\n' :: rest)
  | c :: rest => prepend [c] (cutLiteral rest)

/-- Cuts behind the closing quotes and up to two more. -/
def cutLongBasic : List Char → List Char × List Char
  | [] => ([], [])
  | '"' :: '"' :: '"' :: '"' :: '"' :: rest => (List.replicate 5 '"', rest)
  | '"' :: '"' :: '"' :: '"' :: rest => (List.replicate 4 '"', rest)
  | '"' :: '"' :: '"' :: rest => (List.replicate 3 '"', rest)
  | '\\' :: '"' :: rest => prepend ['\\', '"'] (cutLongBasic rest)
  | '\\' :: '\\' :: rest => prepend ['\\', '\\'] (cutLongBasic rest)
  | c :: rest => prepend [c] (cutLongBasic rest)

/-- Cuts behind the closing quotes and up to two more. -/
def cutLongLiteral : List Char → List Char × List Char
  | [] => ([], [])
  | '\'' :: '\'' :: '\'' :: '\'' :: '\'' :: rest => (List.replicate 5 '\'', rest)
  | '\'' :: '\'' :: '\'' :: '\'' :: rest => (List.replicate 4 '\'', rest)
  | '\'' :: '\'' :: '\'' :: rest => (List.replicate 3 '\'', rest)
  | c :: rest => prepend [c] (cutLongLiteral rest)

/-- Characters that end a bare piece of text. -/
def isDelimiter (c : Char) : Bool :=
  c == '=' || c == ',' || c == '[' || c == ']' || c.toNat == 0x7B || c.toNat == 0x7D ||
    c == ' ' || c == '\t' || c == '#' || c == '\r' || c == '\n'

/-- A quoted lexeme, if one starts here. -/
def cutQuoted? : List Char → Option (Lexeme × List Char)
  | '"' :: '"' :: '"' :: rest => let (body, rest) := cutLongBasic rest; some (⟨.longBasic, body⟩, rest)
  | '"' :: rest => let (body, rest) := cutBasic rest; some (⟨.basic, body⟩, rest)
  | '\'' :: '\'' :: '\'' :: rest =>
    let (body, rest) := cutLongLiteral rest
    some (⟨.longLiteral, body⟩, rest)
  | '\'' :: rest => let (body, rest) := cutLiteral rest; some (⟨.literal, body⟩, rest)
  | _ => none

/-- Cuts before the first character that `ends` the text. -/
def cutBare (ends : Char → Bool) (cs : List Char) : Lexeme × List Char :=
  (⟨.bare, cs.takeWhile (!ends ·)⟩, cs.dropWhile (!ends ·))

/-- The part of a key that starts here; it may be empty. -/
def cutKeyPart (cs : List Char) : Lexeme × List Char :=
  (cutQuoted? cs).getD (cutBare (fun c => c == '.' || isDelimiter c) cs)

/-- The scalar that starts here; it may be empty. A date and a time may be one
blank apart. -/
def cutScalar (cs : List Char) : Lexeme × List Char :=
  match cutQuoted? cs with
  | some found => found
  | none =>
    match cutBare isDelimiter cs with
    | (front, ' ' :: c :: rest) =>
      if afterDate? front.body == some [] && c.isDigit then
        let (time, rest) := cutBare isDelimiter (c :: rest)
        (⟨.bare, front.body ++ ' ' :: time.body⟩, rest)
      else (front, ' ' :: c :: rest)
    | found => found

namespace Lexeme

/-- What a scan found, if it used up all of the text. -/
def whole? : Option (List Char × List Char) → Option String
  | some (found, []) => some (String.ofList found)
  | _ => none

def text? (l : Lexeme) : Option String :=
  match l.style with
  | .bare => none
  | .basic => whole? (basic? [] l.body)
  | .literal => whole? (literal? [] l.body)
  | .longBasic => whole? (longBasic? false [] (dropLineEnd l.body))
  | .longLiteral => whole? (longLiteral? [] (dropLineEnd l.body))

def isBareKeyChar (c : Char) : Bool :=
  c.isAlphanum || c == '-' || c == '_'

/-- The name that a part of a key stands for. Text over several lines is no
name. -/
def name? (l : Lexeme) : Option String :=
  match l.style with
  | .bare =>
    if !l.body.isEmpty && l.body.all isBareKeyChar then some (String.ofList l.body) else none
  | .basic | .literal => l.text?
  | .longBasic | .longLiteral => none

def datum? (l : Lexeme) : Option Datum :=
  match l.style with
  | .bare => scalar? l.body
  | _ => l.text?.map .text

end Lexeme

end EmmcVault.Toml
