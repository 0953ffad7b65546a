import EmmcVault.Datum
import EmmcVault.Json.Token

/-!
# Reading JSON

A stack of the lists and tables that are open reads a list of tokens, one at a
time. Nesting is bounded by the text alone.
-/

namespace EmmcVault.Json

/-- A list or table that is open; what it holds so far is in reverse. A table
with a key that is no text has no fields that could be asked for. -/
inductive Frame where
  | list (items : List Datum)
  | table (fields : Option (List (String × Datum))) (key : Option String)

/-- What the reader expects next. -/
inductive Expect where
  | value
  /-- A value, or the end of a list that is still empty. -/
  | valueOrClose
  | key
  /-- A key, or the end of a table that is still empty. -/
  | keyOrClose
  | colon
  /-- A separator or an end, after the value. -/
  | next (value : Datum)

structure Reader where
  expect : Expect := .value
  frames : List Frame := []

def tableOf : Option (List (String × Datum)) → Datum
  | some fields => .table fields.reverse
  | none => .other

def addField (fields : Option (List (String × Datum))) (key : Option String) (value : Datum) :
    Option (List (String × Datum)) := do
  return (← key, value) :: (← fields)

/-- The value of a token that is one by itself. -/
def scalar? : Token → Option Datum
  | .null => some .null
  | .bool b => some (.bool b)
  | .number (some i) => some (.int i)
  | .number none => some .other
  | .text (some s) => some (.text s)
  | .text none => some .other
  | _ => none

def Reader.begin? (r : Reader) (t : Token) : Option Reader :=
  match t with
  | .openList => some ⟨.valueOrClose, .list [] :: r.frames⟩
  | .openTable => some ⟨.keyOrClose, .table (some []) none :: r.frames⟩
  | t => (scalar? t).map fun value => ⟨.next value, r.frames⟩

def Reader.key? (r : Reader) (t : Token) : Option Reader :=
  match t, r.frames with
  | .text key, .table fields _ :: frames => some ⟨.colon, .table fields key :: frames⟩
  | _, _ => none

def Reader.next? (r : Reader) (t : Token) : Option Reader :=
  match r.expect, t, r.frames with
  | .value, t, _ => r.begin? t
  | .valueOrClose, .closeList, .list items :: frames => some ⟨.next (.list items.reverse), frames⟩
  | .valueOrClose, t, _ => r.begin? t
  | .key, t, _ => r.key? t
  | .keyOrClose, .closeTable, .table fields _ :: frames => some ⟨.next (tableOf fields), frames⟩
  | .keyOrClose, t, _ => r.key? t
  | .colon, .colon, frames => some ⟨.value, frames⟩
  | .colon, _, _ => none
  | .next value, .comma, .list items :: frames => some ⟨.value, .list (value :: items) :: frames⟩
  | .next value, .closeList, .list items :: frames =>
    some ⟨.next (.list (value :: items).reverse), frames⟩
  | .next value, .comma, .table fields key :: frames =>
    some ⟨.key, .table (addField fields key value) none :: frames⟩
  | .next value, .closeTable, .table fields key :: frames =>
    some ⟨.next (tableOf (addField fields key value)), frames⟩
  | .next _, _, _ => none

def Reader.finish? (r : Reader) : Option Datum :=
  match r.expect, r.frames with
  | .next value, [] => some value
  | _, _ => none

def Reader.run? (r : Reader) : List Token → Option Datum
  | [] => r.finish?
  | t :: rest =>
    match r.next? t with
    | some r => r.run? rest
    | none => none

def parse? (text : String) : Option Datum := do
  Reader.run? {} (← tokens? text)

/-- In JSON the empty content of a named case is null, and a record written as
a list has no further items. A field that is not asked for may hold anything. -/
def dialect : Datum.Dialect where
  isUnit
    | .null => true
    | _ => false
  extraItems := false
  passesOver _ := true

end EmmcVault.Json
