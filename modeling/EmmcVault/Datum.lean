/-!
# Self-describing values

The values that configuration files, reports and requests are written in, apart
from any text format. Tables keep the order and the repetitions of their
fields; what either means is up to the reader.
-/

namespace EmmcVault

inductive Datum where
  | null
  | bool (b : Bool)
  | int (i : Int)
  | text (s : String)
  /-- A well-formed value that no field of ours can hold, such as a fraction. -/
  | other
  /-- A number that has no value. It may be written, but not be looked at. -/
  | unreadable
  | list (items : List Datum)
  | table (fields : List (String × Datum))
deriving Inhabited, Repr

namespace Datum

/-- What a text format allows beyond the plain forms of records and names. -/
structure Dialect where
  /-- Values that may stand as the empty content of a named case. -/
  isUnit : Datum → Bool
  /-- Whether a record written as a list may have items beyond its fields. -/
  extraItems : Bool
  /-- Values that may stand in a field that is not asked for. -/
  passesOver : Datum → Bool

def get? (d : Datum) (name : String) : Option Datum :=
  match d with
  | table fields => fields.lookup name
  | _ => none

mutual

def isReadable : Datum → Bool
  | unreadable => false
  | list items => areReadable items
  | table fields => areReadableFields fields
  | _ => true

def areReadable : List Datum → Bool
  | [] => true
  | d :: rest => isReadable d && areReadable rest

def areReadableFields : List (String × Datum) → Bool
  | [] => true
  | (_, d) :: rest => isReadable d && areReadableFields rest

end

def occurrences (fields : List (String × Datum)) (name : String) : Nat :=
  (fields.map Prod.fst).count name

/-- The fields `names` of a record, by name. A table must not repeat one of
them, other fields are passed over; a list gives them in order. -/
def record? (dialect : Dialect) (names : List String) : Datum → Option (String → Option Datum)
  | table fields =>
    if (names.all fun n => occurrences fields n ≤ 1) &&
        fields.all (fun (n, d) => names.contains n || dialect.passesOver d) then
      some fun n => fields.lookup n
    else none
  | list items =>
    if items.length ≤ names.length || dialect.extraItems then
      some fun n => (names.zip items).lookup n
    else none
  | _ => none

end Datum

end EmmcVault
