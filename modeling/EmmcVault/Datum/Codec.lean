import EmmcVault.Datum
import EmmcVault.Path

/-!
# Codecs

Which values stand for a type, and which value a member of it is written as.
Integers must lie in the width of their type, an absent option is null, and a
named case is its name.
-/

namespace EmmcVault

open Datum (Dialect)

class Codec (α : Type) where
  encode : α → Datum
  decode? : Dialect → Datum → Option α

export Codec (encode decode?)

def Datum.below? (limit : Nat) : Datum → Option Nat
  | int (.ofNat n) => if n < limit then some n else none
  | _ => none

instance : Codec UInt8 where
  encode n := .int n.toNat
  decode? _ d := (d.below? UInt8.size).map UInt8.ofNat

instance : Codec UInt32 where
  encode n := .int n.toNat
  decode? _ d := (d.below? UInt32.size).map UInt32.ofNat

instance : Codec UInt64 where
  encode n := .int n.toNat
  decode? _ d := (d.below? UInt64.size).map UInt64.ofNat

instance : Codec Bool where
  encode := .bool
  decode? _
    | .bool b => some b
    | _ => none

instance : Codec String where
  encode := .text
  decode? _
    | .text s => some s
    | _ => none

instance : Codec Path where
  encode p := .text p.display
  decode? _
    | .text s => some (Path.ofString s)
    | _ => none

instance {α : Type} [Codec α] : Codec (Option α) where
  encode
    | none => .null
    | some a => encode a
  decode? dialect
    | .null => some none
    | d => (decode? dialect d).map some

instance {α : Type} [Codec α] : Codec (List α) where
  encode items := .list (items.map encode)
  decode? dialect
    | .list items => items.mapM (decode? dialect)
    | _ => none

namespace Codec

/-- The case of a name, written as the name alone or as a table from the name
to an empty content. -/
def case? {α : Type} (cases : List α) (name : α → String) (dialect : Dialect) : Datum → Option α
  | .text s => cases.find? fun a => name a == s
  | .table [(s, content)] =>
    if dialect.isUnit content then cases.find? fun a => name a == s else none
  | _ => none

/-- A type whose members are known by name. -/
@[reducible] def ofCases {α : Type} (cases : List α) (name : α → String) : Codec α where
  encode a := .text (name a)
  decode? := case? cases name

def required {α : Type} [Codec α] (dialect : Dialect) (get : String → Option Datum)
    (name : String) : Option α :=
  (get name).bind (decode? dialect)

/-- A field that has a value where it is missing. -/
def defaulted {α : Type} [Codec α] (dialect : Dialect) (get : String → Option Datum)
    (name : String) (missing : α) : Option α :=
  match get name with
  | none => some missing
  | some d => decode? dialect d

end Codec

end EmmcVault
