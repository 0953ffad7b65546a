import EmmcVault.Datum

/-!
# TOML tables under construction

Tables come from headers, from dotted keys and from the way to either. What
may still be added to a table depends on where it came from: a table that only
lay on the way to a header may be given its own header once, a table made by
dotted keys may grow by dotted keys and by headers below it, and a finished
value may not grow at all.
-/

namespace EmmcVault.Toml

/-- Where a table came from. -/
structure Origin where
  /-- It lay on the way to another table. -/
  implicit : Bool := false
  /-- That way was a dotted key. -/
  dotted : Bool := false
deriving DecidableEq, Repr

inductive Node where
  | value (d : Datum)
  | table (origin : Origin) (entries : List (String × Node))
  /-- Tables under a repeated header; the last one is open. -/
  | tables (earlier : List (List (String × Node))) (last : List (String × Node))
deriving Inhabited

abbrev Entries := List (String × Node)

mutual

def Node.datum : Node → Datum
  | .value d => d
  | .table _ entries => .table (entriesDatum entries)
  | .tables earlier last => .list (tablesDatum earlier ++ [.table (entriesDatum last)])

def entriesDatum : List (String × Node) → List (String × Datum)
  | [] => []
  | (key, node) :: rest => (key, node.datum) :: entriesDatum rest

def tablesDatum : List (List (String × Node)) → List Datum
  | [] => []
  | entries :: rest => .table (entriesDatum entries) :: tablesDatum rest

end

/-- The entries with another node under a key that is there. -/
def replace (key : String) (node : Node) (entries : Entries) : Entries :=
  entries.map fun entry => if entry.1 == key then (key, node) else entry

/-- Changes the table at the end of a path by `change`, making the tables on
the way that are missing. A dotted way must not enter a table that has its
own header. -/
def descend? {α : Type} (dotted : Bool) (change : Origin → Entries → Option (α × Entries)) :
    (path : List String) → Origin → Entries → Option (α × Entries)
  | [], origin, entries => change origin entries
  | key :: path, _, entries =>
    match entries.lookup key with
    | none => do
      let origin : Origin := ⟨true, dotted⟩
      let (a, inner) ← descend? dotted change path origin []
      return (a, entries ++ [(key, .table origin inner)])
    | some (.table origin inner) => do
      if dotted && !origin.implicit then none
      else
        let (a, inner) ← descend? dotted change path origin inner
        return (a, replace key (.table origin inner) entries)
    | some (.tables earlier last) => do
      let (a, last) ← descend? dotted change path {} last
      return (a, replace key (.tables earlier last) entries)
    | some (.value _) => none

/-- Adds a value under a dotted key. A dotted key adds to tables of dotted keys
only, and a plain one not to them. -/
def insert? (path : List String) (key : String) (d : Datum) (entries : Entries) :
    Option Entries :=
  Prod.snd <$> descend? true (fun origin entries =>
    if origin.dotted == path.isEmpty || (entries.lookup key).isSome then none
    else some ((), entries ++ [(key, .value d)])) path {} entries

/-- Takes the table out that a header continues: one that only lay on the way
to other headers, or a new one. -/
def take? (path : List String) (key : String) (entries : Entries) : Option (Entries × Entries) :=
  descend? false (fun _ entries =>
    match entries.lookup key with
    | none => some ([], entries)
    | some (.table origin inner) =>
      if origin.implicit && !origin.dotted then
        some (inner, entries.filter fun entry => entry.1 != key)
      else none
    | some _ => none) path {} entries

/-- Puts a finished table in the place of its header. -/
def put? (path : List String) (key : String) (table entries : Entries) : Option Entries :=
  Prod.snd <$> descend? false (fun _ entries =>
    if (entries.lookup key).isSome then none
    else some ((), entries ++ [(key, .table {} table)])) path {} entries

/-- Puts a finished table behind those of the same repeated header. -/
def putNext? (path : List String) (key : String) (table entries : Entries) : Option Entries :=
  Prod.snd <$> descend? false (fun _ entries =>
    match entries.lookup key with
    | none => some ((), entries ++ [(key, .tables [] table)])
    | some (.tables earlier last) =>
      some ((), replace key (.tables (earlier ++ [last]) table) entries)
    | some _ => none) path {} entries

end EmmcVault.Toml
