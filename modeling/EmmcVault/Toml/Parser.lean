import EmmcVault.Toml.Form
import EmmcVault.Toml.Tables

/-!
# Reading TOML

The statements of a document are carried out in order, each on the tables that
those before it left. The first flaw refuses the document; one in its form comes
before all others.
-/

namespace EmmcVault.Toml

inductive Flaw where
  | malformed
  /-- A key has more parts than any key may have. -/
  | longKey
deriving DecidableEq, Repr

abbrev Reading := Except Flaw

/-- A value that is missing because something is malformed. -/
def wellFormed {α : Type} : Option α → Reading α
  | some a => pure a
  | none => throw .malformed

/-- Parts of the longest key. -/
def maxKeyParts : Nat := 80

/-- The names of a key: the way to its table and the last one. -/
def Key.names (key : Key) : Reading (List String × String) := do
  let path ← wellFormed (key.path.mapM Lexeme.name?)
  let last ← wellFormed key.last.name?
  if maxKeyParts ≤ path.length then throw .longKey else pure (path, last)

mutual

def Form.datum : Form → Reading Datum
  | .scalar l => wellFormed l.datum?
  | .list items => return .list (← datumsOf items)
  | .table pairs => return .table (entriesDatum (← addPairs [] pairs))

def datumsOf : List Form → Reading (List Datum)
  | [] => pure []
  | form :: rest => do
    let d ← form.datum
    return d :: (← datumsOf rest)

/-- Adds the pairs of a table between braces to its entries. -/
def addPairs (entries : Entries) : List (Key × Form) → Reading Entries
  | [] => pure entries
  | (key, form) :: rest => do
    let (path, last) ← key.names
    let d ← form.datum
    addPairs (← wellFormed (insert? path last d entries)) rest

end

/-- A header whose table is open. -/
structure Header where
  repeated : Bool
  path : List String
  last : String
deriving DecidableEq, Repr

/-- The tables so far. Without a header the open table is the root itself. -/
structure Document where
  root : Entries := []
  header? : Option Header := none
  current : Entries := []

namespace Document

/-- The root with the open table in its place. -/
def close (doc : Document) : Reading Entries :=
  match doc.header? with
  | none => pure doc.current
  | some h =>
    wellFormed <|
      if h.repeated then putNext? h.path h.last doc.current doc.root
      else put? h.path h.last doc.current doc.root

/-- Opens the table of a header, which may go on with one that is there. -/
def openTable (h : Header) (root : Entries) : Reading Document :=
  if h.repeated then pure ⟨root, some h, []⟩
  else do
    let (current, root) ← wellFormed (take? h.path h.last root)
    pure ⟨root, some h, current⟩

def carryOut (doc : Document) : Statement → Reading Document
  | .pair key form => do
    let (path, last) ← key.names
    let d ← form.datum
    return { doc with current := ← wellFormed (insert? path last d doc.current) }
  | .header repeated key => do
    let root ← doc.close
    let (path, last) ← key.names
    openTable ⟨repeated, path, last⟩ root

end Document

/-- The table that a document denotes. -/
def parse (text : String) : Reading Datum := do
  let statements ← wellFormed (statements? text)
  let doc ← statements.foldlM Document.carryOut {}
  return .table (entriesDatum (← doc.close))

/-- In TOML the empty content of a named case is an empty table or list, and
items of a list beyond the fields of a record are passed over unseen. A field
that is not asked for is looked at all the same. -/
def dialect : Datum.Dialect where
  isUnit
    | .table [] => true
    | .list [] => true
    | _ => false
  extraItems := true
  passesOver := Datum.isReadable

end EmmcVault.Toml
