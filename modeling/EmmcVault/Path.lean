import EmmcVault.Text.Utf8

/-!
# File paths

A path is a byte string whose parts are separated by `/`. The written form is
kept, since it is shown and handed to tools unchanged. Two written forms name
the same entry when their keys agree: repeated and trailing separators and
inner `.` parts carry no meaning. `..` is a part like any other here; only the
system that looks a path up gives it one.
-/

namespace EmmcVault

open Text

structure Path where
  octets : Bytes
deriving DecidableEq, Repr

namespace Path

def separator : UInt8 := 0x2F

def ofString (s : String) : Path :=
  ⟨Utf8.encode s⟩

def text? (p : Path) : Option String :=
  Utf8.decode? p.octets

/-- The path as it is shown to people. -/
def display (p : Path) : String :=
  Utf8.lossy p.octets

def isAbsolute (p : Path) : Bool :=
  p.octets.head? == some separator

/-- `part` holds the octets since the last separator, in reverse. -/
def partsFrom (part : Bytes) : Bytes → List Bytes
  | [] => if part.isEmpty then [] else [part.reverse]
  | b :: rest =>
    if b = separator then
      if part.isEmpty then partsFrom [] rest else part.reverse :: partsFrom [] rest
    else partsFrom (b :: part) rest

/-- What stands between the separators, empty parts left out. -/
def parts (p : Path) : List Bytes :=
  partsFrom [] p.octets

def here : Bytes := [0x2E]

def up : Bytes := [0x2E, 0x2E]

/-- What the written forms of one entry have in common. -/
structure Key where
  absolute : Bool
  parts : List Bytes
deriving DecidableEq, Repr

/-- A `.` counts only where it opens a relative path. -/
def key (p : Path) : Key :=
  let parts := p.parts
  let leading := if !p.isAbsolute && parts.head? == some here then [here] else []
  ⟨p.isAbsolute, leading ++ parts.filter (· != here)⟩

/-- The written form of a key, with single separators. -/
def Key.path (k : Key) : Path :=
  ⟨(if k.absolute then [separator] else []) ++ List.intercalate [separator] k.parts⟩

/-- The path without its last part; a path without parts has none to drop. -/
def parent? (p : Path) : Option Path :=
  let k := p.key
  if k.parts.isEmpty then none else some (Key.path { k with parts := k.parts.dropLast })

/-- `p` followed by `q`; an absolute `q` stands for itself. -/
def join (p q : Path) : Path :=
  if q.isAbsolute then q
  else if p.octets.isEmpty || p.octets.getLast? == some separator then ⟨p.octets ++ q.octets⟩
  else ⟨p.octets ++ separator :: q.octets⟩

end Path

instance : ToString Path := ⟨Path.display⟩

end EmmcVault
