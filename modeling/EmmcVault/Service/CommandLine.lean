import EmmcVault.Erase.Request
import EmmcVault.Filesystem
import EmmcVault.Path
import EmmcVault.Text.Decimal
import EmmcVault.Text.Lines

/-!
# The command line

A configuration file, a command and the options of the command. Arguments are
read from left to right and the first one that settles the outcome does so: a
request for help, or a mistake. A value that stands in an argument of its own is
looked at only when the next option or value is reached, so a mistake in it can
come after a request for help that a command makes.
-/

namespace EmmcVault.Service

open Text

/-- What the service is asked to do. -/
inductive Command where
  | status
  | format (fsType : FilesystemType)
  | unlock
  | lock
  | changePassword
  | erase (request : EraseRequest)
  | bkops
deriving DecidableEq

namespace CommandLine

/-- Why there is no command to run. -/
inductive Stop where
  | help
  | mistake
deriving DecidableEq, Repr

abbrev Parse := Except Stop

def defaultConfig : String := "/etc/emmc-storage/volume.toml"

/-- A value that a command takes. -/
inductive Slot where
  | fsType
  | pass
  | bytes
  | method
deriving DecidableEq, Repr

structure Values where
  fsType : Option FilesystemType := none
  pass : Option ErasePass := none
  bytes : Option UInt64 := none
  method : Option EraseMethod := none

namespace Values

/-- The name of an erase method on the command line. -/
def methodName : EraseMethod → String
  | .verifyGeometry => "verify-geometry"
  | .pattern => "pattern"
  | .zero => "zero"
  | .sanitize => "sanitize"
  | .cryptoErase => "crypto"

def method? (text : String) : Option EraseMethod :=
  [EraseMethod.verifyGeometry, .pattern, .zero, .sanitize, .cryptoErase].find? (methodName · = text)

def pass? (text : String) : Option ErasePass :=
  [ErasePass.overwrite, .verify].find? (·.name = text)

/-- A value for a slot that has none yet. -/
def fill {α : Type} (old : Option α) (new : Option α) : Parse (Option α) :=
  match old, new with
  | none, some a => pure (some a)
  | _, _ => throw .mistake

/-- Reads a value into its slot. A value that cannot be read is a mistake, and
so is a second one. -/
def put (v : Values) (text : String) : Slot → Parse Values
  | .fsType => return { v with fsType := ← fill v.fsType (FilesystemType.parse text).toOption }
  | .pass => return { v with pass := ← fill v.pass (pass? text) }
  | .bytes => return { v with bytes := ← fill v.bytes (Decimal.parseUInt64? text.toList) }
  | .method => return { v with method := ← fill v.method (method? text) }

end Values

/-- A command as it is read: which values it takes and what they make of it. -/
structure Grammar where
  name : String
  options : List (String × Slot) := []
  positional : Option Slot := none
  build : Values → Parse Command

def grammars : List Grammar := [
  { name := "status", build := fun _ => pure .status },
  { name := "format", options := [("fs-type", .fsType)],
    build := fun v => pure (.format (v.fsType.getD .ext4)) },
  { name := "unlock", build := fun _ => pure .unlock },
  { name := "lock", build := fun _ => pure .lock },
  { name := "change-password", build := fun _ => pure .changePassword },
  { name := "erase", options := [("pass", .pass), ("bytes", .bytes)], positional := some .method,
    build := fun v =>
      match v.method with
      | some method => pure (.erase (method.request (v.pass.getD .overwrite) v.bytes none))
      | none => throw .mistake },
  { name := "bkops", build := fun _ => pure .bkops }]

/-- What an argument looks like. -/
inductive Shape where
  /-- Two dashes alone: only values follow. -/
  | dashes
  /-- A long option, with a value behind an equals sign. -/
  | long (name : String) (value : Option String)
  /-- Short options, the first of them given. -/
  | short (name : Char)
  | plain

def shape (arg : String) : Shape :=
  match arg.toList with
  | ['-', '-'] => .dashes
  | '-' :: '-' :: rest =>
    match splitOnce '=' rest with
    | some (name, value) => .long (String.ofList name) (some (String.ofList value))
    | none => .long (String.ofList rest) none
  | '-' :: c :: _ => .short c
  | _ => .plain

/-- A command whose arguments are being read. -/
structure Reading where
  values : Values := {}
  /-- A value that was not looked at yet. -/
  pending : Option (Slot × String) := none
  /-- Where a value without an option goes. -/
  positional : Option Slot

namespace Reading

/-- Looks at the value that waits. -/
def settle (r : Reading) : Parse Reading :=
  match r.pending with
  | none => pure r
  | some (slot, text) => return { r with values := ← r.values.put text slot, pending := none }

def place (r : Reading) (text : String) : Parse Reading :=
  match r.positional with
  | none => throw .mistake
  | some slot => return { ← r.settle with pending := some (slot, text), positional := none }

/-- Ends with help, unless the value that waits is a mistake. -/
def help {α : Type} (r : Reading) : Parse α := do
  let _ ← r.settle
  throw .help

/-- Reads the rest of the arguments of a command. -/
def run (options : List (String × Slot)) (r : Reading) : List String → Parse Values
  | [] => return (← r.settle).values
  | arg :: rest =>
    match shape arg with
    | .plain => do run options (← r.place arg) rest
    | .dashes => do return (← (← rest.foldlM place r).settle).values
    | .short c => if c = 'h' then r.help else throw .mistake
    | .long name value =>
      match options.lookup name, value with
      | some slot, some text => do
        let r ← r.settle
        run options { r with values := ← r.values.put text slot } rest
      | some slot, none =>
        match rest with
        | [] => throw .mistake
        | text :: rest =>
          match shape text with
          | .plain => do run options { ← r.settle with pending := some (slot, text) } rest
          | _ => throw .mistake
      | none, none => if name = "help" then r.help else throw .mistake
      | none, some _ => throw .mistake

end Reading

def Grammar.read (g : Grammar) (args : List String) : Parse Command := do
  g.build (← Reading.run g.options { positional := g.positional } args)

/-- The configuration file, as far as it is known. -/
structure Source where
  path : Option String := none
  /-- A path that was not looked at yet. -/
  pending : Option String := none

namespace Source

/-- Takes a path; an empty one is a mistake, and so is a second one. -/
def put (s : Source) (text : String) : Parse Source :=
  if s.path.isSome || text.isEmpty then throw .mistake else pure { path := some text }

def settle (s : Source) : Parse Source :=
  match s.pending with
  | none => pure s
  | some text => { s with pending := none }.put text

end Source

/-- A command and the configuration file it is run with. -/
structure Invocation where
  config : Path
  command : Command

/-- Help is given for a command, for help itself or for the service. -/
def helpTopic : List String → Parse Invocation
  | [] => throw .help
  | [topic] =>
    if topic = "help" || grammars.any (·.name = topic) then throw .help else throw .mistake
  | _ => throw .mistake

/-- Reads the arguments up to the command, then those of the command. -/
def readFrom (source : Source) : List String → Parse Invocation
  | [] => throw .mistake
  | arg :: rest =>
    match shape arg with
    | .plain =>
      if arg = "help" then helpTopic rest
      else
        match grammars.find? (·.name = arg) with
        | none => throw .mistake
        | some g => do
          let command ← g.read rest
          let source ← source.settle
          return ⟨Path.ofString (source.path.getD defaultConfig), command⟩
    | .dashes => throw .mistake
    | .short c =>
      if c = 'h' then do
        let _ ← source.settle
        throw .help
      else throw .mistake
    | .long "config" (some text) => do readFrom (← (← source.settle).put text) rest
    | .long "config" none =>
      match rest with
      | [] => throw .mistake
      | text :: rest =>
        match shape text with
        | .plain => do readFrom { ← source.settle with pending := some text } rest
        | _ => throw .mistake
    | .long name value =>
      if name = "help" && value.isNone then do
        let _ ← source.settle
        throw .help
      else throw .mistake

/-- Reads a command line, the name of the program left out. -/
def read (args : List String) : Parse Invocation :=
  readFrom {} args

end CommandLine

end EmmcVault.Service
