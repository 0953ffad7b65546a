import EmmcVault.Linux.Secret
import EmmcVault.Linux.Tool
import EmmcVault.Luks.Dump

/-!
# Headers and mappings through cryptsetup

The tool cannot write a header without a keyslot. Formatting a device therefore
only stages its cipher settings, and adding the first keyslot writes the header
with them. Staged settings are used up by that attempt, whether it succeeds or
not.
-/

namespace EmmcVault.Linux

open Text

/-- A world with the settings of headers that wait for their first keyslot, by
device. -/
structure Session (σ : Type) where
  world : σ
  staged : Path.Key → Option EncryptionParams := fun _ => none

namespace Session

variable {σ : Type}

def stage (s : Session σ) (device : Path) (params : Option EncryptionParams) : Session σ :=
  { s with staged := fun k => if k = device.key then params else s.staged k }

def onWorld {ε α : Type} (call : EStateM ε σ α) : EStateM ε (Session σ) α := fun s =>
  match call s.world with
  | .ok a world => .ok a { s with world }
  | .error e world => .error e { s with world }

end Session

namespace Cryptsetup

def tool : String := "cryptsetup"

/-- A device as an argument; the tool takes text only. -/
def pathArg {σ : Type} (p : Path) : SystemTask σ Bytes :=
  if p.text?.isSome then pure p.octets
  else throw (.operationFailed s!"non UTF-8 path {Utf8.quoted p.octets}")

variable {σ η : Type} (h : Host σ η) (program : String)

def toolRun (args : List String) (operands : List Bytes) (input : Option Bytes := none) :
    ToolRun where
  program
  args := args.map Utf8.encode ++ operands
  input

/-- A run that must succeed, with options before the operands. -/
def run (args : List String) (operands : List Bytes) (input : Option Bytes := none) :
    SystemTask σ ToolReport :=
  h.runChecked (toolRun program args operands input)

def requireDevice (device : Path) : SystemTask σ Unit := do
  if h.pathExists (← get) device then pure () else throw (.deviceNotFound device.display)

def requireHeader (device : Path) : SystemTask σ Unit := do
  let arg ← pathArg device
  let report ← h.report (toolRun program ["isLuks"] [arg])
  if report.succeeded then pure ()
  else throw (.deviceNotFound s!"no LUKS header on {device}")

def dump (device : Path) : SystemTask σ LuksDump := do
  let arg ← pathArg device
  let report ← run h program ["luksDump"] [arg]
  match LuksDump.parse? report.out with
  | some dump => pure dump
  | none => throw (.unexpectedOutput tool s!"cannot read luksDump of {device}")

/-- Writes the header with one keyslot, the first, for a passphrase. -/
def writeHeader (device : Path) (params : EncryptionParams) (passphrase : Bytes) :
    SystemTask σ Unit := do
  let arg ← pathArg device
  let _ ← run h program ["luksFormat", "--batch-mode", "--type", params.version.name,
    "--cipher", params.cipherSpec, "--key-size", toString params.keySizeBits, "--key-slot", "0",
    "--key-file", "-"] [arg] (some passphrase)

def load (device : Path) : SystemTask σ LuksVersion := do
  requireDevice h device
  requireHeader h program device
  return (← dump h program device).version

/-- The slot in the first line of a report with the given verb. -/
def slotOf? (report : ToolReport) (verb : String) : Option UInt32 :=
  reportedSlot? verb [report.out, report.complaint]

def activate (device : Path) (name : String) (passphrase : Bytes) : SystemTask σ UInt32 := do
  let arg ← pathArg device
  let report ← run h program ["open", "--verbose", "--type", "luks", "--key-file", "-"]
    [arg, Utf8.encode name] (some passphrase)
  return (slotOf? report "unlocked").getD 0

def killSlot (device : Path) (slot : UInt32) : SystemTask σ Unit := do
  let arg ← pathArg device
  let _ ← run h program ["luksKillSlot", "--batch-mode"] [arg, Utf8.encode (toString slot)]

/-- Replaces a passphrase: the old one on standard input, the new one in a file. -/
def changeKey (device : Path) (old new : Bytes) : SystemTask σ UInt32 := do
  let arg ← pathArg device
  let report ← h.withSecret new fun path => do
    let newArg ← pathArg path
    run h program ["luksChangeKey", "--verbose", "--key-file", "-"] [arg, newArg]
      (some old)
  return ((slotOf? report "created").or (slotOf? report "unlocked")).getD 0

/-- Stages the settings of a device that is there. -/
def format (device : Path) (params : EncryptionParams) : Call (Session σ) Unit := do
  Session.onWorld ((requireDevice h device).serving "format")
  modify (·.stage device (some params))

/-- Writes the header that was staged for a device. -/
def addKeyslot (device : Path) (passphrase : Bytes) : Call (Session σ) UInt32 := do
  match (← get).staged device.key with
  | none =>
    throw (.failed "keyslot_add_by_volume_key"
      "no volume key available: format the device first")
  | some params =>
    modify (·.stage device none)
    Session.onWorld
      ((writeHeader h program device params passphrase).serving "keyslot_add_by_volume_key")
    pure 0

def backend : CryptoBackend (Session σ) where
  format := format h
  addKeyslot := addKeyslot h program
  load device := Session.onWorld ((load h program device).serving "load")
  activate device name passphrase :=
    Session.onWorld ((activate h program device name passphrase).serving "activate_by_passphrase")
  deactivate name := Session.onWorld <| SystemTask.serving "deactivate" do
    let _ ← run h program ["close", name] []
  destroyKeyslot device slot :=
    Session.onWorld ((killSlot h program device slot).serving "keyslot_destroy")
  maxKeyslots version := pure version.maxKeyslots
  keyslotStatus device slot := Session.onWorld <| SystemTask.serving "keyslot_status" do
    return (← dump h program device).status slot
  changePassphrase device old new :=
    Session.onWorld ((changeKey h program device old new).serving "keyslot_change_by_passphrase")

end Cryptsetup

end EmmcVault.Linux
