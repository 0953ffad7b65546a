import EmmcVault.Text.Blank

/-!
# LUKS headers

Formats of the on-disk header, the state of its keyslots and the cipher
settings a new header is written with.
-/

namespace EmmcVault

open Text

inductive LuksVersion where
  | luks1
  | luks2
deriving DecidableEq, Repr

namespace LuksVersion

def maxKeyslots : LuksVersion → UInt32
  | luks1 => 8
  | luks2 => 32

def name : LuksVersion → String
  | luks1 => "luks1"
  | luks2 => "luks2"

/-- Reads a format name or its number; blanks around it and the case of its
letters do not matter. A refusal shows the folded name. -/
def parse (text : String) : Except String LuksVersion :=
  let folded := String.ofList (foldCase (trim text.toList))
  if folded = "luks1" ∨ folded = "1" then .ok luks1
  else if folded = "luks2" ∨ folded = "2" then .ok luks2
  else .error s!"unknown LUKS version: {folded}"

end LuksVersion

inductive KeySlotStatus where
  /-- The slot is out of range or the header is unreadable. -/
  | invalid
  | inactive
  | active
  /-- The only active slot that remains. -/
  | activeLast
deriving DecidableEq, Repr

namespace KeySlotStatus

/-- Whether the slot holds key material that can be destroyed. -/
def holdsKeyMaterial : KeySlotStatus → Bool
  | active | activeLast => true
  | invalid | inactive => false

def name : KeySlotStatus → String
  | invalid => "invalid"
  | inactive => "inactive"
  | active => "active"
  | activeLast => "active_last"

end KeySlotStatus

structure KeySlot where
  index : UInt32
  status : KeySlotStatus
deriving DecidableEq, Repr

structure EncryptionParams where
  cipher : String := "aes"
  cipherMode : String := "xts-plain64"
  keySizeBits : UInt32 := 512
  version : LuksVersion := .luks2
deriving DecidableEq, Repr

/-- The cipher and its mode, joined as the tools expect them. -/
def EncryptionParams.cipherSpec (p : EncryptionParams) : String :=
  s!"{p.cipher}-{p.cipherMode}"

end EmmcVault
