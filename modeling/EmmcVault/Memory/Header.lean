import EmmcVault.Memory.Journal

/-!
# An in-memory LUKS header

Keyslots, the passphrase in force and the active mappings of one volume,
without any cryptography. A header on which no passphrase was set opens with
any.
-/

namespace EmmcVault.Memory

open Text

structure Header where
  version : LuksVersion := .luks2
  /-- Number of keyslots, where it is not the one of the format. -/
  slotCount : Option UInt32 := none
  slots : UInt32 → Option KeySlotStatus := fun _ => none
  passphrase : Option Bytes := none
  /-- Settings the header was last written with. -/
  params : Option EncryptionParams := none
  active : String → Bool := fun _ => false
  /-- Passphrases of the keyslots added, in order. -/
  added : List Bytes := []
  /-- Old and new passphrase of each change, in order. -/
  changes : List (Bytes × Bytes) := []
  /-- Slots destroyed, in order. -/
  destroyed : List UInt32 := []

namespace Header

/-- `slotCount` slots with the given statuses from slot 0 upwards. -/
def withKeyslots (h : Header) (slotCount : UInt32) (statuses : List KeySlotStatus) : Header :=
  { h with slotCount := some slotCount, slots := fun i => statuses[i.toNat]? }

def setSlot (h : Header) (slot : UInt32) (status : KeySlotStatus) : Header :=
  { h with slots := fun i => if i = slot then some status else h.slots i }

def setActive (h : Header) (name : String) (value : Bool) : Header :=
  { h with active := fun n => if n = name then value else h.active n }

/-- Number of keyslots for a header of the given format. -/
def limit (h : Header) (version : LuksVersion) : UInt32 :=
  h.slotCount.getD version.maxKeyslots

/-- Slots from the limit on are invalid; one never written is empty. -/
def status (h : Header) (slot : UInt32) : KeySlotStatus :=
  if h.limit h.version ≤ slot then .invalid else (h.slots slot).getD .inactive

/-- Whether a passphrase opens the header. -/
def accepts (h : Header) (passphrase : Bytes) : Bool :=
  match h.passphrase with
  | none => true
  | some known => known == passphrase

/-- The header written anew, without keyslots. -/
def formatted (h : Header) (params : EncryptionParams) : Header :=
  { h with version := params.version, params := some params, slots := fun _ => none }

/-- Slot 0 filled with a passphrase, which comes into force. -/
def keyslotAdded (h : Header) (passphrase : Bytes) : Header :=
  { h.setSlot 0 .activeLast with
    passphrase := some passphrase, added := h.added ++ [passphrase] }

def keyslotDestroyed (h : Header) (slot : UInt32) : Header :=
  { h.setSlot slot .inactive with destroyed := h.destroyed ++ [slot] }

/-- The new passphrase comes into force, whatever the old one was. -/
def passphraseChanged (h : Header) (old new : Bytes) : Header :=
  { h with changes := h.changes ++ [(old, new)], passphrase := some new }

end Header

end EmmcVault.Memory
