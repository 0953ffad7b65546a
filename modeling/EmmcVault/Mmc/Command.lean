import EmmcVault.Mmc.Register

/-!
# MMC commands

Commands submitted to the card, with the response flags the Linux MMC driver
expects.
-/

namespace EmmcVault.Mmc

structure Command where
  opcode : UInt32
  arg : UInt32
  flags : UInt32
  write : Bool
  blockSize : UInt32
  blocks : UInt32
  timeoutMs : UInt32 := 0
deriving DecidableEq, Repr

namespace Command

/-- Opcode of the command that writes one octet of the register. -/
def switchOpcode : UInt32 := 6

/-- Opcode of the command that reads the register. -/
def sendExtCsdOpcode : UInt32 := 8

def responsePresent : UInt32 := 0x001
def responseCrc : UInt32 := 0x004
def responseBusy : UInt32 := 0x008
def responseOpcode : UInt32 := 0x010
def dataTransfer : UInt32 := 0x020
def spiStatus : UInt32 := 0x080
def spiBusy : UInt32 := 0x400

def responseR1 : UInt32 := responsePresent ||| responseCrc ||| responseOpcode

def sendExtCsd : Command where
  opcode := sendExtCsdOpcode
  arg := 0
  flags := spiStatus ||| responseR1 ||| dataTransfer
  write := false
  blockSize := 512
  blocks := 1

/-- Writes `value` at `index` of the register: write-octet mode, index, value
and the normal command set, from the top octet of the argument down. Of the
index only the low octet is sent. -/
def switch (index : UInt64) (value : UInt8) : Command where
  opcode := switchOpcode
  arg := (3 : UInt32) <<< 24 ||| (index.toUInt32 &&& 0xFF) <<< 16 ||| value.toUInt32 <<< 8 ||| 1
  flags := spiStatus ||| spiBusy ||| responseR1 ||| responseBusy
  write := true
  blockSize := 0
  blocks := 0

def withTimeout (c : Command) (timeoutMs : UInt32) : Command :=
  { c with timeoutMs }

def dataLength (c : Command) : Nat :=
  c.blockSize.toNat * c.blocks.toNat

def switchIndex? (c : Command) : Option UInt8 :=
  if c.opcode = switchOpcode then some (c.arg >>> 16).toUInt8 else none

def switchValue? (c : Command) : Option UInt8 :=
  if c.opcode = switchOpcode then some (c.arg >>> 8).toUInt8 else none

def enableBkops : Command :=
  switch ExtCsd.bkopsEnable.val.toUInt64 ExtCsd.manualBkops

def startSanitize (timeoutMs : UInt32) : Command :=
  (switch ExtCsd.sanitizeStart.val.toUInt64 1).withTimeout timeoutMs

example : enableBkops.arg = 0x03A30101 := by decide
example : enableBkops.switchIndex? = some 163 := by decide

end Command

end EmmcVault.Mmc
