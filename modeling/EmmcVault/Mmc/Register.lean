/-!
# The extended CSD register

The 512 octets in which an eMMC card describes itself, with the fields that
erasing and background operations look at. Positions and flag values follow
the JEDEC register map.
-/

namespace EmmcVault.Mmc

def sectorSize : UInt64 := 512

/-- High-capacity erase groups are multiples of 512 KiB. -/
def eraseGroupUnit : UInt64 := 512 * 1024

structure ExtCsd where
  octets : Vector UInt8 512
deriving DecidableEq

namespace ExtCsd

/-- Position of the background operations enable octet. -/
def bkopsEnable : Fin 512 := 163

/-- Position of the octet whose writing starts a sanitize. -/
def sanitizeStart : Fin 512 := 165

/-- The flag of manual background operations. -/
def manualBkops : UInt8 := 0x01

def zeroed : ExtCsd := ⟨Vector.replicate 512 0⟩

/-- A register image; anything but exactly 512 octets is refused. -/
def ofBytes? (image : ByteArray) : Option ExtCsd :=
  if h : image.data.size = 512 then some ⟨⟨image.data, h⟩⟩ else none

def toBytes (r : ExtCsd) : ByteArray :=
  ⟨r.octets.toArray⟩

def get (r : ExtCsd) (i : Fin 512) : UInt8 :=
  r.octets[i]

def set (r : ExtCsd) (i : Fin 512) (value : UInt8) : ExtCsd :=
  ⟨r.octets.set i value⟩

/-- Whether erase groups have the high-capacity size. -/
def eraseGroupDef (r : ExtCsd) : Bool :=
  r.get 175 &&& 0x01 != 0

def eraseTimeoutMult (r : ExtCsd) : UInt8 :=
  r.get 223

/-- Size of a high-capacity erase group, in units of 512 KiB. -/
def hcEraseGroupSize (r : ExtCsd) : UInt8 :=
  r.get 224

/-- Capacity in sectors, least significant octet first. -/
def secCount (r : ExtCsd) : UInt32 :=
  (r.get 212).toUInt32 ||| (r.get 213).toUInt32 <<< 8 |||
    (r.get 214).toUInt32 <<< 16 ||| (r.get 215).toUInt32 <<< 24

def sanitizeSupported (r : ExtCsd) : Bool :=
  r.get 231 &&& 0x40 != 0

def bkopsSupported (r : ExtCsd) : Bool :=
  r.get 502 &&& 0x01 != 0

def manualBkopsEnabled (r : ExtCsd) : Bool :=
  r.get bkopsEnable &&& manualBkops != 0

def preEolInfo (r : ExtCsd) : UInt8 :=
  r.get 267

/-- Remaining life by the worse of the two wear estimates. An estimate counts
used life in steps of a tenth, from 1 to 10; 0 means that nothing is reported
and more than 10 that the life is used up. -/
def lifeRemainingPercent (r : ExtCsd) : Option UInt8 :=
  let worst := max (r.get 268) (r.get 269)
  if worst = 0 then none
  else if worst ≤ 10 then some (100 - (worst - 1) * 10)
  else some 0

/-- The fields in words, for people. -/
def describe (r : ExtCsd) : String :=
  let field (name : String) (value : String) : String := s!"{name}: {value}"
  let fields := [
    field "sec_count" (toString r.secCount),
    field "erase_group_def" (toString r.eraseGroupDef),
    field "hc_erase_grp_size" (toString r.hcEraseGroupSize),
    field "erase_timeout_mult" (toString r.eraseTimeoutMult),
    field "sanitize_supported" (toString r.sanitizeSupported),
    field "bkops_supported" (toString r.bkopsSupported),
    field "manual_bkops_enabled" (toString r.manualBkopsEnabled)]
  let text := ", ".intercalate fields
  s!"ExtCsd \x7b {text} \x7d"

end ExtCsd

end EmmcVault.Mmc
