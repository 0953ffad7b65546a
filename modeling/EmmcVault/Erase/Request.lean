import EmmcVault.Mmc.Register

/-!
# Erase requests

What can be asked of the erase engine and what it reports. A request without a
byte count means the whole device, as the size query gives it.
-/

namespace EmmcVault

inductive EraseMethod where
  | verifyGeometry
  | pattern
  | zero
  | sanitize
  | cryptoErase
deriving DecidableEq, Repr

namespace EraseMethod

/-- Methods that write the device underneath the filesystem. -/
def writesRawDevice : EraseMethod → Bool
  | pattern | zero | sanitize => true
  | verifyGeometry | cryptoErase => false

def name : EraseMethod → String
  | verifyGeometry => "verify_geometry"
  | pattern => "pattern"
  | zero => "zero"
  | sanitize => "sanitize"
  | cryptoErase => "crypto_erase"

end EraseMethod

inductive ErasePass where
  | overwrite
  | verify
deriving DecidableEq, Repr

namespace ErasePass

def name : ErasePass → String
  | overwrite => "overwrite"
  | verify => "verify"

end ErasePass

inductive EraseRequest where
  | verifyGeometry
  | pattern (pass : ErasePass) (bytes : Option UInt64)
  | zero (pass : ErasePass) (bytes : Option UInt64)
  | sanitize (bytes : Option UInt64) (register : Option Mmc.ExtCsd)
  | cryptoErase
deriving DecidableEq

/-- The request for a method, which takes what it needs of the other values. -/
def EraseMethod.request (pass : ErasePass) (bytes : Option UInt64)
    (register : Option Mmc.ExtCsd) : EraseMethod → EraseRequest
  | verifyGeometry => .verifyGeometry
  | pattern => .pattern pass bytes
  | zero => .zero pass bytes
  | sanitize => .sanitize bytes register
  | cryptoErase => .cryptoErase

namespace EraseRequest

def method : EraseRequest → EraseMethod
  | verifyGeometry => .verifyGeometry
  | pattern .. => .pattern
  | zero .. => .zero
  | sanitize .. => .sanitize
  | cryptoErase => .cryptoErase

/-- An optional part of a request in words. -/
def optionWords : Option String → String
  | none => "None"
  | some text => s!"Some({text})"

def amountWords (bytes : Option UInt64) : String :=
  optionWords (bytes.map toString)

def passWord : ErasePass → String
  | .overwrite => "Overwrite"
  | .verify => "Verify"

def overwriteWords (name : String) (pass : ErasePass) (bytes : Option UInt64) : String :=
  s!"{name} \x7b pass: {passWord pass}, bytes: {amountWords bytes} \x7d"

def describe : EraseRequest → String
  | verifyGeometry => "VerifyGeometry"
  | pattern pass bytes => overwriteWords "Pattern" pass bytes
  | zero pass bytes => overwriteWords "Zero" pass bytes
  | sanitize bytes register =>
    let card := optionWords (register.map Mmc.ExtCsd.describe)
    s!"Sanitize \x7b bytes: {amountWords bytes}, ext_csd: {card} \x7d"
  | cryptoErase => "CryptoErase"

end EraseRequest

structure EraseReport where
  method : EraseMethod
  /-- Bytes written or verified; keyslots destroyed by a crypto erase. -/
  amount : UInt64
deriving DecidableEq, Repr

end EmmcVault
