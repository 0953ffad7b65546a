import EmmcVault.BackendError
import EmmcVault.Erase.Request
import EmmcVault.Geometry
import EmmcVault.Identity

/-!
# Failures of volume operations

`Fault` lists the causes for which an operation is refused or given up, each
with its kind and its words. `Failure` adds the cleanup steps that failed while
steps already taken were undone; they never change the kind. `StorageError` is
the reported form of a failure: kind, message and messages of failed cleanup.
-/

namespace EmmcVault

inductive ErrorKind where
  /-- Missing or invalid volume header, or missing device. -/
  | resourceNotFound
  /-- A backend call failed, or data read back did not match. -/
  | internalFailure
  /-- Input, output or mismatch of the overwrite pattern. -/
  | eraseError
  | geometryTooSmall
  | geometryTooLarge
  | bkopsUnsupported
  | bkopsIoctlFailure
  | bkopsEnableFailure
  | invalidState
  /-- Another operation on the same volume is in progress. -/
  | busy
deriving DecidableEq, Repr

namespace ErrorKind

def all : List ErrorKind :=
  [resourceNotFound, internalFailure, eraseError, geometryTooSmall, geometryTooLarge,
    bkopsUnsupported, bkopsIoctlFailure, bkopsEnableFailure, invalidState, busy]

def name : ErrorKind → String
  | resourceNotFound => "resource_not_found"
  | internalFailure => "internal_failure"
  | eraseError => "erase_error"
  | geometryTooSmall => "geometry_too_small"
  | geometryTooLarge => "geometry_too_large"
  | bkopsUnsupported => "bkops_unsupported"
  | bkopsIoctlFailure => "bkops_ioctl_failure"
  | bkopsEnableFailure => "bkops_enable_failure"
  | invalidState => "invalid_state"
  | busy => "busy"

end ErrorKind

/-- Which way an overwrite method moves its data. -/
inductive Direction where
  | write
  | read
deriving DecidableEq, Repr

def Direction.name : Direction → String
  | .write => "write"
  | .read => "read"

inductive Step where
  | formatHeader
  | addKeyslot
  | loadHeader
  | activate
  | makeFilesystem
  | checkFilesystem
  | createMountPoint
  | mount
  | unmount
  | removeMountPoint
  | deactivate
  | changePassphrase
  | openDevice
  | querySize
  | readRegister
  | enableBkops
  | sanitize
  | queryKeyslotCount
  | queryKeyslot (slot : UInt32)
  | destroyKeyslot (slot : UInt32)
  | moveZeros (direction : Direction) (offset : Nat)
  | flushZeros
deriving DecidableEq, Repr

def Step.words : Step → String
  | formatHeader => "format volume header"
  | addKeyslot => "add keyslot"
  | loadHeader => "load volume header"
  | activate => "activate volume"
  | makeFilesystem => "mkfs"
  | checkFilesystem => "fsck"
  | createMountPoint => "create mount point"
  | mount => "mount"
  | unmount => "unmount"
  | removeMountPoint => "remove mount point"
  | deactivate => "deactivate volume"
  | changePassphrase => "change passphrase"
  | openDevice => "open device"
  | querySize => "query device size"
  | readRegister => "read extended CSD"
  | enableBkops => "enable background operations"
  | sanitize => "sanitize"
  | queryKeyslotCount => "query keyslot count"
  | queryKeyslot slot => s!"query keyslot {slot}"
  | destroyKeyslot slot => s!"destroy keyslot {slot}"
  | moveZeros direction offset => s!"zero {direction.name} at offset {offset}"
  | flushZeros => "flush zero writes"

inductive StateChange where
  | format
  | lock
  | unlock
deriving DecidableEq, Repr

def StateChange.name : StateChange → String
  | format => "format"
  | lock => "lock"
  | unlock => "unlock"

inductive Fault where
  /-- A backend call failed; the step decides what kind that is. -/
  | call (kind : ErrorKind) (step : Step) (cause : BackendError)
  | wrongState (change : StateChange) (container : String) (state : LockState)
  | unlockedForErase (method : EraseMethod)
  | zeroBlockSize
  | zeroTransferAttempts
  | keySize (bits : UInt32)
  | tooSmall (bytes minimum : UInt64)
  | tooLarge (bytes maximum : UInt64)
  | belowEraseUnit (expected unit : UInt64)
  | beyondCapacity (reported expected : UInt64)
  | sanitizeUnsupported
  | bkopsUnsupported (device : Path)
  | patternCall (direction : Direction) (offset : Nat) (cause : BackendError)
  | patternFlush (cause : BackendError)
  | patternShort (direction : Direction) (offset moved length : Nat)
  | patternMismatch (position : Nat)
  | zerosStalled (direction : Direction) (offset done length : Nat) (attempts : UInt32)
  | nonzero (position : Nat)
  /-- No memory holds a block of this size. -/
  | blockTooLarge (size : Nat)
  /-- The octets that a device said it moved are more than can be counted. -/
  | countTooLarge (direction : Direction) (offset : Nat)
  /-- The volume is claimed by another operation of this process. -/
  | claimed
  /-- The volume is locked by another process. -/
  | inUse (container : String)
deriving DecidableEq, Repr

namespace Fault

/-- A call for which every failure is internal. -/
def internal (step : Step) (cause : BackendError) : Fault :=
  .call .internalFailure step cause

/-- A call that fails when there is nothing to work on. -/
def notFound (step : Step) (cause : BackendError) : Fault :=
  .call .resourceNotFound step cause

/-- A missing device is not found, any other failure to open it internal. -/
def opening (cause : BackendError) : Fault :=
  .call (if cause.isNotFound then .resourceNotFound else .internalFailure) .openDevice cause

def kind : Fault → ErrorKind
  | call kind .. => kind
  | wrongState .. | unlockedForErase _ => .invalidState
  | zeroBlockSize | zeroTransferAttempts | keySize _ => .internalFailure
  | tooSmall .. => .geometryTooSmall
  | tooLarge .. => .geometryTooLarge
  | belowEraseUnit .. | beyondCapacity .. | sanitizeUnsupported => .internalFailure
  | bkopsUnsupported _ => .bkopsUnsupported
  | patternCall .. | patternFlush _ | patternShort .. | patternMismatch _ => .eraseError
  | zerosStalled .. | nonzero _ | blockTooLarge _ | countTooLarge .. => .internalFailure
  | claimed | inUse _ => .busy

/-- Whether the operation met a size that the machine cannot work with. No
program goes on after that. -/
def exceedsMachine : Fault → Bool
  | blockTooLarge _ | countTooLarge .. => true
  | _ => false

def stateWord : LockState → String
  | .locked => "Locked"
  | .unlocked => "Unlocked"

def message : Fault → String
  | call _ step cause => s!"{step.words}: {cause}"
  | wrongState change container state =>
    s!"cannot {change.name} volume '{container}' while it is {stateWord state}"
  | unlockedForErase method => s!"{method.name} erase needs the volume locked"
  | zeroBlockSize => "erase block size must be nonzero"
  | zeroTransferAttempts => "erase transfer attempts must be nonzero"
  | keySize bits => s!"invalid key size: {bits} bits"
  | tooSmall bytes minimum =>
    s!"device is {Size.pretty bytes} ({bytes} bytes), below the minimum of {minimum} bytes"
  | tooLarge bytes maximum =>
    s!"device is {Size.pretty bytes} ({bytes} bytes), above the maximum of {maximum} bytes"
  | belowEraseUnit expected unit =>
    s!"expected capacity of {expected} bytes is smaller than one erase unit ({unit} bytes)"
  | beyondCapacity reported expected =>
    s!"device reports {reported} bytes, less than the expected {expected}"
  | sanitizeUnsupported => "device does not advertise sanitize support"
  | bkopsUnsupported device => s!"{device} does not support background operations"
  | patternCall direction offset cause =>
    s!"pattern {direction.name} at offset {offset} failed: {cause}"
  | patternFlush cause => s!"flushing pattern writes failed: {cause}"
  | patternShort direction offset moved length =>
    s!"short pattern {direction.name} at offset {offset}: {moved} of {length} bytes"
  | patternMismatch position => s!"pattern mismatch at byte {position}"
  | zerosStalled direction offset done length attempts =>
    s!"zero {direction.name} at offset {offset} stalled: {done} of {length} bytes after {attempts} attempts"
  | nonzero position => s!"nonzero byte at offset {position}"
  | blockTooLarge size => s!"no memory holds a block of {size} bytes"
  | countTooLarge direction offset =>
    s!"zero {direction.name} at offset {offset} moved more bytes than can be counted"
  | claimed => "another operation on this volume is in progress"
  | inUse container => s!"volume '{container}' is in use by another process"

end Fault

def GeometryBounds.require (b : GeometryBounds) (bytes : UInt64) : Except Fault Unit :=
  match b.check bytes with
  | .ok => .ok ()
  | .tooSmall => .error (.tooSmall bytes b.minBytes)
  | .tooLarge => .error (.tooLarge bytes b.maxBytes)

/-- A failed operation: its cause and the undo steps that failed after it, in
the order they ran. -/
structure Failure where
  fault : Fault
  rollback : List BackendError := []
deriving DecidableEq, Repr

structure StorageError where
  kind : ErrorKind
  message : String
  rollback : List String := []
deriving DecidableEq, Repr

namespace StorageError

/-- Adds messages of cleanup steps that failed. -/
def withRollback (e : StorageError) (failures : List String) : StorageError :=
  { e with rollback := e.rollback ++ failures }

/-- Kind and message in one line, with the failed cleanup behind them. -/
def display (e : StorageError) : String :=
  let failures := "; ".intercalate e.rollback
  let suffix := if e.rollback.isEmpty then "" else s!" (rollback failed: {failures})"
  s!"{e.kind.name}: {e.message}{suffix}"

end StorageError

def Failure.kind (f : Failure) : ErrorKind :=
  f.fault.kind

def Failure.report (f : Failure) : StorageError where
  kind := f.fault.kind
  message := f.fault.message
  rollback := f.rollback.map BackendError.message

/-- The report of a fault that left nothing to undo. -/
def StorageError.ofFault (f : Fault) : StorageError :=
  Failure.report ⟨f, []⟩

end EmmcVault
