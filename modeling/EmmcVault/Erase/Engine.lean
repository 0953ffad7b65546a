import EmmcVault.Erase.Keys
import EmmcVault.Erase.Pattern
import EmmcVault.Erase.Sanitize
import EmmcVault.Erase.Zero

/-!
# The erase engine

One method per kind of request. A device is opened by the method that needs it
and closed when the method ends, on success or failure.
-/

namespace EmmcVault

/-- Checks the size of the device against the bounds and writes nothing. -/
def VerifyGeometry.run {σ η : Type} (t : EraseTarget σ η) : EStateM Fault σ EraseReport :=
  t.withDevice .read do
    let bytes ← Call.orFault t.devices.size (.internal .querySize)
    MonadExcept.ofExcept (t.bounds.require bytes)
    pure ⟨.verifyGeometry, bytes⟩

/-- Runs a request. An empty block size is refused before anything else. -/
def EraseTarget.run {σ η : Type} (t : EraseTarget σ η) (request : EraseRequest) :
    EStateM Fault σ EraseReport :=
  if positive : 0 < t.settings.blockSize.toNat then
    match request with
    | .verifyGeometry => VerifyGeometry.run t
    | .pattern pass bytes => PatternErase.run t _ positive pass bytes
    | .zero pass bytes => ZeroErase.run t _ positive pass bytes
    | .sanitize bytes register => SanitizeErase.run t bytes register
    | .cryptoErase => CryptoErase.run t
  else throw .zeroBlockSize

/-- With a block size, the request goes to its method. -/
theorem EraseTarget.run_eq {σ η : Type} {t : EraseTarget σ η} {request : EraseRequest}
    (positive : 0 < t.settings.blockSize.toNat) :
    t.run request = match request with
      | .verifyGeometry => VerifyGeometry.run t
      | .pattern pass bytes => PatternErase.run t _ positive pass bytes
      | .zero pass bytes => ZeroErase.run t _ positive pass bytes
      | .sanitize bytes register => SanitizeErase.run t bytes register
      | .cryptoErase => CryptoErase.run t :=
  dif_pos positive

end EmmcVault
