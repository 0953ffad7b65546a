import EmmcVault.Fault
import EmmcVault.Settings

/-!
# Usable settings

Blocks and transfer budgets must not be empty and a key is a positive whole
number of octets. The first rule that is broken, in that order, is reported.
-/

namespace EmmcVault.VolumeSettings

def validate (s : VolumeSettings) : Except Fault Unit :=
  if s.erase.blockSize = 0 then .error .zeroBlockSize
  else if s.erase.transferAttempts = 0 then .error .zeroTransferAttempts
  else if s.encryption.keySizeBits = 0 ∨ s.encryption.keySizeBits % 8 ≠ 0 then
    .error (.keySize s.encryption.keySizeBits)
  else .ok ()

end EmmcVault.VolumeSettings
