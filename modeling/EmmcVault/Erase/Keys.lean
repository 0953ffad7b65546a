import EmmcVault.Erase.Target

/-!
# Key destruction

Wiping every keyslot that holds key material leaves the ciphertext where it is
but makes it unreadable. The raw device is never opened, so this is safe while
the filesystem is mounted.
-/

namespace EmmcVault.CryptoErase

variable {σ η : Type} (t : EraseTarget σ η)

/-- Looks at `left` slots from `slot` on and destroys those with key material;
`destroyed` counts them. -/
def destroyFrom : (left : Nat) → (slot : UInt32) → (destroyed : UInt64) →
    EStateM Fault σ UInt64
  | 0, _, destroyed => pure destroyed
  | left + 1, slot, destroyed => do
    let status ← Call.orFault (t.crypto.keyslotStatus t.device slot)
      (.internal (.queryKeyslot slot))
    if status.holdsKeyMaterial then
      Call.orFault (t.crypto.destroyKeyslot t.device slot) (.internal (.destroyKeyslot slot))
      destroyFrom left (slot + 1) (destroyed + 1)
    else destroyFrom left (slot + 1) destroyed

def run : EStateM Fault σ EraseReport := do
  let version ← Call.orFault (t.crypto.load t.device) (.notFound .loadHeader)
  let slots ← Call.orFault (t.crypto.maxKeyslots version) (.internal .queryKeyslotCount)
  let destroyed ← destroyFrom t slots.toNat 0 0
  pure ⟨.cryptoErase, destroyed⟩

end EmmcVault.CryptoErase
