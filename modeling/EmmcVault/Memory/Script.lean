import EmmcVault.Backend
import EmmcVault.Buffer

/-!
# A scripted block device

A device that opens under any path and answers every call from lists of
prepared replies. The count a transfer returns may be any number, also more
than was asked for; the bytes it moves are then those asked for. A list that
has run out moves everything and succeeds.
-/

namespace EmmcVault.Memory

/-- A prepared failure, to which the failing call lends its name. -/
abbrev Refusal := (call : String) → BackendError

structure Script where
  opening : Except Refusal Unit := .ok ()
  size : Except Refusal UInt64
  syncing : Except Refusal Unit := .ok ()
  transfers : List (Except Refusal Nat) := []
  /-- Replies to commands; what they hold is copied into the front of the data. -/
  commands : List (Except Refusal ByteArray) := []
  /-- The value of every octet read. -/
  fill : UInt8 := 0

namespace Script

/-- The prepared reply to `call`. -/
def answer {τ α : Type} (call : String) (reply : Except Refusal α) : Call τ α :=
  match reply with
  | .ok a => pure a
  | .error refusal => throw (refusal call)

/-- The count of the next transfer of `requested` bytes. -/
def nextTransfer (call : String) (requested : Nat) : Call (Script × Unit) Nat := fun (s, h) =>
  match s.transfers with
  | [] => .ok requested (s, h)
  | reply :: transfers => answer call reply ({ s with transfers }, h)

def read (requested : Nat) : Call (Script × Unit) Transfer := do
  let count ← nextTransfer "read" requested
  let (s, _) ← get
  pure ⟨count, Buffer.constant (min count requested) s.fill⟩

def write (bytes : ByteArray) : Call (Script × Unit) Nat :=
  nextTransfer "write" bytes.size

def command (_ : Mmc.Command) (buffer : ByteArray) : Call (Script × Unit) ByteArray :=
  fun (s, h) =>
    match s.commands with
    | [] => .ok buffer (s, h)
    | reply :: commands =>
      match reply with
      | .error refusal => .error (refusal "mmc_command") ({ s with commands }, h)
      | .ok image => .ok (Buffer.fillFront buffer image) ({ s with commands }, h)

def devices : BlockDevices Script Unit where
  openHandle _ _ := do answer "open" (← get).opening
  read := read
  write := write
  sync := do answer "sync" (← get).1.syncing
  size := do answer "size_bytes" (← get).1.size
  command := command
  close := Prod.fst

end Script

end EmmcVault.Memory
