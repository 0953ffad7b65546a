import EmmcVault.Json.Printer
import EmmcVault.Service.Attach
import EmmcVault.Service.CommandLine
import EmmcVault.Service.Lock
import EmmcVault.Service.Outcome
import EmmcVault.Service.Passphrase

/-!
# A run of the service

One run carries out one command: it reads the configuration and the
passphrases, locks the volume against other processes, attaches it and runs the
operation. The outcome, or the failure of the operation, is printed as JSON on
standard output; every failure is reported on standard error.
-/

namespace EmmcVault.Service

open Linux Text Codec

/-- A passphrase from the input, and what follows it. -/
def takePassphrase (input : Bytes) : Except ServiceError (Bytes × Bytes) :=
  match Passphrase.next? input with
  | some found => .ok found
  | none => .error .emptyPassphrase

/-- The operation of a command with the passphrases it needs, and the input that
is left. -/
def Command.operation (input : Bytes) : Command → Except ServiceError (Operation × Bytes)
  | .status => pure (.refresh, input)
  | .format fsType => do
    let (password, rest) ← takePassphrase input
    return (.format password fsType, rest)
  | .unlock => do
    let (password, rest) ← takePassphrase input
    return (.unlock password, rest)
  | .lock => pure (.lock, input)
  | .changePassword => do
    let (old, rest) ← takePassphrase input
    let (new, rest) ← takePassphrase rest
    return (.changePassword old new, rest)
  | .erase request => pure (.erase request, input)
  | .bkops => pure (.enableBkops, input)

inductive Ending where
  | help
  /-- The command line is not understood. -/
  | mistake
  /-- The operation was not run. -/
  | refused (e : ServiceError)
  | failed (operation : Operation) (failure : Failure)
  | done (outcome : Outcome)

namespace Ending

def ofResult (operation : Operation) : Except Failure Outcome → Ending
  | .ok outcome => done outcome
  | .error failure => failed operation failure

def exitCode : Ending → UInt32
  | help | done _ => 0
  | refused _ | failed .. => 1
  | mistake => 2

def usage : String :=
  "Usage: emmc-storage-service [--config FILE] COMMAND\n\n" ++
  "Commands: status, format [--fs-type TYPE], unlock, lock, change-password,\n" ++
  "  erase METHOD [--pass PASS] [--bytes N], bkops, help\n"

/-- A failure with its cause below it, whose lines are indented. -/
def report (message : String) (cause? : Option String) : String :=
  let below := match cause? with
    | some cause =>
      let lines := "\n    ".intercalate (cause.splitOn "\n")
      s!"\n\nCaused by:\n    {lines}"
    | none => ""
  s!"Error: {message}{below}\n"

/-- What is printed on standard output. -/
def out : Ending → String
  | help => usage
  | mistake | refused _ => ""
  | failed _ failure => Json.pretty (encode failure.report) ++ "\n"
  | done outcome => Json.pretty outcome.datum ++ "\n"

/-- What is printed on standard error. -/
def err : Ending → String
  | help | done _ => ""
  | mistake => usage
  | refused e => report e.message e.cause?
  | failed operation failure =>
    report s!"{operation.command} failed" (some failure.report.display)

end Ending

namespace Program

variable {σ η : Type} (h : Host σ η)

def carryOut (config : Config) (operation : Operation) : EStateM ServiceError σ Ending := do
  let (backends, volume) ← config.attach h
  fun s =>
    let (result, m) := execute backends ⟨volume, { world := s }⟩ operation
    .ok (.ofResult operation result) m.world.world

/-- Runs `body` while the volume is locked against other processes. -/
def exclusively {α : Type} (config : Config) (body : EStateM ServiceError σ α) :
    EStateM ServiceError σ α := do
  let lock ← VolumeLock.acquire h config.lockDirectory config.volume.container
  fun s =>
    match body s with
    | .ok a s => .ok a (lock.release h s)
    | .error e s => .error e (lock.release h s)

def serve (invocation : CommandLine.Invocation) (input : Bytes) :
    EStateM ServiceError σ Ending := do
  let config ← Config.load h invocation.config
  let (operation, _) ← MonadExcept.ofExcept (invocation.command.operation input)
  exclusively h config (carryOut h config operation)

/-- Runs the service with arguments and input on the host's world. -/
def run (args : List String) (input : Bytes) (s : σ) : Ending × σ :=
  match CommandLine.read args with
  | .error .help => (.help, s)
  | .error .mistake => (.mistake, s)
  | .ok invocation =>
    match serve h invocation input s with
    | .ok ending s => (ending, s)
    | .error e s => (.refused e, s)

end Program

end EmmcVault.Service
