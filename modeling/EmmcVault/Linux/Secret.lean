import EmmcVault.Linux.Host

/-!
# Secrets in files

A tool that reads only one passphrase from its standard input gets a second one
by path. The file is readable by its owner alone, and it is overwritten and
removed however the use of it ends.
-/

namespace EmmcVault.Linux.Host

open Text

variable {σ η : Type} (h : Host σ η)

/-- Permission to read and write for the owner and for nobody else. -/
def ownerOnly : Nat := 0o600

/-- Overwrites a file with zeros and removes it, as far as the system lets. -/
def shred (path : Path) (s : σ) : σ :=
  let scrubbed := match h.fileLength s path with
    | some length => settled (h.writeFile path (List.replicate length 0)) s
    | none => s
  settled (h.removeFile path) scrubbed

/-- Runs `body` on the path of a new file that holds the secret. -/
def withSecret {α : Type} (secret : Bytes) (body : Path → SystemTask σ α) :
    SystemTask σ α := fun s =>
  let path := h.temporaryPath s
  match h.createFile path ownerOnly s with
  | .error e s => .error (.io e) s
  | .ok _ s =>
    match (do (h.writeFile path secret).adaptExcept SystemError.io; body path) s with
    | .ok a s => .ok a (h.shred path s)
    | .error e s => .error e (h.shred path s)

end EmmcVault.Linux.Host
