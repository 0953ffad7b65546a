import EmmcVault.Volume.Managed

/-!
# Operations on a volume

The operations as data, so that runs of them are lists, and what running them
leads to.
-/

namespace EmmcVault

open Text

inductive Operation where
  | format (password : Bytes) (fsType : FilesystemType)
  | unlock (password : Bytes)
  | lock
  | changePassword (old new : Bytes)
  | erase (request : EraseRequest)
  | enableBkops
  | refresh
deriving DecidableEq

namespace Operation

inductive Answer where
  | done
  | erased (report : EraseReport)
  | bkops (outcome : Volume.BkopsOutcome)
  | measured (metadata : VolumeMetadata)
deriving DecidableEq, Repr

open Managed

/-- The steps of an operation. Those that do not open, close or measure the
volume only read it. -/
def task {σ η : Type} (b : Backends σ η) : Operation → Task σ Answer
  | format password fsType => do
    Managed.format b password fsType
    return .done
  | unlock password => do
    Managed.unlock b password
    return .done
  | lock => do
    Managed.lock b
    return .done
  | changePassword old new => do
    reading (·.changePassword b old new)
    return .done
  | erase request => do return .erased (← reading (·.erase b request))
  | enableBkops => do return .bkops (← reading (·.enableBkops b))
  | refresh => do return .measured (← Managed.refresh b)

end Operation

/-- Runs an operation. The volume and the world are as its steps left them,
whether or not they all succeeded. -/
def Managed.perform {σ η : Type} (m : Managed σ) (b : Backends σ η) (operation : Operation) :
    Except Failure Operation.Answer × Managed σ :=
  match operation.task b m with
  | .ok answer m => (.ok answer, m)
  | .error failure m => (.error failure, m)

/-- Runs some operations one after the other. -/
def Managed.performAll {σ η : Type} (m : Managed σ) (b : Backends σ η) :
    List Operation → List (Except Failure Operation.Answer) × Managed σ
  | [] => ([], m)
  | operation :: rest =>
    let (outcome, m) := m.perform b operation
    let (outcomes, m) := m.performAll b rest
    (outcome :: outcomes, m)

end EmmcVault
