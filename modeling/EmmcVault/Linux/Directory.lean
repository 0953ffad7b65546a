import EmmcVault.Linux.Host

/-!
# Making directories

A directory is made with those above it that are missing. One that is there
already is no failure.
-/

namespace EmmcVault

namespace Path

/-- The paths of a directory and of those above it, from the longest to the
shortest; neither the root nor the directory that relative paths start from is
among them. -/
def ancestors (p : Path) : List Path :=
  match p.key.parts with
  | [] => []
  | _ :: above =>
    p :: (List.range above.length).reverse.map fun n =>
      Key.path { p.key with parts := p.key.parts.take (n + 1) }

example : (ofString "/a/b").ancestors = [ofString "/a/b", ofString "/a"] := by decide
example : (ofString "a//b").ancestors = [ofString "a//b", ofString "a"] := by decide

end Path

namespace Linux.Host

variable {σ η : Type} (h : Host σ η)

def ensureDirectory (p : Path) : SystemCall σ Unit := fun s =>
  match h.makeDirectory p s with
  | .ok _ s => .ok () s
  | .error e s => if h.isDirectory s p then .ok () s else .error e s

/-- Makes the first of some directories, each of which lies in the next. Those
above it are only touched if it cannot be made without them. -/
def makeFirst : List Path → SystemCall σ Unit
  | [] => pure ()
  | p :: above => fun s =>
    match h.ensureDirectory p s with
    | .ok _ s => .ok () s
    | .error e s =>
      if e.isNotFound then (do makeFirst above; h.ensureDirectory p) s else .error e s

def makeDirectories (p : Path) : SystemCall σ Unit :=
  h.makeFirst p.ancestors

end Linux.Host

end EmmcVault
