import EmmcVault.Size

/-!
# Device geometry

The capacity a device must have before it is erased: an inclusive range, and
the comparison of a measured size with it.
-/

namespace EmmcVault

structure GeometryBounds where
  minBytes : UInt64
  maxBytes : UInt64
deriving DecidableEq, Repr

namespace GeometryBounds

/-- Bounds are usable when some size lies within them. -/
def isValid (b : GeometryBounds) : Bool :=
  b.minBytes ≤ b.maxBytes

def contains (b : GeometryBounds) (bytes : UInt64) : Bool :=
  b.minBytes ≤ bytes && bytes ≤ b.maxBytes

end GeometryBounds

/-- How a size compares with the bounds. -/
inductive GeometryCheck where
  | ok
  | tooSmall
  | tooLarge
deriving DecidableEq, Repr

def GeometryCheck.name : GeometryCheck → String
  | ok => "ok"
  | tooSmall => "too_small"
  | tooLarge => "too_large"

/-- The lower bound is looked at first. -/
def GeometryBounds.check (b : GeometryBounds) (bytes : UInt64) : GeometryCheck :=
  if bytes < b.minBytes then .tooSmall
  else if b.maxBytes < bytes then .tooLarge
  else .ok

end EmmcVault
