/-!
# Sizes for people

A byte count in the largest unit that keeps it above one, with two places. The
count is first rounded to the 53 significant bits a measured quantity keeps;
the two places round to nearest, a tie to the even neighbour.
-/

namespace EmmcVault.Size

/-- `n / d` to the nearest whole number, a tie to the even one. -/
def divRound (n d : Nat) : Nat :=
  let q := n / d
  let twice := 2 * (n % d)
  if twice < d then q
  else if d < twice then q + 1
  else q + q % 2

/-- `n` with at most `bits` significant bits. -/
def roundTo (bits n : Nat) : Nat :=
  let unit := 1 <<< (n.log2 + 1 - bits)
  divRound n unit * unit

/-- The units above the byte, each 1024 of the one before. -/
def units : List String := ["KB", "MB", "GB", "TB", "PB", "EB"]

/-- `n / unit` with two places. -/
def inUnit (n unit : Nat) (name : String) : String :=
  let hundredths := divRound (100 * n) unit
  let places := hundredths % 100
  s!"{hundredths / 100}.{places / 10}{places % 10} {name}"

/-- `n` in the first of the units that brings it to 1024 or less, or in the
last. -/
def scaled (n unit : Nat) (name : String) : List String → String
  | [] => inUnit n unit name
  | next :: larger =>
    if 1024 * unit < n then scaled n (1024 * unit) next larger else inUnit n unit name

def pretty (bytes : UInt64) : String :=
  scaled (roundTo 53 bytes.toNat) 1 "B" units

example : pretty 1610612736 = "1.50 GB" := by decide +kernel
example : pretty 512 = "512.00 B" := by decide +kernel
example : pretty 1024 = "1024.00 B" := by decide +kernel

end EmmcVault.Size
