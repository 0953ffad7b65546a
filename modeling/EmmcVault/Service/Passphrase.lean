import EmmcVault.Text.Utf8

/-!
# Passphrases on standard input

One passphrase a line, as bytes. The line end is not part of it, whether it is
a line feed alone or comes with carriage returns.
-/

namespace EmmcVault.Service.Passphrase

open Text

def lineFeed : UInt8 := 10

def carriageReturn : UInt8 := 13

/-- The first line with its line feed, and what follows it. -/
def cutLine : Bytes → Bytes × Bytes
  | [] => ([], [])
  | b :: rest =>
    if b = lineFeed then ([b], rest)
    else let (line, rest) := cutLine rest; (b :: line, rest)

/-- A line without its line end. -/
def trimEnd (line : Bytes) : Bytes :=
  (line.reverse.dropWhile fun b => b == lineFeed || b == carriageReturn).reverse

/-- The next passphrase and what follows its line; an empty one is refused. -/
def next? (input : Bytes) : Option (Bytes × Bytes) :=
  let (line, rest) := cutLine input
  let passphrase := trimEnd line
  if passphrase.isEmpty then none else some (passphrase, rest)

end EmmcVault.Service.Passphrase
