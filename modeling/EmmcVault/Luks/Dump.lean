import EmmcVault.Luks
import EmmcVault.Text.Decimal
import EmmcVault.Text.Lines

/-!
# Header dumps

Reading the format and the active keyslots out of the text that the
`cryptsetup` tool prints for a header. The older format has a line
`Key Slot N: ENABLED` for each active slot; the newer one lists its slots under
the heading `Keyslots:`, indented. Entries under other headings do not count.
-/

namespace EmmcVault

open Text

structure LuksDump where
  version : LuksVersion
  /-- The active slots in ascending order. -/
  activeSlots : List UInt32
deriving DecidableEq, Repr

namespace LuksDump

def status (d : LuksDump) (slot : UInt32) : KeySlotStatus :=
  if d.version.maxKeyslots ≤ slot then .invalid
  else if slot ∉ d.activeSlots then .inactive
  else if d.activeSlots.length = 1 then .activeLast
  else .active

/-- An ascending list with one more member. -/
def insertSlot (slot : UInt32) : List UInt32 → List UInt32
  | [] => [slot]
  | s :: rest =>
    if slot < s then slot :: s :: rest
    else if slot = s then s :: rest
    else s :: insertSlot slot rest

theorem mem_insertSlot {slot s : UInt32} {slots : List UInt32} :
    s ∈ insertSlot slot slots ↔ s = slot ∨ s ∈ slots := by
  fun_induction insertSlot slot slots with
  | case1 => simp
  | case2 => simp
  | case3 => simp
  | case4 a rest _ _ ih => simp [ih, or_left_comm]

/-- What the lines so far have said. -/
structure Reading where
  version : Option LuksVersion := none
  underHeading : List Char := []
  activeSlots : List UInt32 := []

namespace Reading

def addSlot (r : Reading) (slot : Option UInt32) : Reading :=
  match slot with
  | some slot => { r with activeSlots := insertSlot slot r.activeSlots }
  | none => r

/-- The format a version number names. -/
def versionOf? (value : List Char) : Option LuksVersion :=
  if value = ['1'] then some .luks1
  else if value = ['2'] then some .luks2
  else none

/-- A line that is not indented: the version, a slot of the older format, or
the heading of a section. A line without a colon at its end leaves the section
before it and names none. -/
def heading (r : Reading) (line : List Char) : Reading :=
  match after? "Version:".toList line with
  | some value => { r with version := versionOf? (trim value) }
  | none =>
    match (after? "Key Slot ".toList line).bind (splitOnce ':') with
    | some (slot, state) =>
      if trim state = "ENABLED".toList then r.addSlot (Decimal.parseUInt32? (trim slot)) else r
    | none => { r with underHeading := (before? ':' line).getD [] }

/-- An indented line: a slot, if it stands in the right section and begins
with a number and a colon. -/
def entry (r : Reading) (line : List Char) : Reading :=
  if r.underHeading = "Keyslots".toList then
    match splitOnce ':' line with
    | some (slot, _) => r.addSlot (Decimal.parseUInt32? slot)
    | none => r
  else r

def line (r : Reading) (written : List Char) : Reading :=
  match written with
  | [] => r
  | c :: _ =>
    if (trim written).isEmpty then r
    else if isBlank c then r.entry (trim written)
    else r.heading (trim written)

end Reading

/-- Reads a dump; one without a version line that is understood is refused. -/
def parse? (text : String) : Option LuksDump :=
  let reading := (lines text.toList).foldl Reading.line {}
  reading.version.map fun version => ⟨version, reading.activeSlots⟩

end LuksDump

/-- The slot in the first line `Key slot N VERB.` with the given verb. -/
def reportedSlot? (verb : String) (texts : List String) : Option UInt32 :=
  (texts.flatMap fun text => lines text.toList).findSome? fun line => do
    let rest ← after? "Key slot ".toList (trim line)
    let (slot, tail) ← splitOnce ' ' rest
    if dropEndWhile (· == '.') tail = verb.toList then Decimal.parseUInt32? slot else none

end EmmcVault
