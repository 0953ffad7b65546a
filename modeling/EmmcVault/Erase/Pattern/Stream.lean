/-!
# The overwrite pattern

A reproducible stream of octets that does not compress. A Park–Miller
generator with 31-bit states supplies draws; three draws make a 64-bit word, of
21, 21 and 22 bits; words are handed out least significant octet first. The
stream depends on the seed and on the number of octets taken, not on how many
are taken at a time.
-/

namespace EmmcVault.Pattern

/-- The minimal standard generator. Its states lie between 1 and
`modulus - 1`. -/
structure Engine where
  state : UInt32
deriving DecidableEq, Repr

namespace Engine

def modulus : UInt32 := 2147483647

def multiplier : UInt64 := 16807

/-- The seed is reduced; zero, from which no other state is reached, gives
way to one. -/
def ofSeed (seed : UInt32) : Engine :=
  let state := seed % modulus
  ⟨if state = 0 then 1 else state⟩

def next (e : Engine) : Engine :=
  ⟨(e.state.toUInt64 * multiplier % modulus.toUInt64).toUInt32⟩

/-- The number a state stands for, counted from zero. -/
def draw (e : Engine) : UInt64 :=
  (e.state - 1).toUInt64

/-- How many different draws there are. -/
def range : UInt64 := 2147483646

/-- The largest multiple of `2 ^ bits` within the range. Draws from here on
are rejected, so that all values of `bits` bits are equally likely. -/
def limit (bits : UInt64) : UInt64 :=
  range / (1 <<< bits) * (1 <<< bits)

/-- The first of the next `fuel` states whose draw is below `bound`. -/
def nextBelow? (bound : UInt64) : (fuel : Nat) → Engine → Option Engine
  | 0, _ => none
  | fuel + 1, e => if e.next.draw < bound then some e.next else nextBelow? bound fuel e.next

/-- As many states as a search for an accepted draw looks at. The generator
runs through all its states before it repeats one, so a search never comes to
this end. -/
def searchLimit : Nat := 2147483647

def chunk (bits : UInt64) (e : Engine) : UInt64 × Engine :=
  let e := (nextBelow? (limit bits) searchLimit e).getD e
  (e.draw &&& ((1 <<< bits) - 1), e)

def word (e : Engine) : UInt64 × Engine :=
  let (high, e) := e.chunk 21
  let (middle, e) := e.chunk 21
  let (low, e) := e.chunk 22
  (((high <<< 21) ||| middle) <<< 22 ||| low, e)

end Engine

/-- The octets of a word, least significant first. -/
def octets (w : UInt64) : List UInt8 :=
  [w.toUInt8, (w >>> 8).toUInt8, (w >>> 16).toUInt8, (w >>> 24).toUInt8,
    (w >>> 32).toUInt8, (w >>> 40).toUInt8, (w >>> 48).toUInt8, (w >>> 56).toUInt8]

end EmmcVault.Pattern

namespace EmmcVault

structure PatternStream where
  engine : Pattern.Engine
  /-- What is left of the word begun last. -/
  pending : List UInt8 := []
deriving DecidableEq, Repr

namespace PatternStream

def ofSeed (seed : UInt32) : PatternStream :=
  ⟨Pattern.Engine.ofSeed seed, []⟩

/-- Draws a whole word; octets left of an earlier word stay in place. -/
def nextWord (s : PatternStream) : UInt64 × PatternStream :=
  let (w, engine) := s.engine.word
  (w, { s with engine })

/-- A stream with an octet to give, beginning a word where none is left. -/
def refill (s : PatternStream) : PatternStream :=
  if s.pending.isEmpty then
    let (w, engine) := s.engine.word
    ⟨engine, Pattern.octets w⟩
  else s

def nextOctet (s : PatternStream) : UInt8 × PatternStream :=
  let s := s.refill
  (s.pending.headD 0, { s with pending := s.pending.tail })

/-- The next `n` octets, after those in `taken`. -/
def fillOnto (taken : ByteArray) : Nat → PatternStream → ByteArray × PatternStream
  | 0, s => (taken, s)
  | n + 1, s =>
    let (b, s) := s.nextOctet
    fillOnto (taken.push b) n s

def fill (n : Nat) (s : PatternStream) : ByteArray × PatternStream :=
  fillOnto (ByteArray.emptyWithCapacity n) n s

end PatternStream

end EmmcVault
