/-
# Random.ChaCha -- a seeded stream of words and the draws from it

The stream is the ChaCha keystream with eight rounds, a 64-bit block counter from zero
and no nonce, as 32-bit words in order.  A seed of 64 bits is stretched to the key by a
linear congruential generator whose states are permuted to 32 bits each.

A number of a closed range is drawn without bias: a word times the size of the range has
the draw in its upper half, and words whose lower half exceeds the zone, the largest
multiple of the size that is left after shifting it up, are thrown away.  A fraction is
the upper 53 bits of a 64-bit word.

The number of words thrown away in a row has no bound; `attempts` of them, each no more
likely than not, are followed by a draw from whatever word comes next.  That draw is in
the range too.
-/
import WaylandProxy.Random.Draws

namespace WaylandProxy

set_option autoImplicit false

namespace ChaCha

/-- Sixteen words: constants, key, counter and nonce. -/
abbrev Block := Vector UInt32 16

/-- `x` turned left by `n` bits. -/
def rotateLeft (x : UInt32) (n : UInt32) : UInt32 :=
  x <<< n ||| x >>> (32 - n)

def rotateRight (x : UInt32) (n : UInt32) : UInt32 :=
  x >>> n ||| x <<< ((32 - n) % 32)

def quarter (s : Block) (a b c d : Fin 16) : Block :=
  let s := s.set a (s.get a + s.get b)
  let s := s.set d (rotateLeft (s.get d ^^^ s.get a) 16)
  let s := s.set c (s.get c + s.get d)
  let s := s.set b (rotateLeft (s.get b ^^^ s.get c) 12)
  let s := s.set a (s.get a + s.get b)
  let s := s.set d (rotateLeft (s.get d ^^^ s.get a) 8)
  let s := s.set c (s.get c + s.get d)
  s.set b (rotateLeft (s.get b ^^^ s.get c) 7)

/-- Two rounds: the columns, then the diagonals. -/
def doubleRound (s : Block) : Block :=
  let s := quarter s 0 4 8 12
  let s := quarter s 1 5 9 13
  let s := quarter s 2 6 10 14
  let s := quarter s 3 7 11 15
  let s := quarter s 0 5 10 15
  let s := quarter s 1 6 11 12
  let s := quarter s 2 7 8 13
  quarter s 3 4 9 14

/-- The block that is mixed for a key and a counter. -/
def input (key : Vector UInt32 8) (counter : UInt64) : Block :=
  #v[0x61707865, 0x3320646e, 0x79622d32, 0x6b206574,
    key[0], key[1], key[2], key[3], key[4], key[5], key[6], key[7],
    counter.toUInt32, (counter >>> 32).toUInt32, 0, 0]

def keystream (key : Vector UInt32 8) (counter : UInt64) : List UInt32 :=
  let start := input key counter
  let mixed := doubleRound (doubleRound (doubleRound (doubleRound start)))
  (Vector.zipWith (· + ·) mixed start).toList

end ChaCha

/-- A keystream, as far as it was not used yet. -/
structure ChaCha where
  key : Vector UInt32 8
  /-- The counter of the next block. -/
  counter : UInt64
  /-- The words of the current block that were not used. -/
  rest : List UInt32
  deriving DecidableEq

namespace ChaCha

/-- The next state of the generator that stretches a seed. -/
def stretch (state : UInt64) : UInt64 :=
  state * 6364136223846793005 + 11634580027462260723

def stretched (state : UInt64) : UInt32 :=
  rotateRight ((state >>> 18 ^^^ state) >>> 27).toUInt32 (state >>> 59).toUInt32

def stretches : Nat → UInt64 → List UInt64
  | 0, _ => []
  | n + 1, state => stretch state :: stretches n (stretch state)

def ofSeed (seed : UInt64) : ChaCha where
  key := Vector.ofFn fun i => stretched ((stretches 8 seed)[i.val]?.getD 0)
  counter := 0
  rest := []

def word32 (g : ChaCha) : UInt32 × ChaCha :=
  match g.rest with
  | word :: rest => (word, { g with rest := rest })
  | [] =>
    match keystream g.key g.counter with
    | word :: rest => (word, { g with counter := g.counter + 1, rest := rest })
    | [] => (0, { g with counter := g.counter + 1 })

/-- The next two words as one, the first of them below. -/
def word64 (g : ChaCha) : UInt64 × ChaCha :=
  let (low, g) := g.word32
  let (high, g) := g.word32
  (high.toUInt64 <<< 32 ||| low.toUInt64, g)

/-- How many words are thrown away at most for one draw. -/
def attempts : Nat := 1000

/-- The largest lower half that a draw from `size` values of `bits` bits may have. -/
def zone (bits size : Nat) : Nat :=
  size * Nat.pow 2 (bits - 1 - size.log2) - 1

/-- A number below `size`, from words of `bits` bits. -/
def below {α : Type} (next : ChaCha → α × ChaCha) (value : α → Nat) (bits size : Nat) :
    Nat → ChaCha → Nat × ChaCha
  | 0, g =>
    let (word, g) := next g
    (value word * size / Nat.pow 2 bits, g)
  | fuel + 1, g =>
    let (word, g) := next g
    let product := value word * size
    if product % Nat.pow 2 bits ≤ zone bits size then (product / Nat.pow 2 bits, g)
    else below next value bits size fuel g

def range32 (low high : UInt32) (g : ChaCha) : UInt32 × ChaCha :=
  let size := high - low + 1
  if size = 0 then g.word32
  else
    let (n, g) := below word32 UInt32.toNat 32 size.toNat attempts g
    (low + UInt32.ofNat n, g)

def range64 (low high : UInt64) (g : ChaCha) : UInt64 × ChaCha :=
  let size := high - low + 1
  if size = 0 then g.word64
  else
    let (n, g) := below word64 UInt64.toNat 64 size.toNat attempts g
    (low + UInt64.ofNat n, g)

/-- The upper 53 bits of the next two words, as a fraction of the unit interval. -/
def fraction (g : ChaCha) : Float × ChaCha :=
  let (word, g) := g.word64
  ((word >>> 11).toFloat * Float.ofBits 0x3CA0000000000000, g)

instance : Draws ChaCha where
  fraction := fraction
  range32 := range32
  range64 := range64

end ChaCha

end WaylandProxy
