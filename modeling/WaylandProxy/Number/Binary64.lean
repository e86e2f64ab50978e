/-
# Number.Binary64 -- exact decimal text of binary64 numbers

A finite binary64 number is a whole number of units `2 ^ q`.  `nearest` finds the
one closest to a fraction, a half going to the even neighbour; `read?` applies it
to a decimal text, so that reading rounds once and correctly.

`shortest` goes the other way.  The reals that round to a number form an interval
around it, its ends included when the number's unit count is even.  For one, two,
… seventeen digits the two neighbours of the number on that decimal grid are
tested against the interval; the first grid with a hit wins, and of two hits the
nearer.  `render` writes these digits out without an exponent.
-/

namespace WaylandProxy.Number.Binary64

set_option autoImplicit false

def signBit : UInt64 := 0x8000000000000000

def infinityBits : Nat := 0x7FF0000000000000

/-- The leading bit of a count of units, which is not written down. -/
def hiddenBit : Nat := 0x10000000000000

/-- The least exponent of two a unit can have. -/
def leastExponent : Int := -1074

/-- The fraction `num / den` over `2 ^ e`, as a fraction of naturals. -/
def scaled (num den : Nat) (e : Int) : Nat × Nat :=
  if 0 ≤ e then (num, den * Nat.pow 2 e.toNat) else (num * Nat.pow 2 (-e).toNat, den)

/-- `num / den` rounded to a whole number, a half to the even neighbour. -/
def roundHalfEven (num den : Nat) : Nat :=
  let floor := num / den
  let rest := num % den
  if 2 * rest < den then floor
  else if den < 2 * rest then floor + 1
  else if floor % 2 = 0 then floor else floor + 1

/-- The bits of the binary64 number nearest to `num / den`, for `den` positive. -/
def nearest (num den : Nat) : UInt64 :=
  if num = 0 then 0
  else
    let guess : Int := (num.log2 : Int) - (den.log2 : Int) - 52
    let (a, b) := scaled num den guess
    -- the quotient at `guess` has 52, 53 or 54 bits
    let e := if a < b * hiddenBit then guess - 1 else guess
    let e := max e leastExponent
    let (a, b) := scaled num den e
    let bits : Nat := (e - leastExponent).toNat * hiddenBit + roundHalfEven a b
    if bits < infinityBits then UInt64.ofNat bits else UInt64.ofNat infinityBits

/-- The number with this sign and magnitude. -/
def ofBits (negative : Bool) (bits : UInt64) : Float :=
  Float.ofBits (if negative then bits ||| signBit else bits)

/-- The number nearest to `digits · 10 ^ exponent`.  Beyond the widest exponents
of the format the power of ten is not built. -/
def ofDecimal (negative : Bool) (digits : List Nat) (exponent : Int) : Float :=
  let significant := digits.dropWhile (· = 0)
  let mantissa := significant.foldl (fun (value d : Nat) => value * 10 + d) 0
  let size : Int := (significant.length : Int) + exponent
  if significant.isEmpty || size < -400 then ofBits negative 0
  else if 400 < size then ofBits negative (UInt64.ofNat infinityBits)
  else if 0 ≤ exponent then ofBits negative (nearest (mantissa * Nat.pow 10 exponent.toNat) 1)
  else ofBits negative (nearest mantissa (Nat.pow 10 (-exponent).toNat))

/-- The digits at the front of a text, as values, and what follows them. -/
def takeDigits (s : List Char) : List Nat × List Char :=
  ((s.takeWhile Char.isDigit).map fun c => c.toNat - 48, s.dropWhile Char.isDigit)

/-- The exponent after the mark: an optional sign and at least one digit. -/
def readExponent? (s : List Char) : Option Int :=
  let (negative, rest) := match s with
    | '-' :: rest => (true, rest)
    | '+' :: rest => (false, rest)
    | rest => (false, rest)
  match takeDigits rest with
  | ([], _) => none
  | (digits, []) =>
    let size : Nat := digits.foldl (fun value d => value * 10 + d) 0
    some (if negative then -(size : Int) else (size : Int))
  | _ => none

/-- A decimal without sign: digits with at most one point among them and an
optional exponent. -/
def readDecimal? (negative : Bool) (s : List Char) : Option Float :=
  let (whole, rest) := takeDigits s
  let (fraction, rest) := match rest with
    | '.' :: rest => takeDigits rest
    | rest => ([], rest)
  if whole.isEmpty && fraction.isEmpty then none
  else
    let value (exponent : Int) :=
      ofDecimal negative (whole ++ fraction) (exponent - (fraction.length : Int))
    match rest with
    | [] => some (value 0)
    | c :: rest => if c = 'e' || c = 'E' then (readExponent? rest).map value else none

/-- The names of the values that have no digits, in any case. -/
def readName? (negative : Bool) (s : List Char) : Option Float :=
  let name := String.ofList (s.map Char.toLower)
  if name = "inf" || name = "infinity" then
    some (ofBits negative (UInt64.ofNat infinityBits))
  else if name = "nan" then some (ofBits negative 0x7FF8000000000000)
  else none

/-- The number a text stands for: an optional sign, then a decimal or a name. -/
def read? (s : String) : Option Float :=
  let (negative, rest) := match s.toList with
    | '-' :: rest => (true, rest)
    | '+' :: rest => (false, rest)
    | rest => (false, rest)
  match readDecimal? negative rest with
  | some value => some value
  | none => readName? negative rest

/-- A positive finite number as a count of units and the unit's exponent of two. -/
def decode (bits : UInt64) : Nat × Int :=
  let fraction : Nat := bits.toNat % hiddenBit
  let exponent : Nat := bits.toNat / hiddenBit % 2048
  if exponent = 0 then (fraction, leastExponent)
  else (fraction + hiddenBit, leastExponent + (exponent : Int) - 1)

/-- `a / b ≤ c / d` for positive denominators. -/
def leFrac (x y : Nat × Nat) : Bool :=
  x.1 * y.2 ≤ y.1 * x.2

/-- `a / b < c / d` for positive denominators. -/
def ltFrac (x y : Nat × Nat) : Bool :=
  x.1 * y.2 < y.1 * x.2

/-- `count · 10 ^ k` as a fraction. -/
def tens (count : Nat) (k : Int) : Nat × Nat :=
  if 0 ≤ k then (count * Nat.pow 10 k.toNat, 1) else (count, Nat.pow 10 (-k).toNat)

/-- `count · 2 ^ k` as a fraction. -/
def twos (count : Nat) (k : Int) : Nat × Nat :=
  if 0 ≤ k then (count * Nat.pow 2 k.toNat, 1) else (count, Nat.pow 2 (-k).toNat)

/-- The decimal order of a positive fraction: the `p` with `10 ^ p ≤ x < 10 ^ (p + 1)`. -/
def order (x : Nat × Nat) : Int :=
  let guess : Int := ((Nat.toDigits 10 x.1).length : Int) - (Nat.toDigits 10 x.2).length
  if leFrac (tens 1 guess) x then guess else guess - 1

/-- The reals that round to a number: both ends, and whether they belong to it. -/
structure Interval where
  low : Nat × Nat
  high : Nat × Nat
  closed : Bool

/-- The interval of the number with `count` units `2 ^ q`.  Below a power of two
the numbers lie half as far apart. -/
def interval (count : Nat) (q : Int) : Interval where
  low := if count = hiddenBit ∧ leastExponent < q then twos (4 * count - 1) (q - 2)
    else twos (2 * count - 1) (q - 1)
  high := twos (2 * count + 1) (q - 1)
  closed := count % 2 = 0

/-- A fraction that rounds to the interval's number. -/
def Interval.holds (i : Interval) (x : Nat × Nat) : Bool :=
  if i.closed then leFrac i.low x && leFrac x i.high else ltFrac i.low x && ltFrac x i.high

/-- The digits of a neighbour of `x` on the grid of multiples of `10 ^ k` that
rounds to the interval's number: the nearer of the two, the upper one if both are
as near. -/
def onGrid? (i : Interval) (x : Nat × Nat) (k : Int) : Option Nat :=
  let unit := tens 1 k
  -- `x` in units of the grid is `num / den`
  let num := x.1 * unit.2
  let den := x.2 * unit.1
  let below := num / den
  let lower := i.holds (tens below k)
  let upper := i.holds (tens (below + 1) k)
  if lower && upper then
    some (if 2 * (num % den) < den then below else below + 1)
  else if lower then some below
  else if upper then some (below + 1)
  else none

/-- The first of the grids from `10 ^ k` down with a hit, within `fuel` grids. -/
def firstGrid (i : Interval) (x : Nat × Nat) : Nat → Int → Nat × Int
  | 0, k => (x.1 * (tens 1 (-k)).1 / (x.2 * (tens 1 (-k)).2), k)
  | fuel + 1, k =>
    match onGrid? i x k with
    | some digits => (digits, k)
    | none => firstGrid i x fuel (k - 1)

/-- The fewest digits that read back as the number with these bits, and the power
of ten of the last of them. -/
def shortest (bits : UInt64) : Nat × Int :=
  let (count, q) := decode bits
  let x := twos count q
  firstGrid (interval count q) x 17 (order x)

/-- `digits · 10 ^ k` written out in full, without a point where there is no
fraction. -/
def positional (digits : Nat) (k : Int) : String :=
  let text := Nat.toDigits 10 digits
  if 0 ≤ k then String.ofList (text ++ List.replicate k.toNat '0')
  else
    let places := (-k).toNat
    let padded := List.replicate (places + 1 - text.length) '0' ++ text
    let whole := padded.take (padded.length - places)
    let fraction := padded.drop (padded.length - places)
    let fraction := (fraction.reverse.dropWhile (· = '0')).reverse
    if fraction.isEmpty then String.ofList whole
    else String.ofList (whole ++ '.' :: fraction)

/-- A number as text: the fewest digits that read back, never an exponent. -/
def render (x : Float) : String :=
  let bits := x.toBits
  let magnitude := bits &&& ~~~signBit
  let sign := if bits &&& signBit = 0 then "" else "-"
  if magnitude.toNat = infinityBits then sign ++ "inf"
  else if infinityBits < magnitude.toNat then "NaN"
  else if magnitude = 0 then sign ++ "0"
  else
    let (digits, k) := shortest magnitude
    sign ++ positional digits k

end WaylandProxy.Number.Binary64
