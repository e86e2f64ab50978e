/-
# Text.Hex -- bytes as pairs of hexadecimal digits

`encode` writes each byte as two lower-case digits, high half first.  `decode`
reads digits of either case and refuses a text of odd length before it looks at
any digit, then names the first byte that is not a digit.
-/

namespace WaylandProxy.Text.Hex

set_option autoImplicit false

/-- Why a text is not the hexadecimal form of some bytes. -/
inductive Flaw where
  /-- The text has an odd number of bytes. -/
  | oddLength
  /-- The byte at this position is no digit. -/
  | notDigit (byte : UInt8) (position : Nat)
  deriving DecidableEq, Repr

/-- The lower-case digit of a value below sixteen. -/
def digit (value : UInt8) : Char :=
  if value < 10 then Char.ofNat (48 + value.toNat) else Char.ofNat (87 + value.toNat)

/-- The value of a hexadecimal digit, given as an ASCII byte. -/
def value? (byte : UInt8) : Option UInt8 :=
  if 48 ≤ byte && byte ≤ 57 then some (byte - 48)
  else if 97 ≤ byte && byte ≤ 102 then some (byte - 87)
  else if 65 ≤ byte && byte ≤ 70 then some (byte - 55)
  else none

/-- Two lower-case digits for each byte. -/
def encodeChars (bytes : List UInt8) : List Char :=
  bytes.flatMap fun (byte : UInt8) => [digit (byte >>> 4), digit (byte &&& 0xF)]

def encode (bytes : List UInt8) : String :=
  String.ofList (encodeChars bytes)

/-- Eight digits of a word, most significant first. -/
def encodeWord (word : UInt32) : String :=
  encode [(word >>> 24).toUInt8, (word >>> 16).toUInt8, (word >>> 8).toUInt8, word.toUInt8]

/-- Each two digit values as one byte. -/
def joinPairs : List UInt8 → List UInt8
  | high :: low :: rest => (high <<< 4 ||| low) :: joinPairs rest
  | _ => []

/-- The bytes that a text of digits, given as UTF-8, stands for. -/
def decode (digits : List UInt8) : Except Flaw (List UInt8) :=
  if digits.length % 2 = 1 then .error .oddLength
  else do
    let values ← digits.zipIdx.mapM fun (byte, position) =>
      match value? byte with
      | some value => Except.ok value
      | none => .error (.notDigit byte position)
    return joinPairs values

end WaylandProxy.Text.Hex
