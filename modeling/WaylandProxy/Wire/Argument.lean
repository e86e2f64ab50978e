/-
# Wire.Argument -- typed arguments and the words that carry them

An argument is a number, an object, a text or bytes.  Numbers and objects take one
word.  A text is its length in bytes with the null that ends it, then those bytes
padded to whole words; bytes are their length and the padded bytes.

`Message.build` puts arguments behind a header, as long as the length field can
count them.  `Reader` takes arguments off the front of a list of words: a read that
finds too few words answers nothing, and reading a text answers nothing for bytes
that are no UTF-8.  The length word of a text is consumed whatever follows it.
-/
import WaylandProxy.Text.Utf8
import WaylandProxy.Wire.Fixed
import WaylandProxy.Wire.Message

namespace WaylandProxy

set_option autoImplicit false

inductive Argument where
  | uint (value : UInt32)
  | int (value : Int32)
  | fixed (value : Fixed)
  | object (id : UInt32)
  | newId (id : UInt32)
  | string (text : String)
  | array (bytes : List UInt8)
  deriving DecidableEq, Repr

namespace Argument

/-- Bytes as words, the last one padded with zeros. -/
def paddedWords : List UInt8 → List UInt32
  | [] => []
  | [a] => [Message.wordOfBytes a 0 0 0]
  | [a, b] => [Message.wordOfBytes a b 0 0]
  | [a, b, c] => [Message.wordOfBytes a b c 0]
  | a :: b :: c :: d :: rest => Message.wordOfBytes a b c d :: paddedWords rest

/-- A length and that many bytes. -/
def counted (bytes : List UInt8) : List UInt32 :=
  UInt32.ofNat bytes.length :: paddedWords bytes

def toWords : Argument → List UInt32
  | .uint value => [value]
  | .int value => [value.toUInt32]
  | .fixed value => [value.toWord]
  | .object id => [id]
  | .newId id => [id]
  | .string text => counted (Text.Utf8.encode text ++ [0])
  | .array bytes => counted bytes

end Argument

namespace Message

/-- The largest byte length that the length field holds. -/
def largestLength : Nat := 65535

/-- A message from its object, opcode and arguments, with the length filled in. -/
def build (direction : Direction) (connection : Connection) (object : UInt32) (opcode : UInt16)
    (arguments : List Argument) : Except Fault Message :=
  let args := arguments.flatMap Argument.toWords
  let size := headerBytes + args.length * 4
  if largestLength < size then .error (Flaw.oversized size).fault
  else
    .ok ⟨direction, connection, object :: (UInt32.ofNat size <<< 16 ||| opcode.toUInt32) :: args⟩

end Message

/-- The arguments not yet read, and how many words have been. -/
structure Reader where
  rest : List UInt32
  position : Nat
  deriving DecidableEq, Repr

namespace Reader

def ofArgs (args : List UInt32) : Reader :=
  ⟨args, 0⟩

def skip (r : Reader) (count : Nat) : Reader :=
  ⟨r.rest.drop count, r.position + count⟩

def uint (r : Reader) : Option UInt32 × Reader :=
  match r.rest with
  | [] => (none, r)
  | word :: _ => (some word, r.skip 1)

/-- The next word as a signed number. -/
def int (r : Reader) : Option Int32 × Reader :=
  let (word, r) := r.uint
  (word.map UInt32.toInt32, r)

/-- Bytes without the null that ends them. -/
def dropNull (bytes : List UInt8) : List UInt8 :=
  if bytes.getLast? = some 0 then bytes.dropLast else bytes

def string (r : Reader) : Option String × Reader :=
  match r.uint with
  | (none, r) => (none, r)
  | (some length, r) =>
    let length := length.toNat
    if length = 0 then (some "", r)
    else
      let count := (length + 3) / 4
      if r.rest.length < count then (none, r)
      else
        let bytes := ((r.rest.take count).flatMap Message.wordBytes).take length
        (Text.Utf8.decode? (dropNull bytes), r.skip count)

end Reader

end WaylandProxy
