/-
# Wire.Message -- one message and its bytes

A message is a list of 32-bit words.  Word 0 names the object it addresses, word 1
holds the byte length in its upper half and the opcode in its lower half, and the
rest are arguments.  The direction and the connection are fixed when the message
comes in; only words can be replaced, one at a time (`setWord`).

`flaw?` says what keeps the words from being a message of the wire format; a
message without flaw has a header and a length field that counts its own bytes
(`flaw?_eq_none_iff`).  On the wire each word is four bytes, least significant
first: `toBytes` writes them and `decode` reads exactly the byte strings whose
message has no flaw.
-/
import WaylandProxy.Fault

namespace WaylandProxy

set_option autoImplicit false

/-- Which peer a message comes from. -/
inductive Direction where
  | fromServer
  | fromClient
  deriving DecidableEq, Repr

namespace Direction

def name : Direction → String
  | .fromServer => "server"
  | .fromClient => "client"

/-- The letter that stands for the peer in a capture. -/
def tag : Direction → Char
  | .fromServer => 'S'
  | .fromClient => 'C'

end Direction

/-- The proxied connection a message belongs to, with the client's program name
when that is known. -/
structure Connection where
  id : UInt64
  program : Option String
  deriving DecidableEq, Repr

structure Message where
  direction : Direction
  connection : Connection
  words : List UInt32
  deriving DecidableEq, Repr

namespace Message

/-- Why words or bytes are not a message, or a word cannot be reached. -/
inductive Flaw where
  /-- There is no whole header in this many bytes. -/
  | short (bytes : Nat)
  /-- This many bytes are no whole number of words. -/
  | misaligned (bytes : Nat)
  /-- The length field claims `declared` bytes of `actual`. -/
  | length (declared actual : Nat)
  /-- There is no word at this position. -/
  | index (position count : Nat)
  /-- This many bytes cannot be written into the length field. -/
  | oversized (bytes : Nat)
  deriving DecidableEq, Repr

namespace Flaw

def text : Flaw → String
  | .short bytes => "message too short: " ++ toString bytes ++ " bytes"
  | .misaligned bytes => "message length " ++ toString bytes ++ " is not word aligned"
  | .length declared actual =>
    "size field " ++ toString declared ++ " does not match payload length " ++ toString actual
  | .index position count =>
    "word index " ++ toString position ++ " out of bounds (len " ++ toString count ++ ")"
  | .oversized bytes => "message of " ++ toString bytes ++ " bytes does not fit the size field"

def fault (flaw : Flaw) : Fault :=
  .format flaw.text

end Flaw

/-- The bytes of the header: the object and the length with the opcode. -/
def headerBytes : Nat := 8

def firstArgument : Nat := 2

def object (m : Message) : UInt32 :=
  m.words[0]?.getD 0

/-- The word with the length and the opcode. -/
def header (m : Message) : UInt32 :=
  m.words[1]?.getD 0

/-- The request or event that the message is, among those of its object. -/
def opcode (m : Message) : UInt16 :=
  m.header.toUInt16

/-- The byte length that the header claims. -/
def declaredLength (m : Message) : Nat :=
  (m.header >>> 16).toNat

/-- The byte length of the words at hand. -/
def byteLength (m : Message) : Nat :=
  m.words.length * 4

/-- Everything after the header. -/
def args (m : Message) : List UInt32 :=
  m.words.drop firstArgument

def word? (m : Message) (index : Nat) : Option UInt32 :=
  m.words[index]?

/-- The message with another value at an index it has. -/
def setWord (m : Message) (index : Nat) (value : UInt32) : Except Fault Message :=
  if index < m.words.length then .ok { m with words := m.words.set index value }
  else .error (Flaw.index index m.words.length).fault

/-- What keeps the words from being a message of the wire format. -/
def flaw? (m : Message) : Option Flaw :=
  if m.words.length < firstArgument then some (.short m.byteLength)
  else if m.declaredLength ≠ m.byteLength then some (.length m.declaredLength m.byteLength)
  else none

theorem flaw?_eq_none_iff (m : Message) :
    m.flaw? = none ↔ 2 ≤ m.words.length ∧ m.declaredLength = m.byteLength := by
  unfold flaw? firstArgument
  split
  · rename_i short
    exact ⟨fun h => (Option.some_ne_none _ h).elim, fun h => absurd short (Nat.not_lt.2 h.1)⟩
  · rename_i whole
    split
    · rename_i differs
      exact ⟨fun h => (Option.some_ne_none _ h).elim, fun h => absurd h.2 differs⟩
    · rename_i same
      exact ⟨fun _ => ⟨Nat.not_lt.1 whole, Decidable.not_not.1 same⟩, fun _ => rfl⟩

/-- The four bytes of a word, least significant first. -/
def wordBytes (w : UInt32) : List UInt8 :=
  [w.toUInt8, (w >>> 8).toUInt8, (w >>> 16).toUInt8, (w >>> 24).toUInt8]

def wordOfBytes (a b c d : UInt8) : UInt32 :=
  a.toUInt32 ||| b.toUInt32 <<< 8 ||| c.toUInt32 <<< 16 ||| d.toUInt32 <<< 24

/-- Each four bytes as a word; fewer than four at the end are left out. -/
def wordsOfBytes : List UInt8 → List UInt32
  | a :: b :: c :: d :: rest => wordOfBytes a b c d :: wordsOfBytes rest
  | _ => []

def toBytes (m : Message) : List UInt8 :=
  m.words.flatMap wordBytes

def decode (direction : Direction) (connection : Connection) (bytes : List UInt8) :
    Except Fault Message :=
  if bytes.length < headerBytes then .error (Flaw.short bytes.length).fault
  else if bytes.length % 4 ≠ 0 then .error (Flaw.misaligned bytes.length).fault
  else
    let m : Message := ⟨direction, connection, wordsOfBytes bytes⟩
    match m.flaw? with
    | some flaw => .error flaw.fault
    | none => .ok m

end Message

end WaylandProxy
