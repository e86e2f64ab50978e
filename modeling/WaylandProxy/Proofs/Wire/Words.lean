/-
# Proofs.Wire.Words -- what the bytes and the header of a message hold

The bytes of a message give its words back (`wordsOfBytes_toBytes`), so whoever reads what
was written to a peer reads the message that was meant.  A message that was built has the
object, the opcode and the arguments it was built from (`build_spec`): the length in the
upper half of the header leaves the opcode alone.  The length itself can be read off the header
again, so a message that was built is well formed (`flaw?_build`).
-/
import Mathlib.Data.Nat.Bitwise
import WaylandProxy.Wire.Argument

namespace WaylandProxy

set_option autoImplicit false

namespace Message

/-- The four bytes of a number below `2 ^ 32`, put together again bit by bit. -/
theorem testBit_bytes (n i : Nat) (bound : n < 2 ^ 32) :
    (n % 2 ^ 8 ||| (n >>> 8 % 2 ^ 8) <<< 8 % 2 ^ 32 ||| (n >>> 16 % 2 ^ 8) <<< 16 % 2 ^ 32 |||
      (n >>> 24 % 2 ^ 8) <<< 24 % 2 ^ 32).testBit i = n.testBit i := by
  have above : 32 ≤ i → n.testBit i = false := fun le =>
    Nat.testBit_lt_two_pow (lt_of_lt_of_le bound (Nat.pow_le_pow_right (by decide) le))
  simp only [Nat.testBit_or, Nat.testBit_mod_two_pow, Nat.testBit_shiftLeft,
    Nat.testBit_shiftRight]
  grind

theorem wordOfBytes_bytes (w : UInt32) :
    wordOfBytes w.toUInt8 (w >>> 8).toUInt8 (w >>> 16).toUInt8 (w >>> 24).toUInt8 = w := by
  apply UInt32.toNat_inj.1
  apply Nat.eq_of_testBit_eq
  intro i
  rw [← testBit_bytes w.toNat i w.toNat_lt]
  rfl

theorem wordsOfBytes_flatMap (words : List UInt32) :
    wordsOfBytes (words.flatMap wordBytes) = words := by
  induction words with
  | nil => rfl
  | cons w rest ih =>
      simp only [List.flatMap_cons, wordBytes, List.cons_append, List.nil_append, wordsOfBytes,
        wordOfBytes_bytes, ih]

@[simp] theorem wordsOfBytes_toBytes (m : Message) : wordsOfBytes m.toBytes = m.words :=
  wordsOfBytes_flatMap m.words

/-- A length in the upper half of the header leaves the opcode alone. -/
theorem toUInt16_header (size : UInt32) (opcode : UInt16) :
    (size <<< 16 ||| opcode.toUInt32).toUInt16 = opcode := by
  apply UInt16.toNat_inj.1
  have shifted : size.toNat <<< 16 % 65536 = 0 := by
    rw [Nat.shiftLeft_eq]
    omega
  simp [shifted]

/-- A message that was built has the object, the opcode and the arguments it was built
from. -/
theorem build_spec {direction : Direction} {connection : Connection} {object : UInt32}
    {opcode : UInt16} {arguments : List Argument} {m : Message}
    (built : build direction connection object opcode arguments = .ok m) :
    m.direction = direction ∧ m.object = object ∧ m.opcode = opcode ∧
      m.args = arguments.flatMap Argument.toWords := by
  unfold build at built
  simp only at built
  split at built
  · cases built
  · cases built
    exact ⟨rfl, rfl, toUInt16_header _ _, rfl⟩

/-- A length that fits can be read off the upper half of the header. -/
theorem shift_header {size : Nat} (fits : size ≤ largestLength) (opcode : UInt16) :
    ((UInt32.ofNat size <<< 16 ||| opcode.toUInt32) >>> 16).toNat = size := by
  unfold largestLength at fits
  have upper : (size <<< 16 % 4294967296) >>> 16 = size := by
    rw [Nat.shiftLeft_eq, Nat.shiftRight_eq_div_pow]
    omega
  have lower : opcode.toNat >>> 16 = 0 := by
    have below := opcode.toNat_lt
    rw [Nat.shiftRight_eq_div_pow]
    omega
  simp [Nat.mod_eq_of_lt (show size < 4294967296 by omega), Nat.shiftRight_or_distrib, upper,
    lower]

theorem flaw?_build {direction : Direction} {connection : Connection} {object : UInt32}
    {opcode : UInt16} {arguments : List Argument} {m : Message}
    (built : build direction connection object opcode arguments = .ok m) : m.flaw? = none := by
  unfold build at built
  simp only at built
  split at built
  · cases built
  · rename_i fits
    cases built
    rw [flaw?_eq_none_iff]
    refine ⟨by simp, ?_⟩
    show ((UInt32.ofNat _ <<< 16 ||| opcode.toUInt32) >>> 16).toNat = _
    rw [shift_header (Nat.not_lt.1 fits)]
    simp only [byteLength, headerBytes, List.length_cons]
    omega

/-- Arguments that the length field can count are built into a message. -/
theorem exists_build {arguments : List Argument}
    (fits : headerBytes + (arguments.flatMap Argument.toWords).length * 4 ≤ largestLength)
    (direction : Direction) (connection : Connection) (object : UInt32) (opcode : UInt16) :
    ∃ m, build direction connection object opcode arguments = .ok m :=
  ⟨_, if_neg (Nat.not_lt.2 fits)⟩

theorem word?_two (m : Message) : m.word? 2 = m.args[0]? := by
  simp [word?, args, firstArgument]

namespace Example

/-- A message of one connection with the given words after a header that fits. -/
def message (direction : Direction) (object opcode : UInt32) (args : List UInt32) : Message :=
  ⟨direction, ⟨1, none⟩,
    object :: (UInt32.ofNat (8 + 4 * args.length) <<< 16 ||| opcode) :: args⟩

end Example

end Message

end WaylandProxy
