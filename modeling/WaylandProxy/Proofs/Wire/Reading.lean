/-
# Proofs.Wire.Reading -- arguments are read as they were written

A message is built exactly if the length field can count it, and then its arguments are laid out
as the wire format says: a number is a word, and a text with the null that ends it, or bytes, stand
behind their length, with zeros up to a whole word (`flatMap_toWords`).

Numbers and texts written one after the other are read back by the reads of their kinds, whatever
follows them: a read gives the value that was written and stops at the first word of the next one
(`read_value`, `run_values`).  A text that ends in a null of its own keeps it, for the read takes
one null off and the length counts them all.

On words that nobody built a read may fail, after the length of a text or before it.  Succeeding or
not, a read does no more than to skip words that are there (`read_skips`), so the position of a
reader goes on and never past the end.
-/
import WaylandProxy.Proofs.Machine
import WaylandProxy.Proofs.Text.Hex
import WaylandProxy.Proofs.Wire.Codec

namespace WaylandProxy

set_option autoImplicit false

/-! ## The layout of an argument -/

namespace Argument

open Message (wordBytes wordBytes_wordOfBytes)

/-- Bytes behind their number, with zeros up to a whole word. -/
def framed (bytes : List UInt8) : List UInt8 :=
  wordBytes (UInt32.ofNat bytes.length) ++ bytes ++
    List.replicate ((4 - bytes.length % 4) % 4) 0

def layout : Argument → List UInt8
  | .uint word | .object word | .newId word => wordBytes word
  | .int value => wordBytes value.toUInt32
  | .fixed value => wordBytes value.toWord
  | .string text => framed (Text.Utf8.encode text ++ [0])
  | .array bytes => framed bytes

/-- Four bytes make a word, and what is left over makes another one. -/
theorem length_paddedWords (bytes : List UInt8) :
    (paddedWords bytes).length = (bytes.length + 3) / 4 := by
  induction bytes using paddedWords.induct with
  | case1 => rfl
  | case2 | case3 | case4 => simp [paddedWords]
  | case5 a b c d rest ih =>
      simp only [paddedWords, List.length_cons, ih]
      omega

/-- Only zeros are added up to the end of the last word. -/
theorem flatMap_paddedWords (bytes : List UInt8) :
    (paddedWords bytes).flatMap wordBytes =
      bytes ++ List.replicate ((4 - bytes.length % 4) % 4) 0 := by
  induction bytes using paddedWords.induct with
  | case1 => rfl
  | case2 | case3 | case4 => simp [paddedWords, wordBytes_wordOfBytes, List.replicate]
  | case5 a b c d rest ih =>
      have same : (a :: b :: c :: d :: rest).length % 4 = rest.length % 4 := by
        simp only [List.length_cons]
        omega
      rw [same]
      simp only [paddedWords, List.flatMap_cons, wordBytes_wordOfBytes, ih, List.cons_append,
        List.nil_append]

theorem flatMap_counted (bytes : List UInt8) :
    (counted bytes).flatMap wordBytes = framed bytes := by
  simp only [counted, framed, List.flatMap_cons, flatMap_paddedWords, List.append_assoc]

theorem flatMap_toWords (argument : Argument) :
    argument.toWords.flatMap wordBytes = argument.layout := by
  cases argument with
  | string | array => exact flatMap_counted _
  | uint | int | fixed | object | newId => simp [toWords, layout]

end Argument

/-- **What is built.**  The arguments that the length field can count, and no others. -/
theorem Message.exists_build_iff (direction : Direction) (connection : Connection) (object : UInt32)
    (opcode : UInt16) (arguments : List Argument) :
    (∃ m, build direction connection object opcode arguments = .ok m) ↔
      8 + 4 * (arguments.flatMap Argument.toWords).length ≤ 65535 := by
  constructor
  · rintro ⟨m, built⟩
    unfold build at built
    simp only at built
    split at built
    case isTrue => cases built
    case isFalse fits =>
      simp only [largestLength, headerBytes] at fits
      omega
  · intro fits
    apply exists_build
    simp only [largestLength, headerBytes]
    omega

namespace Reader

/-! ## Reads -/

inductive Kind where
  | uint
  | int
  | string
  deriving DecidableEq, Repr

inductive Value where
  | uint (value : UInt32)
  | int (value : Int32)
  | string (text : String)
  deriving DecidableEq, Repr

namespace Value

def kind : Value → Kind
  | .uint _ => .uint
  | .int _ => .int
  | .string _ => .string

def argument : Value → Argument
  | .uint value => .uint value
  | .int value => .int value
  | .string text => .string text

def words (value : Value) : List UInt32 :=
  value.argument.toWords

end Value

/-- What a read of a kind finds, and the reader after it. -/
def read (r : Reader) : Kind → Option Value × Reader
  | .uint => (r.uint.1.map .uint, r.uint.2)
  | .int => (r.int.1.map .int, r.int.2)
  | .string => (r.string.1.map .string, r.string.2)

/-- A reader as a machine that gives out what each read finds. -/
def reading : Machine Reader Kind (Option Value) where
  step r kind := (r.read kind).2
  out r kind := [(r.read kind).1]

/-! ## Any words -/

@[simp] theorem skip_zero (r : Reader) : r.skip 0 = r := rfl

theorem skip_skip (r : Reader) (count more : Nat) :
    (r.skip count).skip more = r.skip (count + more) := by
  simp only [skip, List.drop_drop, Nat.add_assoc]

theorem uint_skips (r : Reader) : ∃ count ≤ r.rest.length, r.uint.2 = r.skip count := by
  cases rest : r.rest with
  | nil => exact ⟨0, Nat.le_refl 0, by simp only [uint, rest, skip_zero]⟩
  | cons word others => exact ⟨1, by simp, by simp only [uint, rest]⟩

theorem string_skips (r : Reader) : ∃ count ≤ r.rest.length, r.string.2 = r.skip count := by
  cases rest : r.rest with
  | nil => exact ⟨0, Nat.le_refl 0, by simp only [string, uint, rest, skip_zero]⟩
  | cons word others =>
      simp only [string, uint, rest]
      split
      case isTrue => exact ⟨1, by simp, rfl⟩
      case isFalse =>
        split
        -- the length of the text is consumed, and nothing else
        case isTrue => exact ⟨1, by simp, rfl⟩
        case isFalse enough =>
          refine ⟨1 + (word.toNat + 3) / 4, ?_, skip_skip r 1 _⟩
          simp only [skip, rest, List.drop_succ_cons, List.drop_zero] at enough
          rw [List.length_cons]
          omega

/-- A text is the bytes that its length counts, out of as many words as it takes. -/
theorem string_cons {length : UInt32} {rest : List UInt32} {position : Nat}
    (enough : (length.toNat + 3) / 4 ≤ rest.length) :
    string ⟨length :: rest, position⟩ =
      (Text.Utf8.decode? (dropNull ((rest.flatMap Message.wordBytes).take length.toNat)),
        ⟨rest.drop ((length.toNat + 3) / 4), position + 1 + (length.toNat + 3) / 4⟩) := by
  have bytes : ((rest.take ((length.toNat + 3) / 4)).flatMap Message.wordBytes).take length.toNat =
      (rest.flatMap Message.wordBytes).take length.toNat := by
    have taken : ((rest.take ((length.toNat + 3) / 4)).flatMap Message.wordBytes).length =
        (length.toNat + 3) / 4 * 4 := by
      simp only [List.length_flatMap, Message.wordBytes, List.length_cons, List.length_nil,
        List.map_const', List.sum_replicate_nat, List.length_take_of_le enough]
    conv => rhs; rw [← List.take_append_drop ((length.toNat + 3) / 4) rest, List.flatMap_append]
    rw [List.take_append_of_le_length (by omega)]
  simp only [string, uint, skip, List.drop_succ_cons, List.drop_zero]
  split
  case isTrue none =>
    rw [none]
    rfl
  case isFalse => rw [if_neg (Nat.not_lt.2 enough), bytes]

/-- Of a text that is cut short only the length is consumed. -/
theorem string_cut {length : UInt32} {rest : List UInt32} {position : Nat}
    (few : ¬ (length.toNat + 3) / 4 ≤ rest.length) :
    string ⟨length :: rest, position⟩ = (none, ⟨rest, position + 1⟩) := by
  have some : length.toNat ≠ 0 := by
    intro zero
    rw [zero] at few
    exact few (Nat.zero_le _)
  simp only [string, uint, skip, List.drop_succ_cons, List.drop_zero, if_neg some,
    if_pos (Nat.not_le.1 few)]

/-- **One read.**  It skips words that are there, and does nothing else to the reader. -/
theorem read_skips (r : Reader) (kind : Kind) :
    ∃ count ≤ r.rest.length, (r.read kind).2 = r.skip count := by
  cases kind with
  | uint | int => exact uint_skips r
  | string => exact string_skips r

/-- Any number of reads skip words that are there. -/
theorem run_skips (r : Reader) (kinds : List Kind) :
    ∃ count ≤ r.rest.length, reading.run r kinds = r.skip count := by
  induction kinds generalizing r with
  | nil => exact ⟨0, Nat.zero_le _, rfl⟩
  | cons kind kinds ih =>
      obtain ⟨first, inside, after⟩ := read_skips r kind
      obtain ⟨others, within, last⟩ := ih (r.read kind).2
      rw [after] at last within
      refine ⟨first + others, ?_, ?_⟩
      · simp only [skip, List.length_drop] at within
        omega
      · rw [Machine.run_cons, ← skip_skip, ← last, ← after]
        rfl

/-- **Any words, any reads.**  A reader goes on or stays, is never past the end, and has before it
the words from its position on. -/
theorem position_run (words : List UInt32) (kinds further : List Kind) :
    let before := reading.run (ofArgs words) kinds
    let after := reading.run (ofArgs words) (kinds ++ further)
    before.position ≤ after.position ∧ after.position ≤ words.length ∧
      after.rest = words.drop after.position := by
  obtain ⟨first, inside, reached⟩ := run_skips (ofArgs words) kinds
  obtain ⟨others, within, last⟩ := run_skips ((ofArgs words).skip first) further
  rw [Machine.run_append, reached, last]
  simp only [ofArgs, skip, List.length_drop, List.drop_drop, Nat.zero_add] at inside within ⊢
  exact ⟨by omega, by omega, trivial⟩

/-- At the end every read finds nothing and goes nowhere. -/
theorem read_at_end (position : Nat) (kind : Kind) :
    read ⟨[], position⟩ kind = (none, ⟨[], position⟩) := by
  cases kind <;> rfl

theorem outputs_at_end (position : Nat) (kinds : List Kind) :
    reading.outputs ⟨[], position⟩ kinds = kinds.map fun _ => none := by
  induction kinds with
  | nil => rfl
  | cons kind kinds ih =>
      have nothing : reading.out ⟨[], position⟩ kind = [none] := by
        simp only [reading, read_at_end]
      have stays : reading.step ⟨[], position⟩ kind = ⟨[], position⟩ := by
        simp only [reading, read_at_end]
      rw [Machine.outputs_cons, nothing, stays, ih]
      rfl

/-! ## Words that were written -/

theorem dropNull_concat (bytes : List UInt8) : dropNull (bytes ++ [0]) = bytes := by
  simp [dropNull]

/-- A text is read back from its words, whatever follows them. -/
theorem string_counted {text : String} (rest : List UInt32) (position : Nat)
    (countable : (Text.Utf8.encode text ++ [0]).length < 2 ^ 32) :
    string ⟨Argument.counted (Text.Utf8.encode text ++ [0]) ++ rest, position⟩ =
      (some text, ⟨rest,
        position + (Argument.counted (Text.Utf8.encode text ++ [0])).length⟩) := by
  have decoded := Text.Utf8.decode?_encode text
  rw [← dropNull_concat (Text.Utf8.encode text)] at decoded
  have positive : (Text.Utf8.encode text ++ [0]).length ≠ 0 := by simp
  generalize Text.Utf8.encode text ++ [0] = bytes at *
  have length : (UInt32.ofNat bytes.length).toNat = bytes.length := by
    rw [UInt32.toNat_ofNat']
    exact Nat.mod_eq_of_lt countable
  have enough : ¬ (Argument.paddedWords bytes ++ rest).length <
      (Argument.paddedWords bytes).length := by
    rw [List.length_append]
    omega
  simp only [string, uint, Argument.counted, List.cons_append, skip, List.drop_succ_cons,
    List.drop_zero, length, if_neg positive, ← Argument.length_paddedWords bytes, if_neg enough,
    List.take_left, List.drop_left, Argument.flatMap_paddedWords, decoded, List.length_cons]
  rw [Nat.add_assoc, Nat.add_comm 1]

/-- **One value.**  The read of its kind finds it, and stops at what was written next. -/
theorem read_value (value : Value) (rest : List UInt32) (position : Nat)
    (fits : value.words.length ≤ Message.largestLength) :
    read ⟨value.words ++ rest, position⟩ value.kind =
      (some value, ⟨rest, position + value.words.length⟩) := by
  cases value with
  | uint word => rfl
  | int number =>
      have same : number.toUInt32.toInt32 = number := rfl
      simp only [Value.words, Value.argument, Argument.toWords, Value.kind, read, int, uint, skip,
        List.cons_append, List.nil_append, Option.map_some, same, List.drop_succ_cons,
        List.drop_zero, List.length_singleton]
  | string text =>
      have countable : (Text.Utf8.encode text ++ [0]).length < 2 ^ 32 := by
        have padded := Argument.length_paddedWords (Text.Utf8.encode text ++ [0])
        simp only [Value.words, Value.argument, Argument.toWords, Argument.counted,
          List.length_cons, Message.largestLength] at fits
        omega
      have found := string_counted rest position countable
      simp only [Value.words, Value.argument, Argument.toWords, Value.kind, read, found,
        Option.map_some]

/-- Values written one after the other are read one after the other. -/
theorem run_values (values : List Value) (rest : List UInt32) (position : Nat)
    (fits : (values.flatMap Value.words).length ≤ Message.largestLength) :
    reading.outputs ⟨values.flatMap Value.words ++ rest, position⟩ (values.map Value.kind) =
        values.map some ∧
      reading.run ⟨values.flatMap Value.words ++ rest, position⟩ (values.map Value.kind) =
        ⟨rest, position + (values.flatMap Value.words).length⟩ := by
  induction values generalizing position with
  | nil => exact ⟨rfl, rfl⟩
  | cons value values ih =>
      rw [List.flatMap_cons, List.length_append] at fits
      have first := read_value value (values.flatMap Value.words ++ rest) position (by omega)
      obtain ⟨found, reached⟩ := ih (position + value.words.length) (by omega)
      simp only [List.flatMap_cons, List.append_assoc, List.map_cons, Machine.outputs_cons,
        Machine.run_cons, List.length_append]
      have stepped : reading.step
          ⟨value.words ++ (values.flatMap Value.words ++ rest), position⟩ value.kind =
            ⟨values.flatMap Value.words ++ rest, position + value.words.length⟩ :=
        congrArg Prod.snd first
      have given : reading.out
          ⟨value.words ++ (values.flatMap Value.words ++ rest), position⟩ value.kind =
            [some value] :=
        congrArg (fun answer : Option Value × Reader => [answer.1]) first
      rw [stepped, given, found, reached, Nat.add_assoc]
      exact ⟨rfl, rfl⟩

/-- Values that are all that was written are read back, and between any two of them the reader is at
the first word of the second one. -/
theorem run_args {values : List Value} {args : List UInt32}
    (written : args = values.flatMap Value.words) (fits : args.length ≤ Message.largestLength) :
    reading.outputs (ofArgs args) (values.map Value.kind) = values.map some ∧
      ∀ first others, values = first ++ others →
        reading.run (ofArgs args) (first.map Value.kind) =
          ⟨others.flatMap Value.words, (first.flatMap Value.words).length⟩ := by
  subst written
  constructor
  · have all := (run_values values [] 0 fits).1
    rw [List.append_nil] at all
    exact all
  · rintro first others rfl
    rw [List.flatMap_append, List.length_append] at fits
    have part := (run_values first (others.flatMap Value.words) 0 (by omega)).2
    rw [Nat.zero_add, ← List.flatMap_append] at part
    exact part

/-- **Writing and reading.**  Arguments are built into a message exactly if the length field can
count it, and then the message is well formed, has the object and the opcode it was built with, and
its arguments are the words of those arguments, in their layout.  Numbers and texts are read back by
the reads of their kinds: the first of them leave the reader at the word where the others begin, and
after all of them it is at the end, where every read finds nothing.  On any words, any reads leave
the reader further on or where it was, whether they find anything or not, and never past the end. -/
theorem reads_what_was_written :
    (∀ (direction : Direction) (connection : Connection) (object : UInt32) (opcode : UInt16)
        (arguments : List Argument),
      ((∃ m, Message.build direction connection object opcode arguments = .ok m) ↔
        8 + 4 * (arguments.flatMap Argument.toWords).length ≤ 65535) ∧
      ∀ m, Message.build direction connection object opcode arguments = .ok m →
        m.flaw? = none ∧ m.object = object ∧ m.opcode = opcode ∧
        m.args = arguments.flatMap Argument.toWords ∧
        m.args.flatMap Message.wordBytes = arguments.flatMap Argument.layout) ∧
    (∀ (direction : Direction) (connection : Connection) (object : UInt32) (opcode : UInt16)
        (values : List Value) (m : Message),
      Message.build direction connection object opcode (values.map Value.argument) = .ok m →
      reading.outputs (ofArgs m.args) (values.map Value.kind) = values.map some ∧
      (∀ first others, values = first ++ others →
        reading.run (ofArgs m.args) (first.map Value.kind) =
          ⟨others.flatMap Value.words, (first.flatMap Value.words).length⟩) ∧
      (reading.run (ofArgs m.args) (values.map Value.kind)).position = m.args.length ∧
      ∀ further : List Kind,
        reading.outputs (reading.run (ofArgs m.args) (values.map Value.kind)) further =
          further.map fun _ => none) ∧
    ∀ (words : List UInt32) (kinds further : List Kind),
      let before := reading.run (ofArgs words) kinds
      let after := reading.run (ofArgs words) (kinds ++ further)
      before.position ≤ after.position ∧ after.position ≤ words.length ∧
        after.rest = words.drop after.position := by
  refine ⟨fun direction connection object opcode arguments =>
    ⟨Message.exists_build_iff direction connection object opcode arguments, fun m built => ?_⟩,
    fun direction connection object opcode values m built => ?_, position_run⟩
  · obtain ⟨-, sameObject, sameOpcode, written⟩ := Message.build_spec built
    refine ⟨Message.flaw?_build built, sameObject, sameOpcode, written, ?_⟩
    simp only [written, List.flatMap_assoc, Argument.flatMap_toWords]
  · have size := (Message.exists_build_iff direction connection object opcode _).1 ⟨m, built⟩
    obtain ⟨-, -, -, words⟩ := Message.build_spec built
    have written : m.args = values.flatMap Value.words := by
      rw [words, List.flatMap_map]
      rfl
    have fits : m.args.length ≤ Message.largestLength := by
      rw [← words] at size
      unfold Message.largestLength
      omega
    obtain ⟨found, reached⟩ := run_args written fits
    have finish : reading.run (ofArgs m.args) (values.map Value.kind) = ⟨[], m.args.length⟩ := by
      rw [reached values [] (List.append_nil values).symm, ← written]
      rfl
    refine ⟨found, reached, congrArg position finish, fun further => ?_⟩
    rw [finish]
    exact outputs_at_end m.args.length further

namespace Example

/-- A number, the empty text, a negative number, a text that ends in a null and one of two-byte
characters. -/
def values : List Value :=
  [.uint 7, .string "", .int (-1), .string "ends\x00", .string "été"]

def request : Message :=
  Message.Example.message .fromClient 5 2
    [7, 1, 0, 0xffffffff, 6, 0x73646e65, 0, 6, 0xc374a9c3, 0xa9]

theorem null_at_the_end_comes_back :
    Message.build .fromClient ⟨1, none⟩ 5 2 (values.map Value.argument) = .ok request ∧
      reading.outputs (ofArgs request.args) (values.map Value.kind) = values.map some ∧
      reading.run (ofArgs request.args) [.uint, .string, .int, .string] =
        ⟨[6, 0xc374a9c3, 0xa9], 7⟩ ∧
      (reading.run (ofArgs request.args) (values.map Value.kind)).position = 10 := by
  have built : Message.build .fromClient ⟨1, none⟩ 5 2 (values.map Value.argument) =
      .ok request := rfl
  obtain ⟨found, reached, finish, -⟩ :=
    reads_what_was_written.2.1 .fromClient ⟨1, none⟩ 5 2 values request built
  exact ⟨built, found, reached (values.take 4) [.string "été"] rfl, finish⟩

end Example

end Reader

end WaylandProxy
