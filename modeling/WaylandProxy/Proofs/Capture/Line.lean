/-
# Proofs.Capture.Line -- the grammar of a capture line

A line is silent, or it holds a message, or it is malformed.  It is silent if nothing is left when
it is trimmed or a number sign comes first (`Silent`); it holds a message if it is laid out in
three fields, a numeral, the letter of a peer and the digits of bytes that are one message
(`Holds`).  `decode` tells the three apart, and refuses the malformed lines with a fault of the
format.

Each field is told apart on its own (`readU64_eq_ok_iff`, `directionOf?_eq_some_iff`,
`Hex.decode_eq_ok_iff`, `Message.decode_eq_ok_iff`).  What `encodeLine` writes has no blank in a
field and no number sign, whatever is encoded, so it holds what was encoded (`holds_encodeLine`).
-/
import WaylandProxy.Capture.Line
import WaylandProxy.Proofs.Text.Fields
import WaylandProxy.Proofs.Text.Hex
import WaylandProxy.Proofs.Wire.Codec

namespace WaylandProxy.Entry

set_option autoImplicit false

open Number.Decimal (Numeral)
open Text.Chars (Laid)

variable {connection : Connection} {line : String} {e : Entry}

/-- The line has nothing but blanks, or a number sign comes first in it. -/
def Silent (line : String) : Prop :=
  Text.trim line = "" ∨ ∃ rest, (Text.trim line).toList = '#' :: rest

/-- The line says in three fields when the message came, from which peer, and which bytes it
has. -/
def Holds (connection : Connection) (line : String) (e : Entry) : Prop :=
  ∃ offset payload milliseconds bytes,
    Laid line.toList [offset, [e.message.direction.tag], payload] ∧
      Numeral offset milliseconds ∧ milliseconds < 2 ^ 64 ∧ e.offset = millis milliseconds ∧
      Text.Hex.Spells payload bytes ∧
      Message.decode e.message.direction connection bytes = .ok e.message

/-! ## Reading the fields -/

theorem silent_iff : ((Text.trim line).isEmpty || (Text.trim line).front = '#') ↔ Silent line := by
  unfold Silent
  rw [Bool.or_eq_true, String.isEmpty_iff, decide_eq_true_eq]
  refine or_congr_right ?_
  rw [String.front_eq, String.front?_eq]
  cases (Text.trim line).toList with
  | nil => simp
  | cons c rest => simp

theorem directionOf?_eq_some_iff {tag : String} {direction : Direction} :
    directionOf? tag = some direction ↔ tag.toList = [direction.tag] := by
  have letter (c : Char) : tag = String.singleton c ↔ tag.toList = [c] := by
    rw [← String.toList_inj, String.toList_singleton]
  have server : tag = "S" ↔ tag.toList = ['S'] := letter 'S'
  have client : tag = "C" ↔ tag.toList = ['C'] := letter 'C'
  unfold directionOf?
  split
  · rename_i isServer
    rw [server.1 isServer]
    cases direction <;> simp [Direction.tag]
  · split
    · rename_i isClient
      rw [client.1 isClient]
      cases direction <;> simp [Direction.tag]
    · rename_i notServer notClient
      rw [server] at notServer
      rw [client] at notClient
      cases direction <;> simp [Direction.tag, notServer, notClient]

theorem ofFields_eq_ok_iff {offset tag payload : String} :
    ofFields connection offset tag payload = .ok e ↔
      ∃ milliseconds bytes, tag.toList = [e.message.direction.tag] ∧
        Numeral offset.toList milliseconds ∧ milliseconds < 2 ^ 64 ∧
        e.offset = millis milliseconds ∧ Text.Hex.Spells payload.toList bytes ∧
        Message.decode e.message.direction connection bytes = .ok e.message := by
  unfold ofFields
  constructor
  · intro read
    split at read
    · cases read
    · rename_i milliseconds number
      split at read
      · cases read
      · rename_i direction letter
        split at read
        · cases read
        · rename_i bytes digits
          cases decoded : Message.decode direction connection bytes with
          | error fault =>
              rw [decoded] at read
              cases read
          | ok m =>
              rw [decoded] at read
              cases read
              obtain ⟨-, same⟩ := Message.decode_eq_ok_iff.1 decoded
              have known : m.direction = direction := by rw [same]
              rw [← known] at letter decoded
              exact ⟨milliseconds.toNat, bytes, directionOf?_eq_some_iff.1 letter,
                Number.Decimal.readU64_eq_ok_iff.1 number, milliseconds.toNat_lt, rfl,
                Text.Hex.decode_eq_ok_iff.1 digits, decoded⟩
  · rintro ⟨milliseconds, bytes, letter, numeral, below, when, digits, decoded⟩
    have value : (UInt64.ofNat milliseconds).toNat = milliseconds := UInt64.toNat_ofNat_of_lt' below
    rw [Number.Decimal.readU64_eq_ok_iff.2 (value.symm ▸ numeral),
      directionOf?_eq_some_iff.2 letter, Text.Hex.decode_eq_ok_iff.2 digits]
    simp only [decoded, value, ← when]
    rfl

/-- What is wrong with a field is a fault of the format. -/
theorem code_of_ofFields_eq_error {offset tag payload : String} {fault : Fault}
    (refused : ofFields connection offset tag payload = .error fault) :
    fault.code = "PROTOCOL_FORMAT" := by
  unfold ofFields at refused
  split at refused
  · cases refused
    rfl
  · split at refused
    · cases refused
      rfl
    · split at refused
      · cases refused
        rfl
      · rename_i direction _ _ bytes _
        cases decoded : Message.decode direction connection bytes with
        | error fault' =>
            rw [decoded] at refused
            cases refused
            obtain ⟨flaw, rfl⟩ := Message.flaw_of_decode_eq_error decoded
            rfl
        | ok m =>
            rw [decoded] at refused
            cases refused

/-! ## Reading the line -/

theorem fields_trim : Text.fields (Text.trim line) = Text.fields line := by
  unfold Text.fields Text.trim
  rw [String.toList_ofList, Text.Chars.fields_trim]

theorem fields_eq_three_iff {first second third : String} :
    Text.fields line = [first, second, third] ↔
      Laid line.toList [first.toList, second.toList, third.toList] := by
  unfold Text.fields
  rw [← Text.Chars.fields_eq_iff]
  constructor
  · intro same
    have back := congrArg (List.map String.toList) same
    rw [List.map_map] at back
    simpa [Function.comp_def] using back
  · intro same
    rw [same]
    simp

theorem decode_of_silent (silent : Silent line) : decode connection line = .ok none :=
  if_pos (silent_iff.2 silent)

def readFields (connection : Connection) (line : String) :
    List String → Except Fault (Option Entry)
  | [offset, tag, payload] => (ofFields connection offset tag payload).map some
  | _ => .error (Flaw.fieldCount (Text.trim line)).fault

/-- A line that is not silent is read by its fields. -/
theorem decode_of_not_silent (loud : ¬ Silent line) :
    decode connection line = readFields connection line (Text.fields line) := by
  have audible : ¬ ((Text.trim line).isEmpty || (Text.trim line).front = '#') :=
    fun silent => loud (silent_iff.1 silent)
  unfold decode
  rw [if_neg audible, fields_trim]
  rfl

/-- Nothing is read in the silent lines only. -/
theorem decode_eq_ok_none_iff : decode connection line = .ok none ↔ Silent line := by
  refine ⟨fun read => ?_, decode_of_silent⟩
  by_contra loud
  rw [decode_of_not_silent loud] at read
  unfold readFields at read
  split at read
  · rename_i offset tag payload _
    cases entry : ofFields connection offset tag payload <;> rw [entry] at read <;> cases read
  · cases read

/-- A line that is not silent holds what is read in it. -/
theorem decode_eq_ok_some_iff (loud : ¬ Silent line) :
    decode connection line = .ok (some e) ↔ Holds connection line e := by
  rw [decode_of_not_silent loud]
  constructor
  · intro read
    unfold readFields at read
    split at read
    · rename_i offset tag payload three
      cases entry : ofFields connection offset tag payload with
      | error fault =>
          rw [entry] at read
          cases read
      | ok e' =>
          rw [entry] at read
          cases read
          obtain ⟨milliseconds, bytes, letter, known⟩ := ofFields_eq_ok_iff.1 entry
          have laid := fields_eq_three_iff.1 three
          rw [letter] at laid
          exact ⟨offset.toList, payload.toList, milliseconds, bytes, laid, known⟩
    · cases read
  · rintro ⟨offset, payload, milliseconds, bytes, laid, known⟩
    have three : Text.fields line =
        [String.ofList offset, String.singleton e.message.direction.tag, String.ofList payload] :=
      fields_eq_three_iff.2 (by simpa using laid)
    have entry : ofFields connection (String.ofList offset)
        (String.singleton e.message.direction.tag) (String.ofList payload) = .ok e :=
      ofFields_eq_ok_iff.2 ⟨milliseconds, bytes, by simpa using known⟩
    rw [three]
    exact congrArg (Except.map some) entry

/-- Other than a silent line, a line with no message is refused. -/
theorem code_of_decode_eq_error {fault : Fault} (refused : decode connection line = .error fault) :
    fault.code = "PROTOCOL_FORMAT" := by
  by_cases silent : Silent line
  · rw [decode_of_silent silent] at refused
    cases refused
  rw [decode_of_not_silent silent] at refused
  unfold readFields at refused
  split at refused
  · rename_i offset tag payload _
    cases entry : ofFields connection offset tag payload with
    | error fault' =>
        rw [entry] at refused
        cases refused
        exact code_of_ofFields_eq_error entry
    | ok e =>
        rw [entry] at refused
        cases refused
  · cases refused
    rfl

/-- A line that begins with a numeral is not silent. -/
theorem not_silent_of_numeral {offset : List Char} {others : List (List Char)} {milliseconds : Nat}
    (laid : Laid line.toList (offset :: others)) (numeral : Numeral offset milliseconds) :
    ¬ Silent line := by
  obtain ⟨rest, begins⟩ := Text.Chars.trim_laid laid
  obtain ⟨c, others, rfl⟩ := List.exists_cons_of_ne_nil numeral.ne_nil
  have visible := numeral.visible c List.mem_cons_self
  have trimmed : (Text.trim line).toList = c :: (others ++ rest) := by
    unfold Text.trim
    rw [String.toList_ofList, begins, List.cons_append]
  rintro (nothing | ⟨rest', comment⟩)
  · rw [nothing] at trimmed
    cases trimmed
  · rw [trimmed] at comment
    obtain ⟨rfl, -⟩ := List.cons.inj comment
    exact absurd visible.1 (by decide)

theorem Holds.not_silent (holds : Holds connection line e) : ¬ Silent line := by
  obtain ⟨offset, payload, milliseconds, bytes, laid, numeral, -⟩ := holds
  exact not_silent_of_numeral laid numeral

/-- **What is read in a line** is what it holds. -/
theorem decode_eq_ok_iff : decode connection line = .ok (some e) ↔ Holds connection line e := by
  by_cases silent : Silent line
  · rw [decode_of_silent silent]
    exact ⟨nofun, fun holds => absurd silent holds.not_silent⟩
  · exact decode_eq_ok_some_iff silent

/-! ## Writing -/

theorem toList_encodeLine (offset : Nat) (direction : Direction) (bytes : List UInt8) :
    (encodeLine offset direction bytes).toList =
      (toString (offset / 1000000)).toList ++
        ' ' :: ([direction.tag] ++ ' ' :: Text.Hex.encodeChars bytes) := by
  simp [encodeLine, Text.Hex.encode, Char.toString]

/-- A line that is written can be seen, but for the two blanks between its fields. -/
theorem visible_encodeLine {offset : Nat} {direction : Direction} {bytes : List UInt8} :
    ∀ c ∈ (encodeLine offset direction bytes).toList, 32 ≤ c.toNat ∧ c.toNat ≤ 122 := by
  intro c member
  have number := (Number.Decimal.numeral_toString (offset / 1000000)).visible
  have digits := (Text.Hex.spells_encodeChars bytes).visible
  have letter : 67 ≤ direction.tag.toNat ∧ direction.tag.toNat ≤ 83 := by
    cases direction <;> decide
  rw [toList_encodeLine] at member
  simp only [List.mem_append, List.mem_cons, List.not_mem_nil, or_false] at member
  obtain member | rfl | rfl | rfl | member := member
  · have := number c member
    omega
  · decide
  · omega
  · decide
  · have := digits c member
    omega

/-- A line that is written is laid out in the three fields it was written from. -/
theorem laid_encodeLine {offset : Nat} {direction : Direction} {bytes : List UInt8}
    (some : bytes ≠ []) :
    Laid (encodeLine offset direction bytes).toList
      [(toString (offset / 1000000)).toList, [direction.tag], Text.Hex.encodeChars bytes] := by
  have numeral := Number.Decimal.numeral_toString (offset / 1000000)
  have number : ∀ c ∈ (toString (offset / 1000000)).toList, Text.isBlank c = false := by
    intro c member
    have range := numeral.visible c member
    exact Text.Chars.isBlank_of_visible (by omega) (by omega)
  have letter : ∀ c ∈ [direction.tag], Text.isBlank c = false := by
    rw [List.forall_mem_singleton]
    cases direction <;> decide
  have digits : ∀ c ∈ Text.Hex.encodeChars bytes, Text.isBlank c = false := by
    intro c member
    have range := (Text.Hex.spells_encodeChars bytes).visible c member
    exact Text.Chars.isBlank_of_visible (by omega) (by omega)
  have someDigits : Text.Hex.encodeChars bytes ≠ [] := by
    obtain ⟨byte, others, rfl⟩ := List.exists_cons_of_ne_nil some
    exact List.cons_ne_nil _ _
  have last : Laid (Text.Hex.encodeChars bytes) [Text.Hex.encodeChars bytes] := by
    have alone := Laid.field someDigits digits (by simp) .nothing
    rwa [List.append_nil] at alone
  rw [toList_encodeLine]
  refine .field numeral.ne_nil number ?_ (.blank (by decide) ?_)
  · exact fun c first => Option.some.inj first ▸ by decide
  · refine .field (List.cons_ne_nil _ _) letter ?_ (.blank (by decide) last)
    exact fun c first => Option.some.inj first ▸ by decide

/-- A message without flaw has bytes. -/
theorem toBytes_ne_nil {m : Message} (wellFormed : m.flaw? = none) : m.toBytes ≠ [] := by
  intro none
  have words := (m.flaw?_eq_none_iff.1 wellFormed).1
  have length := Message.length_toBytes m
  rw [none, Message.byteLength, List.length_nil] at length
  omega

/-- **A line holds what it was written for**, at the whole milliseconds of its offset. -/
theorem holds_encodeLine {m : Message} {offset : Nat} (wellFormed : m.flaw? = none)
    (inRange : offset < millis (2 ^ 64)) :
    Holds m.connection (encodeLine offset m.direction m.toBytes)
      ⟨millis (offset / 1000000), m⟩ := by
  have below : offset / 1000000 < 2 ^ 64 := by
    unfold millis at inRange
    omega
  exact ⟨_, _, offset / 1000000, m.toBytes, laid_encodeLine (toBytes_ne_nil wellFormed),
    Number.Decimal.numeral_toString _, below, rfl, Text.Hex.spells_encodeChars _,
    Message.decode_toBytes wellFormed⟩

/-- An offset with more milliseconds than a line can hold is in no message. -/
theorem inRange_of_holds_encodeLine {m : Message} {offset : Nat} (wellFormed : m.flaw? = none)
    (holds : Holds connection (encodeLine offset m.direction m.toBytes) e) :
    offset < millis (2 ^ 64) := by
  obtain ⟨text, payload, milliseconds, bytes, laid, numeral, below, -⟩ := holds
  have fields := laid.fields_eq.symm.trans (laid_encodeLine (toBytes_ne_nil wellFormed)).fields_eq
  obtain ⟨rfl, -⟩ := List.cons.inj fields
  obtain rfl := numeral.unique (Number.Decimal.numeral_toString _)
  unfold millis
  omega

/-- The message that a line holds has no flaw, and its offset is a whole number of milliseconds
below `2 ^ 64`. -/
theorem Holds.sound (holds : Holds connection line e) :
    e.message.flaw? = none ∧ e.message.connection = connection ∧
      ∃ milliseconds < 2 ^ 64, e.offset = millis milliseconds := by
  obtain ⟨-, -, milliseconds, bytes, -, -, below, when, -, decoded⟩ := holds
  obtain ⟨⟨header, whole, claims⟩, same⟩ := Message.decode_eq_ok_iff.1 decoded
  refine ⟨?_, by rw [same], milliseconds, below, when⟩
  rw [same]
  exact (Message.flaw?_wordsOfBytes _ _ header whole).2 claims

/-- What a line holds, it holds when it is written again. -/
theorem Holds.encode (holds : Holds connection line e) : Holds connection (encode e) e := by
  obtain ⟨wellFormed, known, milliseconds, below, when⟩ := holds.sound
  have inRange : e.offset < millis (2 ^ 64) := by
    unfold millis at when ⊢
    omega
  have truncated : millis (e.offset / 1000000) = e.offset := by
    unfold millis at when ⊢
    omega
  have again := holds_encodeLine wellFormed inRange
  rwa [known, truncated] at again

/-! ## The codec -/

/-- **The grammar of a line, and its inverse.**  No message is in exactly the silent lines; of the
others, exactly those hold one that are laid out in a decimal number below `2 ^ 64`, the letter of
a peer and the digits of bytes that are a message; all others are refused with a fault of the
format.  A message without flaw is read back from its line, at the whole milliseconds of its
offset.  And what was read in any line is read again in the line that it is written as, which is
then written as the same line. -/
theorem decode_accepts_grammar_and_inverts_encode (connection : Connection) (line : String) :
    (decode connection line = .ok none ↔ Silent line) ∧
    (∀ e, decode connection line = .ok (some e) ↔ ¬ Silent line ∧ Holds connection line e) ∧
    (¬ Silent line → (¬ ∃ e, Holds connection line e) →
      ∃ fault, decode connection line = .error fault ∧ fault.code = "PROTOCOL_FORMAT") ∧
    (∀ (m : Message) (offset : Nat), m.flaw? = none → offset < millis (2 ^ 64) →
      decode m.connection (encodeLine offset m.direction m.toBytes) =
        .ok (some ⟨millis (offset / 1000000), m⟩)) ∧
    ∀ e, decode connection line = .ok (some e) →
      decode connection (encode e) = .ok (some e) ∧
        ∀ again, decode connection (encode e) = .ok (some again) → encode again = encode e := by
  refine ⟨decode_eq_ok_none_iff, fun e => ?_, fun loud noMessage => ?_, ?_, ?_⟩
  · rw [decode_eq_ok_iff]
    exact ⟨fun holds => ⟨holds.not_silent, holds⟩, And.right⟩
  · cases read : decode connection line with
    | error fault => exact ⟨fault, rfl, code_of_decode_eq_error read⟩
    | ok found =>
        cases found with
        | none => exact absurd (decode_eq_ok_none_iff.1 read) loud
        | some e => exact absurd ⟨e, decode_eq_ok_iff.1 read⟩ noMessage
  · intro m offset wellFormed inRange
    exact decode_eq_ok_iff.2 (holds_encodeLine wellFormed inRange)
  · intro e read
    have again := decode_eq_ok_iff.2 (decode_eq_ok_iff.1 read).encode
    refine ⟨again, fun e' read' => ?_⟩
    rw [again] at read'
    cases read'
    rfl

namespace Example

/-- A line with a signed offset, a tab, a no-break space and upper-case digits. -/
def oddLine : String := " +042\tS\u00a0AB00000000000800 "

/-- Its message, an event without arguments. -/
def oddEntry : Entry := ⟨millis 42, Message.Example.message .fromServer 0xAB 0 []⟩

/-- The line holds the event; the event is written in the plain form of the line, and read again in
it, also if it came in the last nanosecond before the 43rd millisecond.  A comment is silent, and a
line with the letter of no peer is refused. -/
theorem odd_line_in_its_plain_form :
    decode ⟨1, none⟩ oddLine = .ok (some oddEntry) ∧
      encode oddEntry = "42 S ab00000000000800" ∧
      decode ⟨1, none⟩ (encode oddEntry) = .ok (some oddEntry) ∧
      oddEntry.message.flaw? = none ∧ 42999999 < millis (2 ^ 64) ∧
      decode ⟨1, none⟩ (encodeLine 42999999 .fromServer oddEntry.message.toBytes) =
        .ok (some oddEntry) ∧
      decode ⟨1, none⟩ "\u3000# 42 S 00" = .ok none ∧
      ∃ fault, decode ⟨1, none⟩ "42 Q ab00000000000800" = .error fault ∧
        fault.code = "PROTOCOL_FORMAT" := by
  obtain ⟨-, holds, -, back, again⟩ := decode_accepts_grammar_and_inverts_encode ⟨1, none⟩ oddLine
  obtain ⟨silent, -⟩ := decode_accepts_grammar_and_inverts_encode ⟨1, none⟩ "\u3000# 42 S 00"
  obtain ⟨-, others, refused, -⟩ :=
    decode_accepts_grammar_and_inverts_encode ⟨1, none⟩ "42 Q ab00000000000800"
  have laid : Laid oddLine.toList
      [['+', '0', '4', '2'], ['S'], "AB00000000000800".toList] :=
    Text.Chars.fields_eq_iff.1 (by decide)
  have numeral : Numeral ['+', '0', '4', '2'] 42 :=
    ⟨['0', '4', '2'], by decide, List.all_eq_true.1 rfl, .inr rfl, by decide⟩
  have digits : Text.Hex.Spells "AB00000000000800".toList oddEntry.message.toBytes :=
    Text.Hex.spells_iff.2 (by decide +kernel)
  have wellFormed : oddEntry.message.flaw? = none := by decide
  have read : decode ⟨1, none⟩ oddLine = .ok (some oddEntry) :=
    (holds oddEntry).2 ⟨(not_congr silent_iff).1 (by decide), _, _, 42, _, laid, numeral,
      by decide, rfl, digits, Message.decode_toBytes wellFormed⟩
  have inRange : 42999999 < millis (2 ^ 64) := by decide
  have noPeer : ¬ ∃ e, Holds ⟨1, none⟩ "42 Q ab00000000000800" e := by
    rintro ⟨e, offset, payload, milliseconds, bytes, laid, -⟩
    have three : Text.Chars.fields "42 Q ab00000000000800".toList =
        ["42".toList, ['Q'], "ab00000000000800".toList] := by decide
    have tag := laid.fields_eq.symm.trans three
    cases side : e.message.direction <;> rw [side] at tag <;> revert tag <;> simp [Direction.tag]
  exact ⟨read, by decide, (again oddEntry read).1, wellFormed, inRange,
    back oddEntry.message 42999999 wellFormed inRange,
    silent.2 (.inr ⟨" 42 S 00".toList, by decide⟩),
    refused ((not_congr silent_iff).1 (by decide)) noPeer⟩

end Example

end WaylandProxy.Entry
