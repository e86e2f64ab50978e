/-
# Proofs.Wire.Codec -- bytes that are a message, and no others

Four bytes are one word and the other way around (`wordBytes_wordOfBytes`), so a whole number of
words loses nothing when it is read from its bytes (`flatMap_wordsOfBytes`).  Bytes are refused
only for their number and for the length that they claim in the upper half of their second word,
which `lengthField` reads off the bytes themselves.

Both directions together: `decode` accepts exactly the bytes of at least a header, in whole words,
that claim their own length; what it accepts is written again as it was read; and a message
without flaw is read back from what was written (`decode_inverts_toBytes`).  The field has sixteen
bits, so nothing of `2 ^ 16` bytes or more is accepted.
-/
import WaylandProxy.Proofs.Wire.Words

namespace WaylandProxy

set_option autoImplicit false

namespace Message

/-! ## Words and their bytes -/

/-- A number shifted above another one is added to it. -/
theorem or_shiftLeft {low bits : Nat} (fits : low < 2 ^ bits) (high : Nat) :
    low ||| high <<< bits = low + high * 2 ^ bits := by
  rw [Nat.or_comm, ← Nat.shiftLeft_add_eq_or_of_lt fits, Nat.shiftLeft_eq, Nat.add_comm]

/-- The number that four bytes are, the least significant one first. -/
theorem toNat_wordOfBytes (a b c d : UInt8) :
    (wordOfBytes a b c d).toNat =
      a.toNat + b.toNat * 2 ^ 8 + c.toNat * 2 ^ 16 + d.toNat * 2 ^ 24 := by
  have ha := a.toNat_lt
  have hb := b.toNat_lt
  have hc := c.toNat_lt
  have hd := d.toNat_lt
  have inWord (x : UInt8) {bits : Nat} (inside : bits ≤ 24) :
      x.toNat <<< bits % 2 ^ 32 = x.toNat <<< bits := by
    apply Nat.mod_eq_of_lt
    rw [Nat.shiftLeft_eq]
    calc x.toNat * 2 ^ bits < 2 ^ 8 * 2 ^ bits :=
          Nat.mul_lt_mul_of_pos_right x.toNat_lt (Nat.two_pow_pos bits)
      _ ≤ 2 ^ 8 * 2 ^ 24 := Nat.mul_le_mul_left _ (Nat.pow_le_pow_right (by decide) inside)
  have two : a.toNat + b.toNat * 2 ^ 8 < 2 ^ 16 := by omega
  have three : a.toNat + b.toNat * 2 ^ 8 + c.toNat * 2 ^ 16 < 2 ^ 24 := by omega
  calc (wordOfBytes a b c d).toNat
      = a.toNat ||| b.toNat <<< 8 % 2 ^ 32 ||| c.toNat <<< 16 % 2 ^ 32 |||
          d.toNat <<< 24 % 2 ^ 32 := rfl
    _ = a.toNat ||| b.toNat <<< 8 ||| c.toNat <<< 16 ||| d.toNat <<< 24 := by
      rw [inWord b (by decide), inWord c (by decide), inWord d (by decide)]
    _ = a.toNat + b.toNat * 2 ^ 8 + c.toNat * 2 ^ 16 + d.toNat * 2 ^ 24 := by
      rw [or_shiftLeft ha, or_shiftLeft two, or_shiftLeft three]

/-- The bytes of a word are those that it was put together from. -/
theorem wordBytes_wordOfBytes (a b c d : UInt8) :
    wordBytes (wordOfBytes a b c d) = [a, b, c, d] := by
  have value := toNat_wordOfBytes a b c d
  have ha := a.toNat_lt
  have hb := b.toNat_lt
  have hc := c.toNat_lt
  have hd := d.toNat_lt
  generalize wordOfBytes a b c d = w at value
  have shifted (bits : Nat) : w.toNat >>> bits = w.toNat / 2 ^ bits :=
    Nat.shiftRight_eq_div_pow w.toNat bits
  simp only [wordBytes, List.cons.injEq, and_true]
  refine ⟨?_, ?_, ?_, ?_⟩ <;> apply UInt8.toNat_inj.1 <;> simp [shifted] <;> omega

/-- Four bytes are a word, and what is left over is none. -/
theorem length_wordsOfBytes (bytes : List UInt8) :
    (wordsOfBytes bytes).length = bytes.length / 4 := by
  induction bytes using wordsOfBytes.induct with
  | case1 a b c d rest ih =>
      simp only [wordsOfBytes, List.length_cons, ih]
      omega
  | case2 bytes few =>
      have short : bytes.length < 4 := by
        rcases bytes with _ | ⟨a, _ | ⟨b, _ | ⟨c, _ | ⟨d, rest⟩⟩⟩⟩
        case cons.cons.cons.cons => exact absurd rfl (few a b c d rest)
        all_goals simp
      rw [wordsOfBytes.eq_2 bytes few, Nat.div_eq_of_lt short]
      rfl

/-- Whole words are written again as they were read. -/
theorem flatMap_wordsOfBytes {bytes : List UInt8} (whole : bytes.length % 4 = 0) :
    (wordsOfBytes bytes).flatMap wordBytes = bytes := by
  induction bytes using wordsOfBytes.induct with
  | case1 a b c d rest ih =>
      have wholeRest : rest.length % 4 = 0 := by
        simp only [List.length_cons] at whole
        omega
      simp only [wordsOfBytes, List.flatMap_cons, wordBytes_wordOfBytes, ih wholeRest,
        List.cons_append, List.nil_append]
  | case2 bytes few =>
      have none : bytes = [] := by
        rcases bytes with _ | ⟨a, _ | ⟨b, _ | ⟨c, _ | ⟨d, rest⟩⟩⟩⟩
        case nil => rfl
        case cons.cons.cons.cons => exact absurd rfl (few a b c d rest)
        all_goals simp at whole
      rw [none]
      rfl

/-! ## The length that bytes claim -/

/-- The number in the upper half of the second word of some bytes. -/
def lengthField (bytes : List UInt8) : Nat :=
  (bytes[6]?.getD 0).toNat + (bytes[7]?.getD 0).toNat * 2 ^ 8

theorem lengthField_lt (bytes : List UInt8) : lengthField bytes < 2 ^ 16 := by
  have low := (bytes[6]?.getD 0).toNat_lt
  have high := (bytes[7]?.getD 0).toNat_lt
  unfold lengthField
  omega

theorem declaredLength_wordsOfBytes (direction : Direction) (connection : Connection)
    {bytes : List UInt8} (header : headerBytes ≤ bytes.length) :
    (⟨direction, connection, wordsOfBytes bytes⟩ : Message).declaredLength =
      lengthField bytes := by
  match bytes, header with
  | _ :: _ :: _ :: _ :: a :: b :: c :: d :: rest, _ =>
      have value := toNat_wordOfBytes a b c d
      have ha := a.toNat_lt
      have hb := b.toNat_lt
      show (wordOfBytes a b c d >>> 16).toNat = c.toNat + d.toNat * 2 ^ 8
      rw [UInt32.toNat_shiftRight, Nat.shiftRight_eq_div_pow, value]
      simp only [UInt32.reduceToNat, Nat.reduceMod]
      omega

/-- A whole number of words with a header has no flaw exactly if the bytes claim their own
length. -/
theorem flaw?_wordsOfBytes (direction : Direction) (connection : Connection) {bytes : List UInt8}
    (header : headerBytes ≤ bytes.length) (whole : bytes.length % 4 = 0) :
    (⟨direction, connection, wordsOfBytes bytes⟩ : Message).flaw? = none ↔
      lengthField bytes = bytes.length := by
  rw [flaw?_eq_none_iff, declaredLength_wordsOfBytes direction connection header, byteLength,
    length_wordsOfBytes]
  unfold headerBytes at header
  omega

/-! ## Reading and writing -/

variable {direction : Direction} {connection : Connection} {bytes : List UInt8} {m : Message}

/-- **What is accepted.**  At least a header, in whole words, that claims its own length. -/
theorem decode_eq_ok_iff :
    decode direction connection bytes = .ok m ↔
      (headerBytes ≤ bytes.length ∧ bytes.length % 4 = 0 ∧ lengthField bytes = bytes.length) ∧
        m = ⟨direction, connection, wordsOfBytes bytes⟩ := by
  unfold decode
  by_cases short : bytes.length < headerBytes
  · have refused := Nat.not_le.2 short
    simp [short, refused]
  have header : headerBytes ≤ bytes.length := Nat.not_lt.1 short
  by_cases whole : bytes.length % 4 = 0
  · have sound := flaw?_wordsOfBytes direction connection header whole
    cases flaw : (⟨direction, connection, wordsOfBytes bytes⟩ : Message).flaw? with
    | none =>
        have claims := sound.1 flaw
        simp [short, header, whole, claims, flaw, eq_comm]
    | some reason =>
        have claims : lengthField bytes ≠ bytes.length := fun claims => by
          cases flaw.symm.trans (sound.2 claims)
        simp [short, whole, claims, flaw]
  · simp [short, whole]

theorem flaw_of_decode_eq_error {fault : Fault}
    (refused : decode direction connection bytes = .error fault) :
    ∃ flaw : Flaw, fault = flaw.fault := by
  unfold decode at refused
  split at refused
  · cases refused
    exact ⟨_, rfl⟩
  · split at refused
    · cases refused
      exact ⟨_, rfl⟩
    · simp only at refused
      split at refused
      · cases refused
        exact ⟨_, rfl⟩
      · cases refused

theorem length_toBytes (m : Message) : m.toBytes.length = m.byteLength := by
  simp only [toBytes, List.length_flatMap, wordBytes, List.length_cons, List.length_nil,
    List.map_const', List.sum_replicate_nat, byteLength]

/-- **A message without flaw is read back from its bytes.** -/
theorem decode_toBytes (wellFormed : m.flaw? = none) :
    decode m.direction m.connection m.toBytes = .ok m := by
  obtain ⟨header, claims⟩ := m.flaw?_eq_none_iff.1 wellFormed
  have words := wordsOfBytes_toBytes m
  have length := length_toBytes m
  unfold byteLength at length claims
  have enough : headerBytes ≤ m.toBytes.length := by
    unfold headerBytes
    omega
  have field := declaredLength_wordsOfBytes m.direction m.connection enough
  rw [words] at field
  rw [decode_eq_ok_iff, words]
  exact ⟨⟨enough, by omega, by rw [← field, length, ← claims]⟩, rfl⟩

/-- **Reading and writing are inverse to each other.**  Bytes are accepted exactly if they are at
least eight, a whole number of words, and as many as the upper half of their second word says; so
`2 ^ 16` of them or more never are.  What is accepted has no flaw and is written as the same
bytes, and every refusal is a fault of the wire format.  And a message without flaw is read back,
word for word, from the bytes that it is written as. -/
theorem decode_inverts_toBytes (direction : Direction) (connection : Connection)
    (bytes : List UInt8) :
    ((∃ m, decode direction connection bytes = .ok m) ↔
      8 ≤ bytes.length ∧ bytes.length % 4 = 0 ∧ lengthField bytes = bytes.length) ∧
    (2 ^ 16 ≤ bytes.length → ∃ fault, decode direction connection bytes = .error fault) ∧
    (∀ m, decode direction connection bytes = .ok m →
      m.toBytes = bytes ∧ m.flaw? = none ∧ m.direction = direction ∧ m.connection = connection) ∧
    (∀ fault, decode direction connection bytes = .error fault → fault.code = "PROTOCOL_FORMAT") ∧
    ∀ m : Message, m.flaw? = none → decode m.direction m.connection m.toBytes = .ok m := by
  refine ⟨?_, ?_, ?_, ?_, fun m wellFormed => decode_toBytes wellFormed⟩
  · constructor
    · rintro ⟨m, accepted⟩
      exact (decode_eq_ok_iff.1 accepted).1
    · intro known
      exact ⟨_, decode_eq_ok_iff.2 ⟨known, rfl⟩⟩
  · intro long
    cases decoded : decode direction connection bytes with
    | error fault => exact ⟨fault, rfl⟩
    | ok m =>
        obtain ⟨⟨-, -, claims⟩, -⟩ := decode_eq_ok_iff.1 decoded
        have small := lengthField_lt bytes
        omega
  · intro m accepted
    obtain ⟨⟨header, whole, claims⟩, rfl⟩ := decode_eq_ok_iff.1 accepted
    exact ⟨flatMap_wordsOfBytes whole,
      (flaw?_wordsOfBytes direction connection header whole).2 claims, rfl, rfl⟩
  · intro fault refused
    obtain ⟨flaw, rfl⟩ := flaw_of_decode_eq_error refused
    rfl

namespace Example

/-- The bytes of a request for the sync callback 3. -/
def syncBytes : List UInt8 :=
  [1, 0, 0, 0, 0, 0, 12, 0, 3, 0, 0, 0]

/-- The request is read from its bytes and written as them.  With one word cut off they claim more
than there is, and they are refused. -/
theorem sync_bytes_are_one_message :
    let request := message .fromClient 1 0 [3]
    request.flaw? = none ∧ request.toBytes = syncBytes ∧
      decode .fromClient ⟨1, none⟩ syncBytes = .ok request ∧
      lengthField (syncBytes.take 8) = 12 ∧
      ¬ ∃ m, decode .fromClient ⟨1, none⟩ (syncBytes.take 8) = .ok m := by
  intro request
  have wellFormed : request.flaw? = none := by decide
  have bytes : request.toBytes = syncBytes := by decide
  obtain ⟨-, -, -, -, back⟩ := decode_inverts_toBytes .fromClient ⟨1, none⟩ syncBytes
  obtain ⟨accepts, -⟩ := decode_inverts_toBytes .fromClient ⟨1, none⟩ (syncBytes.take 8)
  refine ⟨wellFormed, bytes, bytes ▸ back request wellFormed, by decide, ?_⟩
  rw [accepts]
  decide

end Example

end Message

end WaylandProxy
