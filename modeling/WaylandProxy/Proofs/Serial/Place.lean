/-
# Proofs.Serial.Place -- the one word that an observation may change

Of a message the tracker treats at most one word as a serial (`Tracker.serialWord?`): in a
message of the server the one that it renumbers, in a message of the client the one where a
serial comes back.  Every other word leaves an observation as it came in
(`observe_sameBut`).

Where that word stands is said by the tables, or it is the word of the answer to the oldest
pending sync callback (`Tracker.IsSerial`); in either case it is an argument, so the object,
the header and the number of words stay, and with them whether the message is well formed.
-/
import WaylandProxy.Proofs.Serial.Sequence

namespace WaylandProxy

set_option autoImplicit false

/-! ## The same message but for one word -/

namespace Message

/-- Both are the same message, but the word at one index may differ. -/
structure SameBut (word : Option Nat) (m after : Message) : Prop where
  direction : after.direction = m.direction
  connection : after.connection = m.connection
  length : after.words.length = m.words.length
  others : ∀ index, word ≠ some index → after.word? index = m.word? index

namespace SameBut

variable {word : Option Nat} {m middle after : Message}

theorem refl (word : Option Nat) (m : Message) : SameBut word m m :=
  ⟨rfl, rfl, rfl, fun _ _ => rfl⟩

theorem symm (same : SameBut word m after) : SameBut word after m :=
  ⟨same.direction.symm, same.connection.symm, same.length.symm,
    fun index other => (same.others index other).symm⟩

theorem trans (first : SameBut word m middle) (second : SameBut word middle after) :
    SameBut word m after :=
  ⟨second.direction.trans first.direction, second.connection.trans first.connection,
    second.length.trans first.length,
    fun index other => (second.others index other).trans (first.others index other)⟩

theorem set (m : Message) (index : Nat) (value : UInt32) :
    SameBut (some index) m { m with words := m.words.set index value } := by
  refine ⟨rfl, rfl, List.length_set, fun other differs => ?_⟩
  exact List.getElem?_set_ne fun same => differs (congrArg some same)

theorem eq_of_none (same : SameBut none m after) : after = m := by
  obtain ⟨direction, connection, words⟩ := m
  obtain ⟨direction', connection', words'⟩ := after
  obtain ⟨sameDirection, sameConnection, -, others⟩ := same
  cases sameDirection
  cases sameConnection
  have sameWords : words' = words :=
    List.ext_getElem? fun index => others index (Option.some_ne_none index).symm
  rw [sameWords]

/-- Where only one word differs, the message is the other one with that word replaced. -/
theorem eq_or_set (same : SameBut word m after) :
    after = m ∨ ∃ index value, word = some index ∧ index < m.words.length ∧
      after = { m with words := m.words.set index value } := by
  cases word with
  | none => exact .inl same.eq_of_none
  | some index =>
      have outside (other : Nat) (differs : index ≠ other) :
          after.words[other]? = m.words[other]? :=
        same.others other fun equal => differs (Option.some.inj equal)
      by_cases inside : index < m.words.length
      · obtain ⟨value, here⟩ : ∃ value, after.words[index]? = some value :=
          ⟨_, List.getElem?_eq_getElem (same.length ▸ inside)⟩
        refine .inr ⟨index, value, rfl, inside, ?_⟩
        obtain ⟨direction, connection, length, -⟩ := same
        obtain ⟨direction', connection', words'⟩ := after
        cases direction
        cases connection
        congr 1
        apply List.ext_getElem?
        intro other
        by_cases same : index = other
        · subst same
          rw [List.getElem?_set_self inside]
          exact here
        · rw [List.getElem?_set_ne same]
          exact outside other same
      · -- there is no such word, so nothing can differ
        refine .inl (eq_of_none ⟨same.direction, same.connection, same.length, ?_⟩)
        intro other _
        by_cases here : index = other
        · subst here
          have beyond := Nat.not_lt.1 inside
          exact (List.getElem?_eq_none (same.length ▸ beyond)).trans
            (List.getElem?_eq_none beyond).symm
        · exact outside other here

variable (argument : ∀ index, word = some index → firstArgument ≤ index)
include argument

/-- A change of an argument leaves the words of the header alone. -/
theorem header_word (same : SameBut word m after) {index : Nat} (inHeader : index < firstArgument) :
    after.word? index = m.word? index :=
  same.others index fun here => absurd inHeader (Nat.not_lt.2 (argument index here))

theorem object_eq (same : SameBut word m after) : after.object = m.object :=
  congrArg (·.getD 0) (same.header_word argument (by decide : 0 < firstArgument))

theorem header_eq (same : SameBut word m after) : after.header = m.header :=
  congrArg (·.getD 0) (same.header_word argument (by decide : 1 < firstArgument))

theorem opcode_eq (same : SameBut word m after) : after.opcode = m.opcode :=
  congrArg UInt32.toUInt16 (same.header_eq argument)

/-- A change of an argument does not make a message well formed or malformed. -/
theorem flaw?_eq (same : SameBut word m after) : after.flaw? = m.flaw? := by
  have declared : after.declaredLength = m.declaredLength := by
    unfold declaredLength
    rw [same.header_eq argument]
  have bytes : after.byteLength = m.byteLength := congrArg (· * 4) same.length
  unfold flaw?
  rw [same.length, declared, bytes]

end SameBut

end Message

open Message (SameBut)

/-! ## Where the tables put a serial -/

namespace SerialPlace

theorem find?_eq_some {table : List SerialPlace} {interface : String} {opcode : UInt16}
    {word : Nat} (found : find? table interface opcode = some word) :
    ⟨interface, opcode, word⟩ ∈ table := by
  obtain ⟨place, inTable, rfl⟩ := Option.map_eq_some_iff.1 found
  have key := List.find?_some inTable
  simp only [decide_eq_true_eq] at key
  obtain ⟨rfl, rfl⟩ := key
  exact List.mem_of_find?_eq_some inTable

theorem issuing_argument : ∀ place ∈ issuing, Message.firstArgument ≤ place.word := by
  decide

theorem echoing_argument : ∀ place ∈ echoing, Message.firstArgument ≤ place.word := by
  decide

end SerialPlace

/-! ## Observations -/

namespace Tracker

/-- A message of either peer, resolved as `resolved`, at `now`. -/
def observe (t : Tracker) (resolved : Option Resolved) (m : Message) (now : Nat) : Observed :=
  match m.direction with
  | .fromServer => t.observeServer resolved m now
  | .fromClient => t.observeClient resolved m

/-- The word of a client's message where a serial comes back. -/
def echoedWord? (resolved : Option Resolved) (m : Message) : Option Nat :=
  if m.flaw?.isSome then none
  else
    let word := resolved.bind fun r => SerialPlace.find? SerialPlace.echoing r.interface m.opcode
    word.filter fun word => (m.word? word).isSome

/-- The word of a message that the tracker treats as a serial. -/
def serialWord? (t : Tracker) (resolved : Option Resolved) (m : Message) : Option Nat :=
  match m.direction with
  | .fromServer => t.renumberedWord? resolved m
  | .fromClient => echoedWord? resolved m

/-- A serial stands at this word: in a message of the server by the table of serials handed
out, or because the message answers the oldest pending sync callback, and in a message of the
client by the table of serials handed back. -/
def IsSerial (t : Tracker) (resolved : Option Resolved) (m : Message) (word : Nat) : Prop :=
  match m.direction with
  | .fromServer =>
    (∃ r, resolved = some r ∧
      SerialPlace.find? SerialPlace.issuing r.interface m.opcode = some word) ∨
    (m.opcode = doneOpcode ∧ t.syncs.oldest? = some m.object ∧ word = 2)
  | .fromClient =>
    ∃ r, resolved = some r ∧
      SerialPlace.find? SerialPlace.echoing r.interface m.opcode = some word

variable {t : Tracker} {resolved : Option Resolved} {m : Message} {word : Nat}

theorem isSerial_of_renumberedWord? (server : m.direction = .fromServer)
    (renumbered : t.renumberedWord? resolved m = some word) : t.IsSerial resolved m word := by
  unfold IsSerial
  simp only [server]
  unfold renumberedWord? at renumbered
  split at renumbered
  · cases renumbered
  · split at renumbered
    · cases renumbered
    · obtain ⟨found, -⟩ := Option.filter_eq_some_iff.1 renumbered
      split at found
      · rename_i answers
        exact .inr ⟨answers.1, answers.2, (Option.some.inj found).symm⟩
      · obtain ⟨r, isResolved, inTable⟩ := Option.bind_eq_some_iff.1 found
        exact .inl ⟨r, isResolved, inTable⟩

theorem isSerial_of_echoedWord? (client : m.direction = .fromClient)
    (echoed : echoedWord? resolved m = some word) : t.IsSerial resolved m word := by
  unfold IsSerial
  simp only [client]
  unfold echoedWord? at echoed
  split at echoed
  · cases echoed
  · obtain ⟨found, -⟩ := Option.filter_eq_some_iff.1 echoed
    exact Option.bind_eq_some_iff.1 found

/-- The word that the tracker treats as a serial is one by the tables or by the answer to a
sync callback. -/
theorem isSerial_of_serialWord? (treated : t.serialWord? resolved m = some word) :
    t.IsSerial resolved m word := by
  unfold serialWord? at treated
  cases direction : m.direction with
  | fromServer => exact isSerial_of_renumberedWord? direction (by simpa [direction] using treated)
  | fromClient => exact isSerial_of_echoedWord? direction (by simpa [direction] using treated)

theorem IsSerial.argument (serial : t.IsSerial resolved m word) :
    Message.firstArgument ≤ word := by
  unfold IsSerial at serial
  cases direction : m.direction with
  | fromServer =>
      simp only [direction] at serial
      obtain ⟨r, -, inTable⟩ | ⟨-, -, isTwo⟩ := serial
      · exact SerialPlace.issuing_argument _ (SerialPlace.find?_eq_some inTable)
      · exact isTwo.symm.le
  | fromClient =>
      simp only [direction] at serial
      obtain ⟨r, -, inTable⟩ := serial
      exact SerialPlace.echoing_argument _ (SerialPlace.find?_eq_some inTable)

/-- A request that echoes no serial goes through as it is. -/
theorem observeRequest_message (t : Tracker) (request : Request) (m : Message) :
    (t.observeRequest request m).message = m := by
  unfold observeRequest
  cases request <;> simp only <;> (repeat' split) <;> rfl

theorem Renumbers.sameBut {place : Option Nat} {seen : Observed}
    (renumbers : t.Renumbers m place seen) : SameBut place m seen.message := by
  cases renumbers with
  | nothing _ message given issued =>
      rw [message]
      exact .refl _ m
  | word word origin _ has message given errors issued =>
      rw [message]
      exact .set m word _

theorem restore_sameBut (t : Tracker) (m : Message) (word : Nat) :
    SameBut ((some word).filter fun word => (m.word? word).isSome) m
      (t.restore m word).message := by
  cases has : m.word? word with
  | none =>
      rw [t.restore_of_none has]
      exact .refl _ m
  | some seen =>
      rw [t.restore_of_word? has, Option.filter_some_pos (by simp [has])]
      exact .set m word _

theorem observeClient_sameBut (t : Tracker) (resolved : Option Resolved) (m : Message) :
    SameBut (echoedWord? resolved m) m (t.observeClient resolved m).message := by
  unfold echoedWord? observeClient
  cases m.flaw? with
  | some flaw => exact .refl _ m
  | none =>
      cases resolved with
      | none => exact .refl _ m
      | some r =>
          simp only [Option.isSome_none, Bool.false_eq_true, if_false, Option.bind_some]
          cases SerialPlace.find? SerialPlace.echoing r.interface m.opcode with
          | none =>
              show SameBut none m (t.observeRequest _ m).message
              rw [t.observeRequest_message]
              exact .refl _ m
          | some word => exact t.restore_sameBut m word

/-- **An observation changes at most the serial.** -/
theorem observe_sameBut (t : Tracker) (resolved : Option Resolved) (m : Message) (now : Nat) :
    SameBut (t.serialWord? resolved m) m (t.observe resolved m now).message := by
  unfold serialWord? observe
  cases m.direction with
  | fromServer => exact (t.observeServer_renumbers resolved m now).sameBut
  | fromClient => exact t.observeClient_sameBut resolved m

end Tracker

end WaylandProxy
