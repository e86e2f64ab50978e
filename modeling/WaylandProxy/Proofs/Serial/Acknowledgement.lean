/-
# Proofs.Serial.Acknowledgement -- acknowledgements in the server's numbering

A tracker takes messages of both peers and, now and then, gives the next serial to an event
of our own; `Tracker.machine` runs it, and what it gives out are the issues.  After every
run from the start the tracker has a `Ledger` of its issues (`ledger_run`).

As long as fewer than `2 ^ 32` serials went out they are all different, so the search among
the remembered renumberings can only find the right one.  A serial that the client echoes
is therefore given back as the server wrote it if it went out in one of the latest 256
renumberings, and is left as it is otherwise (`echo_restored`).
-/
import Mathlib.Data.List.Nodup
import WaylandProxy.Proofs.Machine
import WaylandProxy.Proofs.Serial.Sequence
import WaylandProxy.Proofs.Wire.Words

namespace WaylandProxy

set_option autoImplicit false

namespace Tracker

inductive Move where
  /-- Observe a message of the server. -/
  | server (resolved : Option Resolved) (m : Message) (now : Nat)
  /-- Observe a message of the client. -/
  | client (resolved : Option Resolved) (m : Message)
  /-- Look up the next serial and take it. -/
  | take

/-- The tracker as a machine that gives out serials. -/
def machine : Machine Tracker Move Issue where
  step t
    | .server resolved m now => (t.observeServer resolved m now).tracker
    | .client resolved m => (t.observeClient resolved m).tracker
    | .take => t.issue t.nextSerial
  out t
    | .server resolved m now =>
      (t.issueIn? resolved m (t.observeServer resolved m now).message).toList
    | .client .. => []
    | .take => [⟨t.nextSerial, none⟩]

theorem Ledger.move {issues : List Issue} {t : Tracker} (ledger : Ledger issues t)
    (move : Move) : Ledger (issues ++ machine.out t move) (machine.step t move) := by
  cases move with
  | server resolved m now => exact ledger.after (t.observeServer_issued resolved m now).1
  | client resolved m => exact ledger.after (t.observeClient_issued resolved m)
  | take => exact ledger.after t.issue_issued

/-- After every run the tracker has a ledger of what it gave out. -/
theorem ledger_run (now : Nat) (moves : List Move) :
    Ledger (machine.outputs (start now) moves) (machine.run (start now) moves) :=
  machine.holds_after (fun t issues => Ledger issues t) (ledger_start now)
    (fun _ _ move ledger => ledger.move move) moves

end Tracker

/-! ## Different serials -/

namespace Issue

/-- Fewer than `2 ^ 32` consecutive serials are all different. -/
theorem Consecutive.serials_nodup {issues : List Issue} (consecutive : Consecutive issues)
    (few : issues.length < 2 ^ 32) : (issues.map serial).Nodup := by
  rw [List.nodup_iff_pairwise_ne, List.pairwise_map, List.pairwise_iff_getElem]
  intro j k insideJ insideK before
  exact consecutive.serial_ne (List.getElem?_eq_getElem insideJ)
    (List.getElem?_eq_getElem insideK) before (by omega)

theorem renumberings_serials (issues : List Issue) :
    ((renumberings issues).map Prod.fst).Sublist (issues.map serial) := by
  induction issues with
  | nil => exact .slnil
  | cons i rest ih =>
      obtain ⟨serial, origin⟩ := i
      cases origin with
      | none => exact ih.cons _
      | some origin => exact ih.cons_cons _

end Issue

namespace Tracker

/-- The word that echoes a serial is all that changes, and it changes to what `originOf`
knows. -/
theorem observeClient_echo (t : Tracker) {r : Resolved} {m : Message} {word : Nat} {v : UInt32}
    (wellFormed : m.flaw? = none)
    (echoes : SerialPlace.find? SerialPlace.echoing r.interface m.opcode = some word)
    (carries : m.word? word = some v) :
    t.observeClient (some r) m =
      t.pass { m with words := m.words.set word ((t.originOf v).getD v) } := by
  simp only [observeClient, wellFormed, echoes]
  exact t.restore_of_word? carries

/-- **Acknowledgements go back in the server's numbering.**  A serial of one of the latest
256 renumberings is replaced by the serial that the server wrote; any other value stays,
be it unknown, older, or taken for an event of our own.  Nothing else changes. -/
theorem echo_restored (now : Nat) (moves : List Move)
    (few : (machine.outputs (start now) moves).length < 2 ^ 32) (r : Resolved) (m : Message)
    (word : Nat) (v : UInt32) (wellFormed : m.flaw? = none)
    (echoes : SerialPlace.find? SerialPlace.echoing r.interface m.opcode = some word)
    (carries : m.word? word = some v) :
    let t := machine.run (start now) moves
    let issues := machine.outputs (start now) moves
    let latestFirst := (Issue.renumberings issues).reverse
    let seen := t.observeClient (some r) m
    seen.tracker = t ∧ seen.report = none ∧
      (∀ origin, (v, origin) ∈ latestFirst.take 256 →
        seen.message = { m with words := m.words.set word origin }) ∧
      ((∀ origin, (v, origin) ∉ latestFirst.take 256) → seen.message = m) ∧
      (∀ origin, (v, origin) ∈ latestFirst.drop 256 → seen.message = m) ∧
      (⟨v, none⟩ ∈ issues → seen.message = m) := by
  intro t issues latestFirst seen
  have ledger : Ledger issues t := ledger_run now moves
  have serials : (issues.map Issue.serial).Nodup := ledger.consecutive.serials_nodup few
  have keys : (latestFirst.map Prod.fst).Nodup := by
    rw [List.map_reverse, List.nodup_reverse]
    exact serials.sublist (Issue.renumberings_serials issues)
  -- no serial went out twice, so the search has one pair at most to find
  have known : t.originOf v = (latestFirst.take 256).lookup v := by
    rw [originOf, ledger.origins]
    rfl
  have echo : seen = t.pass { m with words := m.words.set word ((t.originOf v).getD v) } :=
    t.observeClient_echo wellFormed echoes carries
  have unknown : (∀ origin, (v, origin) ∉ latestFirst.take 256) → seen.message = m := by
    intro absent
    obtain ⟨inside, here⟩ := List.getElem?_eq_some_iff.1 carries
    have notFound : t.originOf v = none := by
      rw [known, List.lookup_eq_none_iff]
      intro entry member
      have differs : v ≠ entry.1 := fun same => absent entry.2 (same ▸ member)
      simpa using differs
    have same : m.words.set word v = m.words := by rw [← here, List.set_getElem_self]
    rw [echo, notFound]
    simp [pass, same]
  refine ⟨by rw [echo]; rfl, by rw [echo]; rfl, ?_, unknown, ?_, ?_⟩
  · intro origin recent
    have found : t.originOf v = some origin := by
      rw [known]
      refine lookup_of_mem ?_ recent
      rw [List.map_take]
      exact keys.sublist (List.take_sublist _ _)
    rw [echo, found]
    rfl
  · intro origin older
    apply unknown
    intro other recent
    rw [← List.take_append_drop 256 latestFirst, List.map_append, List.nodup_append] at keys
    exact keys.2.2 v (List.mem_map_of_mem recent) v (List.mem_map_of_mem older) rfl
  · intro own
    apply unknown
    intro origin recent
    have renumbered : (⟨v, some origin⟩ : Issue) ∈ issues :=
      Issue.mem_renumberings.1 (List.mem_reverse.1 (List.mem_of_mem_take recent))
    have same := List.inj_on_of_nodup_map serials own renumbered rfl
    cases same

namespace Example

open Message.Example (message)

def keyboard : Resolved := ⟨"wl_keyboard", none⟩

def pointer : Resolved := ⟨"wl_pointer", none⟩

/-- The server's 41 is adopted, 42 is taken, and the server's 100 goes out as 43. -/
def injectedBetween : List Move :=
  [.server (some keyboard) (message .fromServer 14 1 [41, 12, 0]) 0, .take,
    .server (some keyboard) (message .fromServer 14 3 [100, 7, 30, 1]) 0]

def cursor (serial : UInt32) : Message :=
  message .fromClient 13 0 [serial, 12, 0, 0]

theorem echo_restored_across_injection :
    (machine.outputs (start 0) injectedBetween).length < 2 ^ 32 ∧
      (cursor 43).flaw? = none ∧
      SerialPlace.find? SerialPlace.echoing pointer.interface (cursor 43).opcode = some 2 ∧
      (cursor 43).word? 2 = some 43 ∧
      ((machine.run (start 0) injectedBetween).observeClient (some pointer) (cursor 43)).message =
        cursor 100 := by
  have few : (machine.outputs (start 0) injectedBetween).length < 2 ^ 32 := by decide
  have wellFormed : (cursor 43).flaw? = none := by decide
  have echoes : SerialPlace.find? SerialPlace.echoing pointer.interface (cursor 43).opcode =
      some 2 := by decide
  have carries : (cursor 43).word? 2 = some 43 := by decide
  obtain ⟨-, -, restored, -⟩ :=
    echo_restored 0 injectedBetween few pointer (cursor 43) 2 43 wellFormed echoes carries
  exact ⟨few, wellFormed, echoes, carries, restored 100 (by decide)⟩

end Example

end Tracker

end WaylandProxy
