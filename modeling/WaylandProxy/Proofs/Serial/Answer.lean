/-
# Proofs.Serial.Answer -- what an event is to the pending callbacks

An event of the server meets the tracker in one of three ways.  With the opcode of `done` it may
come from the frame callback that is waited for, or else from the oldest pending sync callback;
then it is taken for the answer, whatever object the map has at its id.  Every other event is
looked up in the table of serials and touches no callback.

Each of the three has its equation (`observeEvent_frame`, `observeEvent_sync`,
`observeEvent_other`), so that what holds of an event is proved for the three of them.
-/
import WaylandProxy.Proofs.Serial.Place

namespace WaylandProxy

set_option autoImplicit false

namespace Tracker

/-- The event is taken for the answer to the frame callback. -/
def AnswersFrame (t : Tracker) (m : Message) : Prop :=
  m.opcode = doneOpcode ∧ t.frame = some m.object

/-- The event comes from the oldest pending sync callback. -/
def AnswersSync (t : Tracker) (m : Message) : Prop :=
  m.opcode = doneOpcode ∧ t.syncs.oldest? = some m.object

def withoutOldestSync (t : Tracker) : Tracker :=
  { t with
    syncs := match t.syncs.pop with
      | some (_, rest) => rest
      | none => t.syncs }

/-- The word of an event that is a serial by the table. -/
def issuingWord? (resolved : Option Resolved) (m : Message) : Option Nat :=
  resolved.bind fun r => SerialPlace.find? SerialPlace.issuing r.interface m.opcode

/-- The serial at a word is renumbered, where there is such a word to look for. -/
def renumberAt (t : Tracker) (m : Message) : Option Nat → Observed
  | none => t.pass m
  | some word => t.renumber m word

variable {t : Tracker} {m : Message}

theorem observeEvent_frame (answers : t.AnswersFrame m) (resolved : Option Resolved) (now : Nat) :
    t.observeEvent resolved m now =
      match m.word? 2 with
      | some stamp => { t with frame := none, clock := ⟨now, stamp⟩ }.pass m
      | none => { t with frame := none }.malformed m "frame done without timestamp" :=
  if_pos answers

theorem observeEvent_sync (otherwise : ¬ t.AnswersFrame m) (answers : t.AnswersSync m)
    (resolved : Option Resolved) (now : Nat) :
    t.observeEvent resolved m now = t.withoutOldestSync.renumber m 2 :=
  (if_neg otherwise).trans (if_pos answers)

theorem observeEvent_other (noFrame : ¬ t.AnswersFrame m) (noSync : ¬ t.AnswersSync m)
    (resolved : Option Resolved) (now : Nat) :
    t.observeEvent resolved m now = t.renumberAt m (issuingWord? resolved m) := by
  refine ((if_neg noFrame).trans (if_neg noSync)).trans ?_
  unfold issuingWord?
  cases resolved with
  | none => rfl
  | some r =>
      simp only [Option.bind_some]
      cases SerialPlace.find? SerialPlace.issuing r.interface m.opcode with
      | none => rfl
      | some word => rfl

theorem observeServer_of_wellFormed (wellFormed : m.flaw? = none) (resolved : Option Resolved)
    (now : Nat) : t.observeServer resolved m now = t.observeEvent resolved m now := by
  unfold observeServer
  rw [wellFormed]

end Tracker

end WaylandProxy
