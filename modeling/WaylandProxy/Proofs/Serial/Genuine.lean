/-
# Proofs.Serial.Genuine -- what a tracker knows of the genuine traffic

The books of a tracker are its last serial and the remembered renumberings; everything else it
learns from the messages of the two peers.  Without its books a tracker is `genuine`.  What an
observation makes of that part depends on that part alone (`observe_genuine`), in every branch:
the books decide which serial goes into a message, but never what becomes of a callback, the
clock, the objects found, the damage, the buffer or the count of malformed messages.

Two trackers with the same genuine part are `Alike`.
-/
import WaylandProxy.Proofs.Serial.Answer

namespace WaylandProxy

set_option autoImplicit false

namespace Tracker

/-- The tracker without its books. -/
def genuine (t : Tracker) : Tracker :=
  { t with serial := none, origins := [] }

/-- Two trackers know the same of the genuine traffic. -/
structure Alike (t other : Tracker) : Prop where
  syncs : other.syncs = t.syncs
  frame : other.frame = t.frame
  clock : other.clock = t.clock
  found : other.found = t.found
  damaged : other.damaged = t.damaged
  damageCommitted : other.damageCommitted = t.damageCommitted
  bufferSize : other.bufferSize = t.bufferSize
  formatErrors : other.formatErrors = t.formatErrors

theorem alike_of_genuine {t other : Tracker} (same : other.genuine = t.genuine) :
    t.Alike other := by
  cases t
  cases other
  simp only [genuine, mk.injEq, true_and] at same
  obtain ⟨syncs, frame, clock, found, damaged, damageCommitted, bufferSize, formatErrors⟩ := same
  exact ⟨syncs, frame, clock, found, damaged, damageCommitted, bufferSize, formatErrors⟩

@[simp] theorem genuine_issue (t : Tracker) (serial : UInt32) :
    (t.issue serial).genuine = t.genuine := rfl

/-- Which word is treated as a serial is no matter of the books. -/
theorem serialWord?_genuine (t : Tracker) (resolved : Option Resolved) (m : Message) :
    t.genuine.serialWord? resolved m = t.serialWord? resolved m := rfl

/-- Which serial goes out changes the books, and a missing one is counted either way. -/
theorem renumber_genuine (t : Tracker) (m : Message) (word : Nat) :
    (t.genuine.renumber m word).tracker.genuine = (t.renumber m word).tracker.genuine := by
  cases has : m.word? word with
  | none =>
      rw [renumber_of_none _ has, renumber_of_none _ has]
      rfl
  | some origin =>
      rw [renumber_of_word? _ has, renumber_of_word? _ has]
      rfl

theorem observeEvent_genuine (t : Tracker) (resolved : Option Resolved) (m : Message)
    (now : Nat) :
    (t.genuine.observeEvent resolved m now).tracker.genuine =
      (t.observeEvent resolved m now).tracker.genuine := by
  by_cases frame : t.AnswersFrame m
  · rw [observeEvent_frame frame, observeEvent_frame (t := t.genuine) frame]
    cases m.word? 2 with
    | none => rfl
    | some stamp => rfl
  · by_cases sync : t.AnswersSync m
    · rw [observeEvent_sync frame sync, observeEvent_sync (t := t.genuine) frame sync]
      exact t.withoutOldestSync.renumber_genuine m 2
    · rw [observeEvent_other frame sync, observeEvent_other (t := t.genuine) frame sync]
      cases issuingWord? resolved m with
      | none => rfl
      | some word => exact t.renumber_genuine m word

theorem restore_genuine (t : Tracker) (m : Message) (word : Nat) :
    (t.genuine.restore m word).tracker.genuine = (t.restore m word).tracker.genuine := by
  cases has : m.word? word with
  | none =>
      rw [restore_of_none _ has, restore_of_none _ has]
      rfl
  | some seen =>
      rw [restore_of_word? _ has, restore_of_word? _ has]
      rfl

theorem observeRequest_genuine (t : Tracker) (request : Request) (m : Message) :
    (t.genuine.observeRequest request m).tracker.genuine =
      (t.observeRequest request m).tracker.genuine := by
  have found : t.genuine.found = t.found := rfl
  have syncs : t.genuine.syncs = t.syncs := rfl
  have damaged : t.genuine.damaged = t.damaged := rfl
  unfold observeRequest
  rw [found, syncs, damaged]
  cases request with
  | sync =>
      cases m.word? 2 with
      | none => rfl
      | some id =>
          simp only
          cases t.syncs.push id with
          | ok syncs => rfl
          | error fault => rfl
  | frame =>
      cases m.word? 2 with
      | none => rfl
      | some id => rfl
  | damage =>
      simp only
      split
      · rfl
      · rfl
  | commit =>
      simp only
      split
      · rfl
      · rfl
  | createBuffer =>
      cases m.word? 4 with
      | none => rfl
      | some width =>
          cases m.word? 5 with
          | none => rfl
          | some height => rfl
  | _ => rfl

/-- **The books decide nothing but serials.**  What an observation makes of the genuine part of
a tracker depends on the genuine part alone. -/
theorem observe_genuine (t : Tracker) (resolved : Option Resolved) (m : Message) (now : Nat) :
    (t.genuine.observe resolved m now).tracker.genuine =
      (t.observe resolved m now).tracker.genuine := by
  unfold observe observeServer observeClient
  cases m.direction with
  | fromServer =>
      cases m.flaw? with
      | some flaw => rfl
      | none => exact t.observeEvent_genuine resolved m now
  | fromClient =>
      cases m.flaw? with
      | some flaw => rfl
      | none =>
          cases resolved with
          | none => rfl
          | some r =>
              simp only
              cases SerialPlace.find? SerialPlace.echoing r.interface m.opcode with
              | none => exact t.observeRequest_genuine _ m
              | some word => exact t.restore_genuine m word

end Tracker

end WaylandProxy
