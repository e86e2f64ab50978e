/-
# Proofs.Input.LikeGenuine -- a synthesized gesture is to the tracker what a genuine one is

The layout of a serial stands in two places: the table says where the server's events carry one,
and a gesture is made into messages by hand, with a rule of its own for which gestures take a
serial.  They agree.  By the table the action of a gesture carries a serial, in the first argument,
exactly if the gesture takes one, and a frame never does (`issuing_gesture`, `issuing_frame`).

So a tracker that met the messages of a gesture as events of the server would find in them the
serial that it gives out next: it would put it in its own place, and go on from there as it does
when the gesture is written.  That takes a message to be met as an event at all and not as the
answer to a callback, so the ids of the client's pointer and keyboard must not be those of the
callbacks that are waited for.
-/
import WaylandProxy.Proofs.Input.Attempt
import WaylandProxy.Proofs.Pass.Equipped

namespace WaylandProxy

set_option autoImplicit false

/-- The interface of the object that a gesture is addressed to. -/
def Gesture.interface (gesture : Gesture) : String :=
  if gesture.isPointer then "wl_pointer" else "wl_keyboard"

/-- By the table the action of a gesture carries a serial exactly if the gesture takes one. -/
theorem issuing_gesture (gesture : Gesture) :
    SerialPlace.find? SerialPlace.issuing gesture.interface gesture.opcode =
      if gesture.carriesSerial then some 2 else none := by
  cases gesture <;> rfl

/-- By the table a frame carries no serial. -/
theorem issuing_frame :
    SerialPlace.find? SerialPlace.issuing "wl_pointer" Synthesizer.pointerFrame = none := by
  decide

/-! ## Where a gesture goes -/

/-- The object that a gesture is addressed to, if it is known. -/
def Tracker.targetOf (t : Tracker) (gesture : Gesture) : Option UInt32 :=
  if gesture.isPointer then t.found.pointer else t.found.keyboard

namespace Synthesizer

variable {t : Tracker} {connection : Connection} {serial : UInt32} {now : Nat}

/-- An id that a gesture needs, or the fault of not knowing it. -/
def known (what : String) : Option UInt32 → Except Fault UInt32
  | some id => .ok id
  | none => .error (.internal ("no " ++ what ++ " discovered"))

theorem eq_some_of_known {what : String} {id : Option UInt32} {object : UInt32}
    (is : known what id = .ok object) : id = some object := by
  cases id with
  | none => cases is
  | some id => exact congrArg some (Except.ok.inj is)

/-- The messages of a gesture go to its object, which is known. -/
theorem materialize_fit {gesture : Gesture} {messages : List Message}
    (built : materialize gesture connection t serial now = .ok messages) :
    ∃ object, t.targetOf gesture = some object ∧ ∀ m ∈ messages, Fit object m := by
  have onPointer {pointer : UInt32} {opcode : UInt16} {arguments : List Argument}
      {action frame : Message} (is : known "pointer" t.found.pointer = .ok pointer)
      (first : Message.build .fromServer connection pointer opcode arguments = .ok action)
      (second : Message.build .fromServer connection pointer pointerFrame [] = .ok frame) :
      ∃ object, t.found.pointer = some object ∧ ∀ m ∈ [action, frame], Fit object m :=
    ⟨pointer, eq_some_of_known is, List.forall_mem_cons.2
      ⟨fit_of_build first, List.forall_mem_singleton.2 (fit_of_build second)⟩⟩
  cases gesture with
  | key code pressed =>
      simp only [materialize, bind_eq_ok] at built
      obtain ⟨keyboard, is, key, builtKey, done⟩ := built
      cases done
      have is : known "keyboard" t.found.keyboard = .ok keyboard := is
      exact ⟨keyboard, eq_some_of_known is, List.forall_mem_singleton.2 (fit_of_build builtKey)⟩
  | enter x y =>
      simp only [materialize, bind_eq_ok] at built
      obtain ⟨-, -, surface, -, pointer, is, action, builtAction, frame, builtFrame, done⟩ :=
        built
      cases done
      exact onPointer is builtAction builtFrame
  | leave =>
      simp only [materialize, bind_eq_ok] at built
      obtain ⟨-, -, surface, -, pointer, is, action, builtAction, frame, builtFrame, done⟩ :=
        built
      cases done
      exact onPointer is builtAction builtFrame
  | button code pressed =>
      simp only [materialize, bind_eq_ok] at built
      obtain ⟨pointer, is, action, builtAction, frame, builtFrame, done⟩ := built
      cases done
      exact onPointer is builtAction builtFrame
  | motion x y =>
      simp only [materialize, bind_eq_ok] at built
      obtain ⟨pointer, is, action, builtAction, frame, builtFrame, done⟩ := built
      cases done
      exact onPointer is builtAction builtFrame

end Synthesizer

namespace Tracker

/-! ## One message -/

/-- No callback that is waited for has this id. -/
def Apart (t : Tracker) (object : UInt32) : Prop :=
  t.frame ≠ some object ∧ t.syncs.oldest? ≠ some object

variable {t : Tracker} {m : Message} {object : UInt32} {r : Resolved}

/-- A message to an object that no callback has the id of is looked up in the table. -/
theorem observeServer_of_apart (apart : t.Apart object) (fit : Synthesizer.Fit object m)
    (now : Nat) :
    t.observeServer (some r) m now =
      t.renumberAt m (SerialPlace.find? SerialPlace.issuing r.interface m.opcode) := by
  have noFrame : ¬ t.AnswersFrame m := fun answers => apart.1 (fit.object ▸ answers.2)
  have noSync : ¬ t.AnswersSync m := fun answers => apart.2 (fit.object ▸ answers.2)
  rw [observeServer_of_wellFormed fit.wellFormed, observeEvent_other noFrame noSync]
  rfl

/-- The serial that is given out next is due whatever the server wrote, if it wrote that one. -/
theorem due_nextSerial (t : Tracker) : t.due (some t.nextSerial) = t.nextSerial := by
  unfold due nextSerial
  cases t.serial with
  | none => rfl
  | some last => rfl

/-- A serial that is the next one anyway is put in its own place. -/
theorem renumber_nextSerial {word : Nat} (has : m.word? word = some t.nextSerial) :
    t.renumber m word =
      ⟨t.remember t.nextSerial t.nextSerial, m, some t.nextSerial, none⟩ := by
  obtain ⟨inside, here⟩ := List.getElem?_eq_some_iff.1 has
  have same : m.words.set word t.nextSerial = m.words := by rw [← here, List.set_getElem_self]
  rw [renumber_of_word? t has, due_nextSerial, same]

/-- The tracker after it met a gesture's action as an event. -/
def afterGenuine (t : Tracker) (gesture : Gesture) : Tracker :=
  if gesture.carriesSerial then t.remember t.nextSerial t.nextSerial else t

/-- **The action of a gesture**, met as an event. -/
theorem observeServer_action {gesture : Gesture} (apart : t.Apart object)
    (fit : Synthesizer.Fit object m) (action : IsAction gesture t.nextSerial m)
    (interface : r.interface = gesture.interface) (now : Nat) :
    t.observeServer (some r) m now =
      ⟨t.afterGenuine gesture, m, if gesture.carriesSerial then some t.nextSerial else none,
        none⟩ := by
  rw [observeServer_of_apart apart fit, interface, action.opcode, issuing_gesture]
  unfold afterGenuine
  cases carries : gesture.carriesSerial with
  | true => exact renumber_nextSerial (action.serial carries)
  | false => rfl

/-- **The frame of a gesture**, met as an event. -/
theorem observeServer_frame {action : Message} (apart : t.Apart object)
    (fit : Synthesizer.Fit object m) (frame : IsFrame action m)
    (interface : r.interface = "wl_pointer") (now : Nat) :
    t.observeServer (some r) m now = t.pass m := by
  rw [observeServer_of_apart apart fit, interface, frame.opcode, issuing_frame]
  rfl

/-- Meeting an action leaves the callbacks that are waited for. -/
theorem Apart.afterGenuine (apart : t.Apart object) (gesture : Gesture) :
    (t.afterGenuine gesture).Apart object := by
  unfold Tracker.afterGenuine
  split
  · exact apart
  · exact apart

/-- The serial is as if the gesture had been written. -/
theorem serial_afterGenuine (t : Tracker) (gesture : Gesture) :
    (t.afterGenuine gesture).serial = (Synthesizer.issueFor gesture t.nextSerial t).serial := by
  unfold Tracker.afterGenuine Synthesizer.issueFor
  split
  · rfl
  · rfl

/-! ## A whole gesture -/

structure Arrival where
  message : Message
  resolved : Resolved
  now : Nat

/-- A tracker that meets messages of the server, and what each of them is to it. -/
def meeting : Machine Tracker Arrival Observed where
  step t a := (t.observeServer (some a.resolved) a.message a.now).tracker
  out t a := [t.observeServer (some a.resolved) a.message a.now]

/-- **What a tracker does when it meets a gesture**, message by message. -/
theorem outputs_gesture {gesture : Gesture} {connection : Connection} {now : Nat}
    {arrivals : List Arrival} (apart : ∀ object, t.targetOf gesture = some object → t.Apart object)
    (built : Synthesizer.materialize gesture connection t t.nextSerial now =
      .ok (arrivals.map Arrival.message))
    (interface : ∀ a ∈ arrivals, a.resolved.interface = gesture.interface) :
    ∃ action rest, arrivals = action :: rest ∧
      meeting.run t arrivals = t.afterGenuine gesture ∧
      meeting.outputs t arrivals =
        ⟨t.afterGenuine gesture, action.message,
          if gesture.carriesSerial then some t.nextSerial else none, none⟩ ::
        rest.map fun a => (t.afterGenuine gesture).pass a.message := by
  obtain ⟨object, target, fit⟩ := Synthesizer.materialize_fit built
  have apart := apart object target
  have group := Synthesizer.materialize_group built
  generalize are : arrivals.map Arrival.message = messages at fit group
  cases group with
  | key onKeyboard key isAction =>
      obtain ⟨a, rfl, rfl⟩ := List.map_eq_singleton_iff.1 are
      have met := observeServer_action apart (fit _ List.mem_cons_self) isAction
        (interface a List.mem_cons_self) a.now
      exact ⟨a, [], rfl, congrArg Observed.tracker met, congrArg (· :: []) met⟩
  | pointer onPointer action frame isAction isFrame =>
      obtain ⟨a, rest, rfl, rfl, others⟩ := List.map_eq_cons_iff.1 are
      obtain ⟨b, rfl, rfl⟩ := List.map_eq_singleton_iff.1 others
      have onPointer' : b.resolved.interface = "wl_pointer" := by
        rw [interface b (by simp), Gesture.interface, if_pos onPointer]
      have met := observeServer_action apart (fit _ List.mem_cons_self) isAction
        (interface a List.mem_cons_self) a.now
      have passed := observeServer_frame (apart.afterGenuine gesture) (fit b.message (by simp))
        isFrame onPointer' b.now
      refine ⟨a, [b], rfl, ?_, ?_⟩
      · show ((t.observeServer (some a.resolved) a.message a.now).tracker.observeServer
          (some b.resolved) b.message b.now).tracker = _
        rw [met, passed]
        rfl
      · show [t.observeServer (some a.resolved) a.message a.now,
          (t.observeServer (some a.resolved) a.message a.now).tracker.observeServer
            (some b.resolved) b.message b.now] = _
        rw [met, passed]
        rfl

/-- **A synthesized gesture is to the tracker what a genuine one is.**  Take a tracker in any state
in which no callback that is waited for has the id of the pointer or the keyboard, a gesture made
into messages with the serial that is next, and these messages met as events of the server, on an
object of the interface that the gesture is for and at any times.  They are left as they are and
none is reported; the action is given the serial if the gesture takes one, and no other message is;
and the last serial is then the one that the tick of any injector leaves which writes the gesture
from this tracker. -/
theorem gesture_met_as_genuine (t : Tracker)
    (apart : ∀ id, t.found.pointer = some id ∨ t.found.keyboard = some id → t.Apart id)
    (gesture : Gesture) (connection : Connection) (now : Nat) (arrivals : List Arrival)
    (built : Synthesizer.materialize gesture connection t t.nextSerial now =
      .ok (arrivals.map Arrival.message))
    (interface : ∀ a ∈ arrivals, a.resolved.interface = gesture.interface) :
    let seen := meeting.outputs t arrivals
    let after := meeting.run t arrivals
    seen.map Observed.message = arrivals.map Arrival.message ∧
      (∀ o ∈ seen, o.report = none) ∧
      after.formatErrors = t.formatErrors ∧
      seen.map Observed.issued =
        (if gesture.carriesSerial then some t.nextSerial else none) ::
          List.replicate (arrivals.length - 1) none ∧
      after.serial = (if gesture.carriesSerial then some t.nextSerial else t.serial) ∧
      ∀ (σ : Type) [EventSource σ] (i : Injector σ) (time : Nat) (f : Firing), i.tracker = t →
        i.firing? (.tick time) = some f → f.event.gesture = gesture →
        (i.step (.tick time)).tracker.serial = after.serial := by
  intro seen after
  have target : ∀ object, t.targetOf gesture = some object → t.Apart object := by
    intro object known
    apply apart
    unfold targetOf at known
    split at known
    · exact .inl known
    · exact .inr known
  obtain ⟨action, rest, rfl, run, outputs⟩ := outputs_gesture target built interface
  have serial : after.serial = (Synthesizer.issueFor gesture t.nextSerial t).serial := by
    rw [← serial_afterGenuine]
    exact congrArg Tracker.serial run
  refine ⟨?_, ?_, ?_, ?_, ?_, ?_⟩
  · simp [seen, outputs, pass]
  · intro o member
    rw [show seen = _ from outputs] at member
    obtain rfl | member := List.mem_cons.1 member
    · rfl
    · obtain ⟨a, -, rfl⟩ := List.mem_map.1 member
      rfl
  · show (meeting.run t (action :: rest)).formatErrors = t.formatErrors
    rw [run, afterGenuine]
    split
    · rfl
    · rfl
  · have others : rest.map (fun _ => (none : Option UInt32)) = List.replicate rest.length none :=
      List.map_const'
    show (meeting.outputs t (action :: rest)).map Observed.issued = _
    rw [outputs, List.map_cons, List.map_map]
    exact congrArg (_ :: ·) others
  · rw [serial, Synthesizer.issueFor]
    split
    · rfl
    · rfl
  · rintro σ _ i time f rfl begun rfl
    obtain ⟨tracker, -, began⟩ := Injector.began_of_firing begun
    rw [serial, ← tracker]
    exact congrArg Tracker.serial began.tracker

namespace Example

open Message.Example (message)
open Injector.Example (leaves)

/-- The pointer leaves before any serial was given out, and the leave is met as if the server had
sent it. -/
theorem first_leave_met_as_genuine :
    let t := ((Injector.machine Script).run (Injector.start leaves none false 0 .reliable .reliable)
      Injector.Example.ready).tracker
    let onPointer : Resolved := ⟨"wl_pointer", none⟩
    let arrivals : List Arrival :=
      [⟨message .fromServer 13 1 [1, 12], onPointer, 0⟩,
        ⟨message .fromServer 13 5 [], onPointer, 0⟩]
    (∀ id, t.found.pointer = some id ∨ t.found.keyboard = some id → t.Apart id) ∧
      Synthesizer.materialize .leave ⟨1, none⟩ t t.nextSerial 0 =
        .ok (arrivals.map Arrival.message) ∧
      (∀ a ∈ arrivals, a.resolved.interface = Gesture.leave.interface) ∧
      t.serial = none ∧ (meeting.run t arrivals).serial = some 1 := by
  intro t onPointer arrivals
  have apart : ∀ id, t.found.pointer = some id ∨ t.found.keyboard = some id → t.Apart id :=
    fun id _ => ⟨show t.frame ≠ some id from nofun, show t.syncs.oldest? ≠ some id from nofun⟩
  have built : Synthesizer.materialize .leave ⟨1, none⟩ t t.nextSerial 0 =
      .ok (arrivals.map Arrival.message) := rfl
  have interface : ∀ a ∈ arrivals, a.resolved.interface = Gesture.leave.interface := by decide
  obtain ⟨-, -, -, -, serial, -⟩ :=
    gesture_met_as_genuine t apart .leave ⟨1, none⟩ 0 arrivals built interface
  exact ⟨apart, built, interface, rfl, serial⟩

end Example

end Tracker

end WaylandProxy
