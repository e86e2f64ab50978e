/-
# Proofs.Input.Group -- the messages that a gesture is

A gesture of the pointer is two messages, the action and the frame that ends it; a key is
one.  `Group` says so, with the opcode of the action and with the serial in the first
argument of every action but a motion; whatever `materialize` builds is such a group
(`materialize_group`), so it is never empty.
-/
import WaylandProxy.Input.Synthesizer
import WaylandProxy.Proofs.Outcome
import WaylandProxy.Proofs.Wire.Words

namespace WaylandProxy

set_option autoImplicit false

open Synthesizer in
def Gesture.opcode : Gesture → UInt16
  | .key .. => keyboardKey
  | .enter .. => pointerEnter
  | .leave => pointerLeave
  | .button .. => pointerButton
  | .motion .. => pointerMotion

structure IsAction (gesture : Gesture) (serial : UInt32) (action : Message) : Prop where
  opcode : action.opcode = gesture.opcode
  serial : gesture.carriesSerial → action.word? 2 = some serial

/-- The message that ends a gesture of the pointer. -/
structure IsFrame (action frame : Message) : Prop where
  object : frame.object = action.object
  opcode : frame.opcode = Synthesizer.pointerFrame
  args : frame.args = []

inductive Group (gesture : Gesture) (serial : UInt32) : List Message → Prop where
  | key (onKeyboard : gesture.isPointer = false) (key : Message)
      (action : IsAction gesture serial key) : Group gesture serial [key]
  | pointer (onPointer : gesture.isPointer = true) (action frame : Message)
      (isAction : IsAction gesture serial action) (isFrame : IsFrame action frame) :
      Group gesture serial [action, frame]

namespace Synthesizer

/-- An action and a frame built for one object are the group of a pointer gesture. -/
theorem pointer_group {gesture : Gesture} {serial : UInt32} {connection : Connection}
    {object : UInt32} {arguments : List Argument} {action frame : Message}
    (onPointer : gesture.isPointer = true)
    (first : gesture.carriesSerial →
      (arguments.flatMap Argument.toWords)[0]? = some serial)
    (builtAction : Message.build .fromServer connection object gesture.opcode arguments =
      .ok action)
    (builtFrame : Message.build .fromServer connection object pointerFrame [] = .ok frame) :
    Group gesture serial [action, frame] := by
  obtain ⟨-, actionObject, actionOpcode, actionArgs⟩ := Message.build_spec builtAction
  obtain ⟨-, frameObject, frameOpcode, frameArgs⟩ := Message.build_spec builtFrame
  refine .pointer onPointer action frame ⟨actionOpcode, ?_⟩
    ⟨frameObject.trans actionObject.symm, frameOpcode, frameArgs⟩
  intro carries
  rw [Message.word?_two, actionArgs]
  exact first carries

theorem materialize_group {gesture : Gesture} {connection : Connection} {t : Tracker}
    {serial : UInt32} {now : Nat} {messages : List Message}
    (built : materialize gesture connection t serial now = .ok messages) :
    Group gesture serial messages := by
  cases gesture with
  | key code pressed =>
      simp only [materialize, bind_eq_ok] at built
      obtain ⟨keyboard, -, key, builtKey, done⟩ := built
      cases done
      obtain ⟨-, -, opcode, args⟩ := Message.build_spec builtKey
      refine .key rfl key ⟨opcode, fun _ => ?_⟩
      rw [Message.word?_two, args]
      rfl
  | enter x y =>
      simp only [materialize, bind_eq_ok] at built
      obtain ⟨-, -, surface, -, pointer, -, action, builtAction, frame, builtFrame, done⟩ := built
      cases done
      exact pointer_group rfl (fun _ => rfl) builtAction builtFrame
  | leave =>
      simp only [materialize, bind_eq_ok] at built
      obtain ⟨-, -, surface, -, pointer, -, action, builtAction, frame, builtFrame, done⟩ := built
      cases done
      exact pointer_group rfl (fun _ => rfl) builtAction builtFrame
  | button code pressed =>
      simp only [materialize, bind_eq_ok] at built
      obtain ⟨pointer, -, action, builtAction, frame, builtFrame, done⟩ := built
      cases done
      exact pointer_group rfl (fun _ => rfl) builtAction builtFrame
  | motion x y =>
      simp only [materialize, bind_eq_ok] at built
      obtain ⟨pointer, -, action, builtAction, frame, builtFrame, done⟩ := built
      cases done
      exact pointer_group rfl (fun carries => by cases carries) builtAction builtFrame

theorem materialize_ne_nil {gesture : Gesture} {connection : Connection} {t : Tracker}
    {serial : UInt32} {now : Nat} : materialize gesture connection t serial now ≠ .ok [] := by
  intro built
  cases materialize_group built

end Synthesizer

end WaylandProxy
