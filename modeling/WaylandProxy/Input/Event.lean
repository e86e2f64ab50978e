/-
# Input.Event -- what a hand can do, and when

A gesture is one thing done with a keyboard or a pointer, positions being fractions of
the surface.  A scheduled gesture waits for its delay after the one before it.

An event source yields scheduled gestures one after the other.  `current` looks at the
next one and may prepare it, so it returns the source as well; `advance` goes past it.
`LawfulSource` is the promise that looking does not consume: what `current` showed is
shown again until `advance`.
-/
import WaylandProxy.Journal

namespace WaylandProxy

set_option autoImplicit false

inductive Gesture where
  | key (code : UInt32) (pressed : Bool)
  | enter (x y : Float)
  | leave
  | button (code : UInt32) (pressed : Bool)
  | motion (x y : Float)

namespace Gesture

def label : Gesture → String
  | .key .. => "key"
  | .enter .. => "enter"
  | .leave => "leave"
  | .button .. => "button"
  | .motion .. => "motion"

def isPointer : Gesture → Bool
  | .key .. => false
  | _ => true

/-- Every gesture but a motion carries a serial. -/
def carriesSerial : Gesture → Bool
  | .motion .. => false
  | _ => true

end Gesture

/-- A gesture and how long it waits after the one before it. -/
structure Scheduled where
  gesture : Gesture
  delay : Nat

class EventSource (σ : Type) where
  /-- The next gesture, if there is one, and the source that has it ready. -/
  current : σ → Option Scheduled × σ
  /-- The source past its next gesture. -/
  advance : σ → σ

/-- Looking at the next gesture again shows the same one and changes nothing. -/
class LawfulSource (σ : Type) [EventSource σ] : Prop where
  current_current (s : σ) :
    EventSource.current (EventSource.current s).2 = EventSource.current s

/-- A source that yields the gestures of a list. -/
structure Script where
  pending : List Scheduled

namespace Script

def remaining (s : Script) : Nat :=
  s.pending.length

instance : EventSource Script where
  current s := (s.pending.head?, s)
  advance s := ⟨s.pending.tail⟩

instance : LawfulSource Script where
  current_current _ := rfl

end Script

end WaylandProxy
