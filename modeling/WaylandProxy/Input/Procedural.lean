/-
# Input.Procedural -- gestures drawn at random, always legal

The source draws one gesture after the other without end.  It keeps what is held down and
whether the pointer is on the surface, and draws only what a real hand could do: the
pointer enters before it does anything else, a code that is down is released and one that
is up is pressed, and the pointer leaves with no button down.

A gesture that was drawn but not yet consumed waits in `next`; what is held changes only
when the source advances, so looking twice shows one gesture and draws once.
-/
import WaylandProxy.Input.Event
import WaylandProxy.Random.Draws

namespace WaylandProxy

set_option autoImplicit false

/-- A source of random gestures over the generator `γ`. -/
structure Procedural (γ : Type) where
  draws : γ
  /-- The bounds of every delay, in milliseconds. -/
  delayMin : UInt64
  delayMax : UInt64
  /-- The gesture drawn and not yet consumed. -/
  next : Option Scheduled
  /-- The pointer is on the surface. -/
  inside : Bool
  keysDown : List UInt32
  buttonsDown : List UInt32

namespace Procedural

/-- The codes of the keys that print, with space, enter and backspace. -/
def keyCodes : List UInt32 :=
  [2, 3, 4, 5, 6, 7, 8, 9, 10, 11,          -- digits
    14,                                     -- backspace
    16, 17, 18, 19, 20, 21, 22, 23, 24, 25, -- upper row
    28,                                     -- enter
    30, 31, 32, 33, 34, 35, 36, 37, 38,     -- middle row
    44, 45, 46, 47, 48, 49, 50,             -- lower row
    57]                                     -- space

/-- The codes of the left, right and middle button. -/
def buttonCodes : List UInt32 :=
  [0x110, 0x111, 0x112]

variable {γ : Type}

/-- A source that has drawn nothing yet.  An upper bound below the lower one is raised to
it. -/
def start (draws : γ) (delayMin delayMax : UInt64) : Procedural γ where
  draws := draws
  delayMin := delayMin
  delayMax := max delayMin delayMax
  next := none
  inside := false
  keysDown := []
  buttonsDown := []

def drawPosition [Draws γ] (make : Float → Float → Gesture) (g : γ) : Gesture × γ :=
  let (x, g) := Draws.fraction g
  let (y, g) := Draws.fraction g
  (make x y, g)

def drawCode [Draws γ] (codes : List UInt32) (g : γ) : UInt32 × γ :=
  let (index, g) := Draws.range64 0 (UInt64.ofNat (codes.length - 1)) g
  (codes[index.toNat]?.getD 0, g)

/-- The next gesture of a source: outside only entering; inside mostly motion, then keys
and buttons, and now and then leaving, which is another motion while a button is down. -/
def drawGesture [Draws γ] (s : Procedural γ) : Gesture × γ :=
  if !s.inside then drawPosition Gesture.enter s.draws
  else
    let (percent, g) := Draws.range32 0 99 s.draws
    if percent < 45 then drawPosition Gesture.motion g
    else if percent < 65 then
      let (code, g) := drawCode buttonCodes g
      (.button code (!s.buttonsDown.contains code), g)
    else if percent < 90 then
      let (code, g) := drawCode keyCodes g
      (.key code (!s.keysDown.contains code), g)
    else if s.buttonsDown.isEmpty then (.leave, g)
    else drawPosition Gesture.motion g

/-- The next gesture of a source with its delay, and the generator after it. -/
def generate [Draws γ] (s : Procedural γ) : Scheduled × γ :=
  let (gesture, g) := s.drawGesture
  let (delay, g) := Draws.range64 s.delayMin s.delayMax g
  (⟨gesture, millis delay.toNat⟩, g)

/-- Some codes with one of them pressed or released. -/
def hold (down : List UInt32) (code : UInt32) (pressed : Bool) : List UInt32 :=
  if pressed then code :: down.filter (· ≠ code) else down.filter (· ≠ code)

/-- What is held and where the pointer is after a gesture. -/
def apply (s : Procedural γ) : Gesture → Procedural γ
  | .enter .. => { s with inside := true }
  | .leave => { s with inside := false }
  | .button code pressed => { s with buttonsDown := hold s.buttonsDown code pressed }
  | .key code pressed => { s with keysDown := hold s.keysDown code pressed }
  | .motion .. => s

def prepare [Draws γ] (s : Procedural γ) : Scheduled × Procedural γ :=
  match s.next with
  | some event => (event, s)
  | none =>
    let (event, g) := s.generate
    (event, { s with next := some event, draws := g })

def advance [Draws γ] (s : Procedural γ) : Procedural γ :=
  let (event, s) := s.prepare
  { s with next := none }.apply event.gesture

instance [Draws γ] : EventSource (Procedural γ) where
  current s :=
    let (event, s) := s.prepare
    (some event, s)
  advance := advance

end Procedural

end WaylandProxy
