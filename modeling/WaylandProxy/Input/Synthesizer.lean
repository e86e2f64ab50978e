/-
# Input.Synthesizer -- scheduled gestures as events for the client

The synthesizer waits until the client has a pointer, a keyboard and a drawn surface, and
then turns one gesture after the other into events of the server, written straight to the
client.  A pointer gesture is two messages, the action and the frame that ends it; a key is
one.  Serials come from the tracker, so the client sees one sequence.

`tick` does what is due at a moment.  Whatever is left of the gesture before is written
first.  A gesture counts as done once its first message is written: its serial is issued,
the source advances, and the next gesture waits for its delay from there.  If that first
write fails nothing has changed, and the next tick tries the same gesture with the same
serial; if a later write fails, the rest stays `pending`.
-/
import WaylandProxy.Input.Event
import WaylandProxy.Serial.Tracker

namespace WaylandProxy

set_option autoImplicit false

inductive Phase where
  /-- Not asked to start. -/
  | notReady
  /-- Waiting for the client to be ready. -/
  | waiting
  /-- Turning gestures into events. -/
  | active
  deriving DecidableEq, Repr

structure Synthesizer (σ : Type) where
  phase : Phase
  source : σ
  /-- Only a client of this program is addressed. -/
  program : Option String
  verbose : Bool
  connection : Option Connection
  /-- When the next gesture is due. -/
  nextFire : Option Nat
  /-- What is left to write of the gesture written last. -/
  pending : List Message
  /-- The end of the source was logged. -/
  exhausted : Bool

structure Tick (σ : Type) where
  synth : Synthesizer σ
  tracker : Tracker
  world : World
  /-- The gesture done, if one was, or what failed. -/
  outcome : Except Fault (Option Gesture)

namespace Synthesizer

variable {σ : Type}

/-- The wait after the client is ready. -/
def settleDelay : Nat := millis 50

def pointerEnter : UInt16 := 0
def pointerLeave : UInt16 := 1
def pointerMotion : UInt16 := 2
def pointerButton : UInt16 := 3
def pointerFrame : UInt16 := 5
def keyboardKey : UInt16 := 3

/-- A synthesizer that was not asked to start. -/
def create (source : σ) (program : Option String) (verbose : Bool) : Synthesizer σ where
  phase := .notReady
  source := source
  program := program
  verbose := verbose
  connection := none
  nextFire := none
  pending := []
  exhausted := false

/-- Start watching for the client to be ready. -/
def arm (s : Synthesizer σ) : Synthesizer σ :=
  if s.phase = .notReady then { s with phase := .waiting } else s

/-- Address what is synthesized to a connection, unless there is one already. -/
def noteConnection (s : Synthesizer σ) (connection : Connection) : Synthesizer σ :=
  { s with connection := s.connection <|> some connection }

def programMatches (s : Synthesizer σ) : Bool :=
  match s.program, s.connection with
  | none, _ => true
  | some wanted, some connection => connection.program = some wanted
  | some _, none => false

/-- The client has all that synthesized input needs. -/
def isReady (s : Synthesizer σ) (t : Tracker) : Bool :=
  t.found.pointer.isSome && t.found.keyboard.isSome && t.damageCommitted && s.programMatches

/-- The id of an object that may not be known, as a field of the log. -/
def idField (id : Option UInt32) : Log.Value :=
  .plain (Text.Quoted.option toString id)

def checkReadiness [EventSource σ] (s : Synthesizer σ) (t : Tracker) (now : Nat) (w : World) :
    Synthesizer σ × World :=
  if s.phase = .waiting ∧ s.isReady t then
    let (first, source) := EventSource.current s.source
    let delay := (first.map Scheduled.delay).getD 0
    ({ s with
        phase := .active
        source := source
        nextFire := some (now + settleDelay + delay) },
      w.log .info .fuzz "input synthesis active"
        [("pointer", idField t.found.pointer), ("keyboard", idField t.found.keyboard),
          ("surface", idField t.found.surface)])
  else (s, w)

/-- The events that a gesture at `now` is, addressed to the objects found. -/
def materialize (gesture : Gesture) (connection : Connection) (t : Tracker) (serial : UInt32)
    (now : Nat) : Except Fault (List Message) :=
  let stamp := t.clock.stampAt now
  let size := t.bufferSize.getD (0, 0)
  let event (object : UInt32) (opcode : UInt16) (arguments : List Argument) :=
    Message.build .fromServer connection object opcode arguments
  let known (what : String) (id : Option UInt32) : Except Fault UInt32 :=
    match id with
    | some id => .ok id
    | none => .error (.internal ("no " ++ what ++ " discovered"))
  let position (x y : Float) : List Argument :=
    [.fixed (.ofNormalized x size.1), .fixed (.ofNormalized y size.2)]
  let pressedWord (pressed : Bool) : Argument := .uint (if pressed then 1 else 0)
  let action (opcode : UInt16) (arguments : List Argument) : Except Fault (List Message) := do
    let pointer ← known "pointer" t.found.pointer
    let first ← event pointer opcode arguments
    let frame ← event pointer pointerFrame []
    return [first, frame]
  match gesture with
  | .key code pressed => do
    let keyboard ← known "keyboard" t.found.keyboard
    let key ← event keyboard keyboardKey
      [.uint serial, .uint stamp, .uint code, pressedWord pressed]
    return [key]
  | .enter x y => do
    let _ ← known "pointer" t.found.pointer
    let surface ← known "surface" t.found.surface
    action pointerEnter ([.uint serial, .object surface] ++ position x y)
  | .leave => do
    let _ ← known "pointer" t.found.pointer
    let surface ← known "surface" t.found.surface
    action pointerLeave [.uint serial, .object surface]
  | .motion x y => action pointerMotion (.uint stamp :: position x y)
  | .button code pressed =>
    action pointerButton [.uint serial, .uint stamp, .uint code, pressedWord pressed]

def writtenEntry (m : Message) : Log.Entry :=
  ⟨.info, .fuzz, "synthesized",
    [("object", .plain (toString m.object)), ("opcode", .plain (toString m.opcode)),
      ("args", .plain (Text.Quoted.list toString m.args))]⟩

def writeMessage (verbose : Bool) (connection : Connection) (m : Message) (now : Nat)
    (w : World) : Option Fault × World :=
  match w.write .client connection m.toBytes now with
  | (some reason, w) => (some (.transport reason), w)
  | (none, w) => (none, if verbose then w.note (.logged (writtenEntry m)) else w)

/-- Write messages until one fails: what is left, what failed, and the world after. -/
def writeAll (verbose : Bool) (connection : Connection) (now : Nat) :
    List Message → World → List Message × Option Fault × World
  | [], w => ([], none, w)
  | m :: rest, w =>
    match writeMessage verbose connection m now w with
    | (some fault, w) => (m :: rest, some fault, w)
    | (none, w) => writeAll verbose connection now rest w

def settle (s : Synthesizer σ) (connection : Connection) (now : Nat) (w : World) :
    Synthesizer σ × Option Fault × World :=
  match writeAll s.verbose connection now s.pending w with
  | (rest, some fault, w) => ({ s with pending := rest }, some fault, w)
  | (rest, none, w) =>
    let (failure, w) := w.flush .client
    ({ s with pending := rest }, failure.map Fault.transport, w)

/-- The tracker after a gesture was written with a serial. -/
def issueFor (gesture : Gesture) (serial : UInt32) (t : Tracker) : Tracker :=
  if gesture.carriesSerial then t.issue serial else t

def fire [EventSource σ] (s : Synthesizer σ) (event : Scheduled) (connection : Connection)
    (now : Nat) (t : Tracker) (w : World) : Tick σ :=
  let serial := t.nextSerial
  match materialize event.gesture connection t serial now with
  | .error fault => ⟨s, t, w, .error fault⟩
  | .ok [] => ⟨s, t, w, .error (.internal "event produced no message")⟩
  | .ok (first :: rest) =>
    match writeMessage s.verbose connection first now w with
    | (some fault, w) => ⟨s, t, w, .error fault⟩
    | (none, w) =>
      let t := issueFor event.gesture serial t
      let (following, source) := EventSource.current (EventSource.advance s.source)
      let s := { s with
        pending := s.pending ++ rest
        source := source
        nextFire := some (now + (following.map Scheduled.delay).getD 0) }
      let w := w.count fun m =>
        { m with synthesized := m.synthesized.increment [("kind", event.gesture.label)] }
      match s.settle connection now w with
      | (s, some fault, w) => ⟨s, t, w, .error fault⟩
      | (s, none, w) => ⟨s, t, w, .ok (some event.gesture)⟩

/-- Do the next gesture if it is due, once nothing is pending. -/
def fireIfDue [EventSource σ] (s : Synthesizer σ) (connection : Connection) (now : Nat)
    (t : Tracker) (w : World) : Tick σ :=
  if (s.nextFire.map fun due => decide (now < due)).getD false then ⟨s, t, w, .ok none⟩
  else
    let (current, source) := EventSource.current s.source
    let s := { s with source := source }
    match current with
    | some event => s.fire event connection now t w
    | none =>
      if s.exhausted then ⟨s, t, w, .ok none⟩
      else
        ⟨{ s with exhausted := true }, t,
          w.log .info .fuzz "event source exhausted, synthesis idle" [], .ok none⟩

def tick [EventSource σ] (s : Synthesizer σ) (now : Nat) (t : Tracker) (w : World) : Tick σ :=
  if s.phase ≠ .active then ⟨s, t, w, .ok none⟩
  else
    match s.connection with
    | none => ⟨s, t, w, .ok none⟩
    | some connection =>
      if s.pending.isEmpty then s.fireIfDue connection now t w
      else
        match s.settle connection now w with
        | (s, some fault, w) => ⟨s, t, w, .error fault⟩
        | (s, none, w) => s.fireIfDue connection now t w

end Synthesizer

end WaylandProxy
