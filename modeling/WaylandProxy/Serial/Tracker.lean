/-
# Serial.Tracker -- one serial sequence for the client

The client must see one sequence of serials although part of what it gets is
synthesized.  The tracker issues every serial from one counter: the first one that the
server hands out is adopted, each later one is replaced by the next of the sequence, and
the synthesizer takes the next one for itself.  The recent pairs of issued
serial and the server's serial behind it are kept, so that a serial the client hands back
can be given to the server as the server wrote it.

Besides, the tracker follows what the synthesizer depends on: the pending sync callbacks
(`Serial.Ring`), the frame callback whose answer sets the clock, the first surface,
pointer and keyboard, whether the surface was committed with damage, and the size of the
latest buffer.

One observation changes the tracker and perhaps one word of the message, may issue one
serial, and may give one report; `Observed` holds all of it.  A message whose header does
not fit is reported and changes nothing.
-/
import WaylandProxy.Object.Map
import WaylandProxy.Serial.Clock
import WaylandProxy.Serial.Ring
import WaylandProxy.Serial.Table
import WaylandProxy.World

namespace WaylandProxy

set_option autoImplicit false

/-- The objects that synthesized input is addressed to, each the first of its kind. -/
structure Discovered where
  surface : Option UInt32
  pointer : Option UInt32
  keyboard : Option UInt32
  deriving DecidableEq, Repr

/-- The state of one connection as far as its serials and callbacks go. -/
structure Tracker where
  /-- The serial issued last. -/
  serial : Option UInt32
  /-- Issued serial and the server's serial of recent genuine events, latest first. -/
  origins : List (UInt32 × UInt32)
  /-- The sync callbacks not answered yet. -/
  syncs : SyncRing
  /-- The frame callback not answered yet. -/
  frame : Option UInt32
  clock : Clock
  found : Discovered
  /-- The surface was damaged after its last commit. -/
  damaged : Bool
  /-- The surface was committed with damage at least once. -/
  damageCommitted : Bool
  /-- Width and height of the latest buffer. -/
  bufferSize : Option (UInt32 × UInt32)
  /-- How many messages were reported as malformed. -/
  formatErrors : Nat
  deriving DecidableEq

inductive Report where
  /-- The message is not what its header or its kind promises. -/
  | malformed (object : UInt32) (opcode : UInt16) (direction : Direction) (reason : String)
  /-- A sync callback cannot be followed. -/
  | untracked (callback : UInt32) (fault : Fault)
  deriving DecidableEq, Repr

namespace Report

def entry : Report → Log.Entry
  | .malformed object opcode direction reason =>
    ⟨.warn, .fuzz, "malformed message, passing through",
      [("object", .plain (toString object)), ("opcode", .plain (toString opcode)),
        ("direction", .plain direction.name), ("reason", .string reason)]⟩
  | .untracked callback fault =>
    ⟨.warn, .fuzz, "sync callback not tracked",
      [("callback", .plain (toString callback)), ("error", .plain fault.text)]⟩

def count : Report → Metrics → Metrics
  | .malformed .., m =>
    { m with protocolErrors := m.protocolErrors.increment [("pass", "fuzz")] }
  | .untracked .., m =>
    { m with syncOverflows := m.syncOverflows.increment [("pass", "fuzz")] }

end Report

def World.report (w : World) : Option Report → World
  | none => w
  | some r => (w.count r.count).note (.logged r.entry)

structure Observed where
  tracker : Tracker
  message : Message
  /-- The serial issued with the message. -/
  issued : Option UInt32
  report : Option Report
  deriving DecidableEq

namespace Tracker

/-- How many issued serials remember the server's serial behind them. -/
def historySize : Nat := 256

/-- The opcode of a callback's only event. -/
def doneOpcode : UInt16 := 0

def start (now : Nat) : Tracker where
  serial := none
  origins := []
  syncs := .empty
  frame := none
  clock := ⟨now, 0⟩
  found := ⟨none, none, none⟩
  damaged := false
  damageCommitted := false
  bufferSize := none
  formatErrors := 0

/-- The serial that would be issued next. -/
def nextSerial (t : Tracker) : UInt32 :=
  match t.serial with
  | some last => last + 1
  | none => 1

/-- The tracker after a serial was issued that no serial of the server stands behind. -/
def issue (t : Tracker) (serial : UInt32) : Tracker :=
  { t with serial := some serial }

/-- The tracker after `issued` went out for the server's serial `origin`. -/
def remember (t : Tracker) (issued origin : UInt32) : Tracker :=
  { t with
    serial := some issued
    origins := ((issued, origin) :: t.origins).take historySize }

/-- The server's serial behind an issued one, if that is recent enough. -/
def originOf (t : Tracker) (issued : UInt32) : Option UInt32 :=
  t.origins.lookup issued

/-- An observation that leaves the message as it is. -/
def pass (t : Tracker) (m : Message) : Observed :=
  ⟨t, m, none, none⟩

def malformed (t : Tracker) (m : Message) (reason : String) : Observed where
  tracker := { t with formatErrors := t.formatErrors + 1 }
  message := m
  issued := none
  report := some (.malformed m.object m.opcode m.direction reason)

/-- Issue the serial at a word of the message: adopt the first one, replace each later
one by the next of the sequence. -/
def renumber (t : Tracker) (m : Message) (word : Nat) : Observed :=
  match m.word? word with
  | none => t.malformed m "serial index out of bounds"
  | some origin =>
    match t.serial with
    | none => ⟨t.remember origin origin, m, some origin, none⟩
    | some last =>
      match m.setWord word (last + 1) with
      | .ok renumbered => ⟨t.remember (last + 1) origin, renumbered, some (last + 1), none⟩
      | .error _ => t.pass m

/-- A well-formed message from the server, resolved as `resolved`, at `now`. -/
def observeEvent (t : Tracker) (resolved : Option Resolved) (m : Message) (now : Nat) :
    Observed :=
  if m.opcode = doneOpcode ∧ t.frame = some m.object then
    let t := { t with frame := none }
    match m.word? 2 with
    | some stamp => { t with clock := ⟨now, stamp⟩ }.pass m
    | none => t.malformed m "frame done without timestamp"
  else if m.opcode = doneOpcode ∧ t.syncs.oldest? = some m.object then
    let syncs := match t.syncs.pop with
      | some (_, rest) => rest
      | none => t.syncs
    { t with syncs := syncs }.renumber m 2
  else
    match resolved with
    | none => t.pass m
    | some r =>
      match SerialPlace.find? SerialPlace.issuing r.interface m.opcode with
      | none => t.pass m
      | some word => t.renumber m word

/-- A message from the server, resolved as `resolved`, at `now`. -/
def observeServer (t : Tracker) (resolved : Option Resolved) (m : Message) (now : Nat) :
    Observed :=
  match m.flaw? with
  | some flaw => t.malformed m flaw.fault.text
  | none => t.observeEvent resolved m now

/-- Give the server back its own serial in the word where the client echoes one. -/
def restore (t : Tracker) (m : Message) (word : Nat) : Observed :=
  match m.word? word with
  | none => t.malformed m "serial index out of bounds"
  | some seen =>
    match t.originOf seen with
    | none => t.pass m
    | some origin =>
      if origin = seen then t.pass m
      else
        match m.setWord word origin with
        | .ok restored => t.pass restored
        | .error _ => t.pass m

inductive Request where
  | sync
  | frame
  | createSurface
  | getPointer
  | getKeyboard
  | damage
  | commit
  | createBuffer
  | other
  deriving DecidableEq, Repr

/-- The meaning of a request by its interface and opcode. -/
def Request.of (interface : String) (opcode : UInt16) : Request :=
  if interface = "wl_display" ∧ opcode = 0 then .sync
  else if interface = "wl_surface" ∧ opcode = 3 then .frame
  else if interface = "wl_compositor" ∧ opcode = 0 then .createSurface
  else if interface = "wl_seat" ∧ opcode = 0 then .getPointer
  else if interface = "wl_seat" ∧ opcode = 1 then .getKeyboard
  else if interface = "wl_surface" ∧ (opcode = 2 ∨ opcode = 9) then .damage
  else if interface = "wl_surface" ∧ opcode = 6 then .commit
  else if interface = "wl_shm_pool" ∧ opcode = 0 then .createBuffer
  else .other

/-- The first id stays. -/
def keepFirst (known new : Option UInt32) : Option UInt32 :=
  known <|> new

/-- A request that echoes no serial. -/
def observeRequest (t : Tracker) (request : Request) (m : Message) : Observed :=
  let newId := m.word? 2
  match request with
  | .sync =>
    match newId with
    | none => t.malformed m "sync without callback id"
    | some id =>
      match t.syncs.push id with
      | .ok syncs => { t with syncs := syncs }.pass m
      | .error fault => ⟨t, m, none, some (.untracked id fault)⟩
  | .frame =>
    match newId with
    | none => t.malformed m "frame without callback id"
    | some id => { t with frame := some id }.pass m
  | .createSurface =>
    { t with found.surface := keepFirst t.found.surface newId }.pass m
  | .getPointer =>
    { t with found.pointer := keepFirst t.found.pointer newId }.pass m
  | .getKeyboard =>
    { t with found.keyboard := keepFirst t.found.keyboard newId }.pass m
  | .damage =>
    if t.found.surface = some m.object then { t with damaged := true }.pass m else t.pass m
  | .commit =>
    if t.found.surface = some m.object ∧ t.damaged then
      { t with damaged := false, damageCommitted := true }.pass m
    else t.pass m
  | .createBuffer =>
    -- new id, offset, width, height, stride, format
    match m.word? 4, m.word? 5 with
    | some width, some height => { t with bufferSize := some (width, height) }.pass m
    | _, _ => t.malformed m "create_buffer without size"
  | .other => t.pass m

def observeClient (t : Tracker) (resolved : Option Resolved) (m : Message) : Observed :=
  match m.flaw? with
  | some flaw => t.malformed m flaw.fault.text
  | none =>
    match resolved with
    | none => t.pass m
    | some r =>
      match SerialPlace.find? SerialPlace.echoing r.interface m.opcode with
      | some word => t.restore m word
      | none => t.observeRequest (Request.of r.interface m.opcode) m

end Tracker

end WaylandProxy
