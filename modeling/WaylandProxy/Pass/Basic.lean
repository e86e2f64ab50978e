/-
# Pass.Basic -- what a pass is

A pass is one stage of the chain that every message goes through.  It is set up once with
its arguments, handles events (messages from the server) and requests (messages from the
client), gets an idle opportunity between messages, and is finalized at the end.

A handler works on a message in transit: it may change words of the message, ask that it
not be forwarded, ask the session to end, and act on the world.  Its verdict says whether
the next pass sees the message.  Nothing else that a handler leaves behind counts
(`Transit.after`): a message stays with its connection and its direction, and what one pass
asked for or did no other pass takes back.  What a pass does with its own state is its own affair,
so a chain is stated over any state type `σ` with a `Pass` instance.
-/
import WaylandProxy.Object.Map
import WaylandProxy.Storage
import WaylandProxy.World

namespace WaylandProxy

set_option autoImplicit false

/-- Whether the next pass sees the message. -/
inductive Verdict where
  | proceed
  | stopChain
  deriving DecidableEq, Repr

/-- What a handler can look at: the objects as they were before the message, and the
time. -/
structure Context where
  objects : ObjectMap
  now : Nat

/-- A message on its way through the chain. -/
structure Transit where
  message : Message
  /-- The message is not to be forwarded. -/
  skipped : Bool
  /-- The session is to end. -/
  exit : Bool
  world : World

/-- A message in transit after a handler, of which the words, the requests and the effects
count. -/
def Transit.after (before after : Transit) : Transit where
  message := { before.message with words := after.message.words }
  skipped := before.skipped || after.skipped
  exit := before.exit || after.exit
  world := before.world.after after.world

/-- What a handler leaves behind. -/
structure Handled (σ : Type) where
  pass : σ
  transit : Transit
  verdict : Verdict

/-- What an idle opportunity can act on. -/
structure Idle where
  /-- The session is to end. -/
  exit : Bool
  world : World

class Pass (σ : Type) where
  name : σ → String
  /-- How the pass is configured, in one line. -/
  usage : σ → String
  /-- The pass runs after all others. -/
  pinned : σ → Bool
  /-- Set the pass up with its arguments. -/
  init : Storage → List String → World → σ → Except Fault σ × World
  /-- Handle a message from the server. -/
  onEvent : Context → Transit → σ → Handled σ
  /-- Handle a message from the client. -/
  onRequest : Context → Transit → σ → Handled σ
  /-- Use the time between messages. -/
  idle : Nat → Idle → σ → σ × Idle
  /-- Clean up. -/
  finalize : World → σ → σ × World

namespace Pass

variable {σ : Type} [Pass σ]

def handle (direction : Direction) (ctx : Context) (t : Transit) (p : σ) : Handled σ :=
  let shown := { t with world := t.world.drained }
  let handled := match direction with
    | .fromServer => onEvent ctx shown p
    | .fromClient => onRequest ctx shown p
  { handled with transit := t.after handled.transit }

def rest (now : Nat) (i : Idle) (p : σ) : σ × Idle :=
  let (p, after) := idle now { i with world := i.world.drained } p
  (p, ⟨i.exit || after.exit, i.world.after after.world⟩)

def setUp (storage : Storage) (args : List String) (w : World) (p : σ) : Except Fault σ × World :=
  let (ready, after) := init storage args w.drained p
  (ready, w.after after)

def cleanUp (w : World) (p : σ) : σ × World :=
  let (p, after) := finalize w.drained p
  (p, w.after after)

end Pass

/-- Where a pass shows messages, and what every write to it fails with, if anything. -/
structure Screen where
  fault : Option String
  deriving DecidableEq, Repr

/-- Put a line on the screen; a failing screen costs the line and a warning. -/
def Screen.put (s : Screen) (line : String) (w : World) : World :=
  match s.fault with
  | none => w.tell (line ++ "\n")
  | some reason =>
    w.log .warn .format "formatter write failed" [("error", .plain reason)]

end WaylandProxy
