/-
# World -- what the passes of a session share

The passes of one session share its metrics, the journal, the break signal and the two
channels to the peers.  A channel's attempts are numbered; whether an attempt succeeds
is given in advance by `writeFault` and `flushFault`, so a run over a world is a
function of the world it starts from, and a statement about every pattern of failures
is a statement about every pair of such functions.

A pass acts on the world without sight of what others did (`drained`), and what it leaves
is put together with that (`after`).
-/
import WaylandProxy.Fault
import WaylandProxy.Journal
import WaylandProxy.Metrics.Basic

namespace WaylandProxy

set_option autoImplicit false

/-- The way to one peer: how often it was used, and which uses fail with what. -/
structure Channel where
  writes : Nat
  flushes : Nat
  writeFault : Nat → Option String
  flushFault : Nat → Option String

namespace Channel

/-- A channel not used yet, with the given failures. -/
def failing (writeFault flushFault : Nat → Option String) : Channel :=
  ⟨0, 0, writeFault, flushFault⟩

def reliable : Channel :=
  failing (fun _ => none) (fun _ => none)

end Channel

/-- What the passes of a session share. -/
structure World where
  metrics : Metrics
  /-- What was done, latest first. -/
  journal : List Note
  /-- The operator asked to stop at the next message. -/
  breakRaised : Bool
  client : Channel
  server : Channel

namespace World

def start (client server : Channel) : World :=
  ⟨.empty, [], false, client, server⟩

def note (w : World) (n : Note) : World :=
  { w with journal := n :: w.journal }

def notes (w : World) : List Note :=
  w.journal.reverse

def tell (w : World) (text : String) : World :=
  w.note (.shown text)

def log (w : World) (level : Log.Level) (source : Log.Source) (message : String)
    (fields : List (String × Log.Value)) : World :=
  w.note (.logged ⟨level, source, message, fields⟩)

def count (w : World) (change : Metrics → Metrics) : World :=
  { w with metrics := change w.metrics }

def channel (w : World) : Peer → Channel
  | .client => w.client
  | .server => w.server

def setChannel (w : World) (peer : Peer) (c : Channel) : World :=
  match peer with
  | .client => { w with client := c }
  | .server => { w with server := c }

/-- Write bytes to a peer: the reason if that failed, and the world after. -/
def write (w : World) (peer : Peer) (connection : Connection) (bytes : List UInt8) (now : Nat) :
    Option String × World :=
  let c := w.channel peer
  let after := w.setChannel peer { c with writes := c.writes + 1 }
  match c.writeFault c.writes with
  | none => (none, after.note (.wrote peer connection bytes now))
  | some reason => (some reason, after.note (.writeFailed peer))

/-- Flush a peer: the reason if that failed, and the world after. -/
def flush (w : World) (peer : Peer) : Option String × World :=
  let c := w.channel peer
  let after := w.setChannel peer { c with flushes := c.flushes + 1 }
  match c.flushFault c.flushes with
  | none => (none, after.note (.flushed peer))
  | some reason => (some reason, after.note (.flushFailed peer))

def drained (w : World) : World :=
  { w with journal := [] }

/-- The world after a pass acted on it: what the pass did is added to the journal, and the
counts of the traffic are left as they were. -/
def after (before acted : World) : World :=
  { acted with
    metrics := acted.metrics.withTraffic before.metrics
    journal := acted.journal ++ before.journal }

def raiseBreak (w : World) : World :=
  { w with breakRaised := true }

/-- Clear the break signal, and tell whether it was raised. -/
def takeBreak (w : World) : Bool × World :=
  (w.breakRaised, { w with breakRaised := false })

end World

end WaylandProxy
