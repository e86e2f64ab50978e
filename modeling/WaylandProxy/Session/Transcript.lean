/-
# Session.Transcript -- the text that a session writes

What a session did becomes text on the screen and in the output file.  The screen gets what
is shown to the operator and the log entries that are errors; a message that was written to a
peer becomes a line of a capture, in the file or, without one, on the screen too.
-/
import WaylandProxy.Capture.Line

namespace WaylandProxy

set_option autoImplicit false

/-- The text written so far. -/
structure Transcript where
  screen : String
  file : String
  deriving DecidableEq, Repr

namespace Transcript

def empty : Transcript :=
  ⟨"", ""⟩

/-- The direction of what a peer is sent. -/
def directionTo : Peer → Direction
  | .client => .fromServer
  | .server => .fromClient

/-- The capture line of bytes that a peer was sent, counting time from `origin`. -/
def captureLine (origin : Nat) (peer : Peer) (bytes : List UInt8) (now : Nat) : String :=
  Entry.encodeLine (now - origin) (directionTo peer) bytes ++ "\n"

def add (toFile : Bool) (origin : Nat) (t : Transcript) : Note → Transcript
  | .shown text => { t with screen := t.screen ++ text }
  | .logged entry =>
    if entry.level = .error then { t with screen := t.screen ++ entry.line ++ "\n" }
    else t
  | .wrote peer _ bytes now =>
    let line := captureLine origin peer bytes now
    if toFile then { t with file := t.file ++ line } else { t with screen := t.screen ++ line }
  | _ => t

def ofNotes (toFile : Bool) (origin : Nat) (notes : List Note) : Transcript :=
  notes.foldl (add toFile origin) empty

end Transcript

end WaylandProxy
