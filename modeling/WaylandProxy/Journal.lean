/-
# Journal -- what a run did, in order

A step of the proxy is a function, and what it does to the outside is data.  The
journal is the list of these effects in their order: text for the operator, log
entries, every attempt to write to or flush a peer with its outcome, and remarks that a
pass leaves for whoever follows the run.

A log entry has a level, the subsystem it comes from, a message, and named fields.  A
field is either shown plainly or, when it is a text value, between quotes.

Moments and durations are natural numbers of nanoseconds throughout the library; a moment
counts from the start of the program.
-/
import WaylandProxy.Text.Quoted
import WaylandProxy.Wire.Message

namespace WaylandProxy

set_option autoImplicit false

/-- Milliseconds in nanoseconds. -/
def millis (n : Nat) : Nat :=
  n * 1000000

namespace Log

inductive Level where
  | error
  | warn
  | info
  deriving DecidableEq, Repr

def Level.name : Level → String
  | .error => "ERROR"
  | .warn => "WARN"
  | .info => "INFO"

inductive Source where
  | program
  | router
  | passes
  | format
  | fuzz
  | interactive
  | session
  deriving DecidableEq, Repr

def Source.path : Source → String
  | .program => "wlfuzz_proxy"
  | .router => "wlfuzz_proxy::pipeline::router"
  | .passes => "wlfuzz_proxy::app"
  | .format => "wlfuzz_proxy::format"
  | .fuzz => "wlfuzz_proxy::fuzz::pass"
  | .interactive => "wlfuzz_proxy::interactive::controller"
  | .session => "wlfuzz_proxy::session"

inductive Value where
  /-- Shown as it is. -/
  | plain (text : String)
  /-- A text, shown between quotes on a log line. -/
  | string (text : String)
  deriving DecidableEq, Repr

def Value.text : Value → String
  | .plain text => text
  | .string text => text

def Value.shown : Value → String
  | .plain text => text
  | .string text => Text.Quoted.text text

def Value.number (n : Nat) : Value :=
  .plain (toString n)

def Value.bool (b : Bool) : Value :=
  .plain (if b then "true" else "false")

structure Entry where
  level : Level
  source : Source
  message : String
  fields : List (String × Value)
  deriving DecidableEq, Repr

/-- An entry as one line, without the time. -/
def Entry.line (e : Entry) : String :=
  e.level.name ++ " " ++ e.source.path ++ ": " ++ e.message ++
    String.join (e.fields.map fun (name, value) => " " ++ name ++ "=" ++ value.shown)

end Log

/-- The end of the proxy that something is written to. -/
inductive Peer where
  | client
  | server
  deriving DecidableEq, Repr

def Peer.name : Peer → String
  | .client => "client"
  | .server => "server"

inductive Note where
  /-- Text shown to the operator. -/
  | shown (text : String)
  /-- An entry of the log. -/
  | logged (entry : Log.Entry)
  /-- These bytes were written to a peer at this time. -/
  | wrote (peer : Peer) (connection : Connection) (bytes : List UInt8) (now : Nat)
  /-- A write to a peer failed. -/
  | writeFailed (peer : Peer)
  /-- A peer was flushed. -/
  | flushed (peer : Peer)
  /-- Flushing a peer failed. -/
  | flushFailed (peer : Peer)
  /-- A remark left by a pass. -/
  | remark (text : String)
  deriving DecidableEq, Repr

end WaylandProxy
