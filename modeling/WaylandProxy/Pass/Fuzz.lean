/-
# Pass.Fuzz -- follow a connection and inject input

The fuzz pass shows every message to its tracker, which keeps the one sequence of serials,
and uses the idle opportunities to let its synthesizer write what is due.  With a program
filter it looks at the first message it gets: if that belongs to another program the pass
does nothing from then on.  In block mode the server's own pointer and keyboard events are
kept from the client and from the tracker.

A write that fails is tried again at the next opportunity; the third failure in a row, and
each one after it, is reported as an error.
-/
import WaylandProxy.Input.Source
import WaylandProxy.Input.Synthesizer
import WaylandProxy.Pass.Basic
import WaylandProxy.Input.Options

namespace WaylandProxy

set_option autoImplicit false

/-- The state of a fuzz pass over the source `σ`. -/
structure Fuzz (σ : Type) where
  options : Option Options
  tracker : Tracker
  synth : Option (Synthesizer σ)
  /-- The connection is one the pass is for; decided at the first message. -/
  applies : Option Bool
  /-- The writes that failed in a row. -/
  writeFailures : Nat

namespace Fuzz

variable {σ : Type}

/-- The failures in a row from which on they are errors. -/
def reportedFailures : Nat := 3

/-- The interfaces whose events are kept back in block mode. -/
def blockedInterfaces : List String :=
  ["wl_pointer", "wl_keyboard"]

/-- A fuzz pass made at a moment, without arguments yet. -/
def create (now : Nat) : Fuzz σ where
  options := none
  tracker := .start now
  synth := none
  applies := none
  writeFailures := 0

/-- The pass with its options and a source, waiting for the client to be ready. -/
def arm (p : Fuzz σ) (options : Options) (source : σ) : Fuzz σ :=
  { p with
    options := some options
    synth := some (Synthesizer.create source options.program options.verbose).arm }

def phase (p : Fuzz σ) : Phase :=
  (p.synth.map Synthesizer.phase).getD .notReady

/-- Server input is kept from the client. -/
def blocks (p : Fuzz σ) : Bool :=
  (p.options.map Options.block).getD false

/-- A program name that may not be known, as a field of the log. -/
def programField (program : Option String) : Log.Value :=
  .plain (Text.Quoted.option Text.Quoted.text program)

def configure [LoadSource σ] (storage : Storage) (args : List String) (w : World) (p : Fuzz σ) :
    Except Fault (Fuzz σ) × World :=
  match Options.parse args with
  | .error fault => (.error fault, w)
  | .ok options =>
    match LoadSource.load storage options w with
    | (.error fault, w) => (.error fault, w)
    | (.ok source, w) =>
      (.ok (p.arm options source),
        w.log .info .fuzz "fuzz pass initialized"
          [("block", .bool options.block), ("verbose", .bool options.verbose),
            ("program", programField options.program)])

def wants (p : Fuzz σ) (program : Option String) : Bool :=
  match p.options.bind Options.program with
  | none => true
  | some wanted => program = some wanted

/-- Decide at the first message whether the pass is for its connection. -/
def decideApplies (p : Fuzz σ) (m : Message) (w : World) : Bool × Fuzz σ × World :=
  match p.applies with
  | some applies => (applies, p, w)
  | none =>
    let applies := p.wants m.connection.program
    let w :=
      if applies then w
      else
        w.log .info .fuzz "connection does not match program filter, fuzz pass inert"
          [("connection", .plain (toString m.connection.id)),
            ("program", programField m.connection.program)]
    (applies, { p with applies := some applies }, w)

def noteConnection (p : Fuzz σ) (connection : Connection) : Fuzz σ :=
  { p with synth := p.synth.map fun s => s.noteConnection connection }

def checkReadiness [EventSource σ] (p : Fuzz σ) (now : Nat) (w : World) : Fuzz σ × World :=
  match p.synth with
  | none => (p, w)
  | some s =>
    let (s, w) := s.checkReadiness p.tracker now w
    ({ p with synth := some s }, w)

/-- The event is one that block mode keeps back. -/
def keepsBack (p : Fuzz σ) (resolved : Option Resolved) : Bool :=
  p.blocks && (resolved.map fun r => blockedInterfaces.contains r.interface).getD false

def handleEvent (ctx : Context) (t : Transit) (p : Fuzz σ) : Handled (Fuzz σ) :=
  let (applies, p, w) := p.decideApplies t.message t.world
  if !applies then ⟨p, { t with world := w }, .proceed⟩
  else
    let p := p.noteConnection t.message.connection
    let resolved := ctx.objects.resolve t.message
    if p.keepsBack resolved then ⟨p, { t with world := w, skipped := true }, .proceed⟩
    else
      let seen := p.tracker.observeServer resolved t.message ctx.now
      ⟨{ p with tracker := seen.tracker },
        { t with message := seen.message, world := w.report seen.report }, .proceed⟩

def handleRequest [EventSource σ] (ctx : Context) (t : Transit) (p : Fuzz σ) :
    Handled (Fuzz σ) :=
  let (applies, p, w) := p.decideApplies t.message t.world
  if !applies then ⟨p, { t with world := w }, .proceed⟩
  else
    let seen := p.tracker.observeClient (ctx.objects.resolve t.message) t.message
    let p := { p with tracker := seen.tracker }.noteConnection t.message.connection
    let (p, w) := p.checkReadiness ctx.now (w.report seen.report)
    ⟨p, { t with message := seen.message, world := w }, .proceed⟩

def settle (p : Fuzz σ) (outcome : Except Fault (Option Gesture)) (w : World) :
    Fuzz σ × World :=
  match outcome with
  | .ok _ => ({ p with writeFailures := 0 }, w)
  | .error (.transport reason) =>
    let failures := p.writeFailures + 1
    let w := w.count fun m =>
      { m with transportErrors := m.transportErrors.increment [("pass", "fuzz")] }
    let w :=
      if reportedFailures ≤ failures then
        w.log .error .fuzz "synthesized input keeps failing to write"
          [("error", .plain reason), ("failures", .number failures)]
      else
        w.log .warn .fuzz "synthesized write failed, retrying next tick"
          [("error", .plain reason)]
    ({ p with writeFailures := failures }, w)
  | .error fault => (p, w.log .warn .fuzz "synthesis skipped" [("error", .plain fault.text)])

def inject [EventSource σ] (now : Nat) (p : Fuzz σ) (w : World) : Fuzz σ × World :=
  let (p, w) := p.checkReadiness now w
  match p.synth with
  | none => (p, w)
  | some s =>
    let tick := s.tick now p.tracker w
    { p with synth := some tick.synth, tracker := tick.tracker }.settle tick.outcome tick.world

instance [EventSource σ] [LoadSource σ] : Pass (Fuzz σ) where
  name _ := "fuzz"
  usage _ :=
    "fuzz [block] [verbose] [program=<name>] [delay_min=<ms>] [delay_max=<ms>] <seed|script>"
  pinned _ := false
  init := configure
  onEvent := handleEvent
  onRequest := handleRequest
  idle now i p :=
    let (p, w) := p.inject now i.world
    (p, { i with world := w })
  finalize w p := (p, w)

end Fuzz

end WaylandProxy
