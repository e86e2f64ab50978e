/-
# Session.Run -- one configured session

A session reads its capture, makes sure that its output can be written, replays the capture
and finalizes the passes.  `begin` does what comes before the replay and `finish` what comes
after it, so that a program that waits in real time can take the steps of the replay itself;
`run` does all of it at once.  The capture is read before the output is made anew, so a
session may write over its own capture.

A session is started only with a period for its idle opportunities, which a valid configuration
has: there is no clock that ticks with a period of zero.
-/
import WaylandProxy.Capture.Load
import WaylandProxy.Config.Basic
import WaylandProxy.Session.Replay
import WaylandProxy.Storage

namespace WaylandProxy

set_option autoImplicit false

namespace Session

variable {σ : Type}

def withWorld (r : Router σ) (w : World) : Router σ :=
  { r with world := w }

def connection (c : SessionConfig) : Connection :=
  ⟨1, c.program⟩

def period (c : SessionConfig) : Nat :=
  millis c.tickIntervalMs.toNat

theorem period_pos {c : SessionConfig} (ticks : 1 ≤ c.tickIntervalMs) : 0 < period c := by
  have ticks : 1 ≤ c.tickIntervalMs.toNat := ticks
  unfold period millis
  omega

def outputFault? (storage : Storage) (c : SessionConfig) : Option Fault :=
  if c.output = Config.screenOutput then none
  else
    match storage.makeAnew c.output with
    | .ok () => none
    | .error reason =>
      some (.configuration ("create output " ++ c.output ++ " failed: " ++ reason))

/-- Load the capture, with its malformed lines counted. -/
def load (c : SessionConfig) (storage : Storage) (r : Router σ) :
    Except Fault Capture × Router σ :=
  match storage.readText c.capture with
  | .error reason =>
    (.error (.configuration ("read capture " ++ c.capture ++ " failed: " ++ reason)), r)
  | .ok text =>
    let (capture, w) := Capture.load (connection c) text r.world
    (.ok capture, withWorld r (w.log .info .session "capture loaded"
      [("capture", .plain c.capture), ("messages", .number capture.entries.length),
        ("skipped", .number capture.skipped.length)]))

def start (c : SessionConfig) (ticks : 1 ≤ c.tickIntervalMs) (capture : Capture)
    (r : Router σ) : Replay σ :=
  let schedule := Schedule.start capture.entries (period c) (millis c.lingerMs.toNat)
    (period_pos ticks)
  { Replay.start r schedule with stats := ⟨0, 0, capture.skipped.length⟩ }

/-- Load the capture and open the output: the replay at its start. -/
def begin (c : SessionConfig) (ticks : 1 ≤ c.tickIntervalMs) (storage : Storage)
    (r : Router σ) : Except Fault (Replay σ) × Router σ :=
  match load c storage r with
  | (.error fault, r) => (.error fault, r)
  | (.ok capture, r) =>
    match outputFault? storage c with
    | some fault => (.error fault, r)
    | none => (.ok (start c ticks capture r), r)

/-- Finalize the passes and log what was done. -/
def finish [Pass σ] (replay : Replay σ) : ReplayStats × Router σ :=
  let r := replay.router.shutdown
  let stats := replay.stats
  let w := r.world.log .info .session "session finished"
    [("routed", .number stats.routed), ("forwarded", .number stats.forwarded),
      ("skipped", .number stats.skipped)]
  (stats, withWorld r (w.log .info .session ("metrics\n" ++ w.metrics.render) []))

/-- The whole session, when nothing takes time but waiting. -/
def run [Pass σ] (c : SessionConfig) (storage : Storage) (clock : Nat → Nat) (r : Router σ)
    (ticks : 1 ≤ c.tickIntervalMs := by exact ValidConfig.ticks _) :
    Except Fault ReplayStats × Router σ :=
  match begin c ticks storage r with
  | (.error fault, r) => (.error fault, r)
  | (.ok replay, _) =>
    let (stats, r) := finish (replay.run clock 0)
    (.ok stats, r)

end Session

end WaylandProxy
