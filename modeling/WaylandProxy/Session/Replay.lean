/-
# Session.Replay -- a capture through a chain of passes

A replay takes what its schedule says comes next: a message goes through the router and,
unless a pass held it back, to the other peer; a tick gives the passes their idle
opportunity.  Before each of these a pass may have asked for the end.  A peer that does not
take a message is reported, and the replay goes on.

`replay` is the whole run when nothing takes time but waiting: it goes straight to the
moment the schedule waits for.  The passes may be told another time than the schedule's, which
`clock` gives.
-/
import WaylandProxy.Pass.Router
import WaylandProxy.Session.Schedule

namespace WaylandProxy

set_option autoImplicit false

structure ReplayStats where
  /-- Messages that went through the chain. -/
  routed : Nat
  /-- Messages that the other peer took. -/
  forwarded : Nat
  /-- Lines of the capture that were malformed. -/
  skipped : Nat
  deriving DecidableEq, Repr

structure Replay (σ : Type) where
  router : Router σ
  schedule : Schedule
  stats : ReplayStats

namespace Replay

variable {σ : Type}

def start (router : Router σ) (schedule : Schedule) : Replay σ :=
  ⟨router, schedule, ⟨0, 0, 0⟩⟩

def receiver : Direction → Peer
  | .fromServer => .client
  | .fromClient => .server

/-- Write a message to the peer it is for and flush: the reason if that failed. -/
def send (m : Message) (now : Nat) (w : World) : Option String × World :=
  let peer := receiver m.direction
  match w.write peer m.connection m.toBytes now with
  | (some reason, w) => (some reason, w)
  | (none, w) => w.flush peer

def reportLost (peer : Peer) (reason : String) (w : World) : World :=
  (w.count fun m =>
    { m with transportErrors := m.transportErrors.increment [("side", peer.name)] }).log
      .warn .session "forward failed" [("side", .string peer.name), ("error", .plain reason)]

def forward (m : Message) (now : Nat) (w : World) : Bool × World :=
  match send m now w with
  | (none, w) => (true, w)
  | (some reason, w) => (false, reportLost (receiver m.direction) reason w)

/-- The replay after a message went through the chain at a moment. -/
def afterRoute (r : Replay σ) (rest : Schedule) (now : Nat) (routed : Routed σ) : Replay σ :=
  let stats := { r.stats with routed := r.stats.routed + 1 }
  if routed.forward then
    let (arrived, w) := forward routed.message now routed.router.world
    { router := { routed.router with world := w }
      schedule := rest
      stats := if arrived then { stats with forwarded := stats.forwarded + 1 } else stats }
  else ⟨routed.router, rest, stats⟩

/-- The replay after a message came by at a moment. -/
def deliver [Pass σ] (r : Replay σ) (entry : Entry) (rest : Schedule) (now : Nat) : Replay σ :=
  r.afterRoute rest now (r.router.route entry.message now)

def tick [Pass σ] (r : Replay σ) (rest : Schedule) (now : Nat) : Replay σ :=
  { r with router := r.router.idle now, schedule := rest }

def stopped (r : Replay σ) : Replay σ :=
  { r with
    router := { r.router with
      world := r.router.world.log .info .session "session end requested" [] } }

/-- The replay at its end, from a moment of the schedule on. -/
def run [Pass σ] (clock : Nat → Nat) (r : Replay σ) (now : Nat) : Replay σ :=
  if r.router.exit then r.stopped
  else
    match _h : r.schedule.next now with
    | .over => r
    | .deliver entry rest => run clock (r.deliver entry rest (clock now)) now
    | .tick rest => run clock (r.tick rest (clock now)) now
    | .wait moment rest => run clock { r with schedule := rest } moment
termination_by r.schedule.remaining now
decreasing_by
  · have less := Schedule.remaining_deliver _h
    simp only [deliver, afterRoute]
    split <;> exact less
  · exact Schedule.remaining_tick _h
  · exact Schedule.remaining_wait _h

end Replay

/-- Replay entries through a router, with a tick every `period` and for a `linger` after the
last one. -/
def replay {σ : Type} [Pass σ] (router : Router σ) (entries : List Entry) (period linger : Nat)
    (period_pos : 0 < period) (clock : Nat → Nat) : Replay σ :=
  (Replay.start router (.start entries period linger period_pos)).run clock 0

end WaylandProxy
