/-
# Pass.Router -- the chain of one connection

The router holds the passes of a connection in the order of their registration, the
pinned one, which runs last, and the map of objects.  A message goes through the passes
until one of them stops the chain; it is forwarded unless one of these asked to skip it.
Only then does the map see it, so the passes resolve a message by what went before.

A pass whose set-up fails is not kept, and a second pinned pass is refused before its
set-up begins.  At the end every pass is finalized once, the pinned one first and then
the others from the last to the first.
-/
import WaylandProxy.Pass.Basic

namespace WaylandProxy

set_option autoImplicit false

/-- The passes of one connection and what they share. -/
structure Router (σ : Type) where
  /-- The passes in the order of their registration, but for the pinned one. -/
  passes : List σ
  /-- The pass that runs after all others. -/
  pinned : Option σ
  objects : ObjectMap
  world : World
  /-- The session is to end. -/
  exit : Bool
  finalized : Bool

structure Routed (σ : Type) where
  router : Router σ
  message : Message
  /-- The message is to be forwarded. -/
  forward : Bool

namespace Router

variable {σ : Type}

def start (objects : ObjectMap) (world : World) : Router σ where
  passes := []
  pinned := none
  objects := objects
  world := world
  exit := false
  finalized := false

def chain (r : Router σ) : List σ :=
  r.passes ++ r.pinned.toList

/-- The names of the passes in the order in which they run. -/
def passNames [Pass σ] (r : Router σ) : List String :=
  r.chain.map Pass.name

/-- Set a pass up and put it at the end of the chain, or before the pinned one. -/
def register [Pass σ] (r : Router σ) (storage : Storage) (pass : σ) (args : List String) :
    Except Fault Unit × Router σ :=
  let name := Pass.name pass
  if Pass.pinned pass ∧ r.pinned.isSome then
    (.error (.configuration ("pass " ++ name ++ ": another pinned pass is already registered")), r)
  else
    match Pass.setUp storage args r.world pass with
    | (.error fault, w) =>
      let w := w.log .error .router "pass init failed"
        [("pass", .string name), ("error", .plain fault.text)]
      let w := w.log .info .router "usage"
        [("pass", .string name), ("usage", .string (Pass.usage pass))]
      (.error fault, { r with world := w })
    | (.ok ready, w) =>
      if Pass.pinned ready then (.ok (), { r with pinned := some ready, world := w })
      else (.ok (), { r with passes := r.passes ++ [ready], world := w })

/-- Let a message through passes until one stops the chain: the passes after it, the
message in transit, and whether the chain was stopped. -/
def through [Pass σ] (direction : Direction) (ctx : Context) :
    List σ → Transit → List σ × Transit × Verdict
  | [], t => ([], t, .proceed)
  | p :: rest, t =>
    let handled := Pass.handle direction ctx t p
    match handled.verdict with
    | .stopChain => (handled.pass :: rest, handled.transit, .stopChain)
    | .proceed =>
      let (rest, t, verdict) := through direction ctx rest handled.transit
      (handled.pass :: rest, t, verdict)

/-- The pinned pass, if the chain gets that far. -/
def throughPinned [Pass σ] (direction : Direction) (ctx : Context) (verdict : Verdict)
    (pinned : Option σ) (t : Transit) : Option σ × Transit :=
  match verdict, pinned with
  | .proceed, some p =>
    let handled := Pass.handle direction ctx t p
    (some handled.pass, handled.transit)
  | _, _ => (pinned, t)

/-- The metrics with one more message of a direction.  How long the message took is not modelled:
its duration is observed as zero, so that of the durations only their number means something. -/
def countRouted (direction : Direction) (forward : Bool) (m : Metrics) : Metrics :=
  let labels := [("direction", direction.name)]
  { m with
    routed := m.routed.increment labels
    dropped := if forward then m.dropped else m.dropped.increment labels
    routeDuration := m.routeDuration.observe labels 0 }

def route [Pass σ] (r : Router σ) (m : Message) (now : Nat) : Routed σ :=
  let direction := m.direction
  let ctx : Context := ⟨r.objects, now⟩
  let (passes, t, verdict) := through direction ctx r.passes ⟨m, false, r.exit, r.world⟩
  let (pinned, t) := throughPinned direction ctx verdict r.pinned t
  let forward := !t.skipped
  { router := { r with
      passes := passes
      pinned := pinned
      objects := r.objects.observe t.message
      world := t.world.count (countRouted direction forward)
      exit := t.exit }
    message := t.message
    forward := forward }

def idleAll [Pass σ] (now : Nat) : List σ → Idle → List σ × Idle
  | [], i => ([], i)
  | p :: rest, i =>
    let (p, i) := Pass.rest now i p
    let (rest, i) := idleAll now rest i
    (p :: rest, i)

def idle [Pass σ] (r : Router σ) (now : Nat) : Router σ :=
  let (passes, i) := idleAll now r.passes ⟨r.exit, r.world⟩
  match r.pinned with
  | none => { r with passes := passes, world := i.world, exit := i.exit }
  | some p =>
    let (p, i) := Pass.rest now i p
    { r with passes := passes, pinned := some p, world := i.world, exit := i.exit }

/-- Finalize passes from the last to the first. -/
def finalizeAll [Pass σ] : List σ → World → List σ × World
  | [], w => ([], w)
  | p :: rest, w =>
    let (rest, w) := finalizeAll rest w
    let (p, w) := Pass.cleanUp w p
    (p :: rest, w)

/-- Finalize every pass, unless that was done. -/
def shutdown [Pass σ] (r : Router σ) : Router σ :=
  if r.finalized then r
  else
    let (pinned, w) := match r.pinned with
      | none => (none, r.world)
      | some p =>
        let (p, w) := Pass.cleanUp r.world p
        (some p, w)
    let (passes, w) := finalizeAll r.passes w
    { r with passes := passes, pinned := pinned, world := w, exit := true, finalized := true }

def requestExit (r : Router σ) : Router σ :=
  { r with exit := true }

end Router

end WaylandProxy
