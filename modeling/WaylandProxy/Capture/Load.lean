/-
# Capture.Load -- the messages of a whole capture

Loading keeps the messages of a capture in order.  A line that is malformed is left out,
counted and reported with its number; the lines around it are not affected.
-/
import WaylandProxy.Capture.Line
import WaylandProxy.World

namespace WaylandProxy

set_option autoImplicit false

structure Capture where
  entries : List Entry
  /-- The malformed lines by number, and what is wrong with each. -/
  skipped : List (Nat × Fault)
  deriving DecidableEq, Repr

namespace Capture

/-- What some lines hold, the first of them having the given number. -/
def ofLines (connection : Connection) : Nat → List String → Capture
  | _, [] => ⟨[], []⟩
  | number, line :: rest =>
    let after := ofLines connection (number + 1) rest
    match Entry.decode connection line with
    | .ok none => after
    | .ok (some entry) => { after with entries := entry :: after.entries }
    | .error fault => { after with skipped := (number, fault) :: after.skipped }

def ofText (connection : Connection) (text : String) : Capture :=
  ofLines connection 1 (Text.lines text)

def skippedEntry (skip : Nat × Fault) : Log.Entry :=
  ⟨.warn, .session, "skipping capture line",
    [("line", .number skip.1), ("error", .plain skip.2.text)]⟩

/-- The world with one malformed line counted and logged. -/
def reportSkip (w : World) (skip : Nat × Fault) : World :=
  (w.count fun m =>
    { m with protocolErrors := m.protocolErrors.increment [("pass", "session")] }).note
      (.logged (skippedEntry skip))

/-- The capture of a text, and the world in which its malformed lines are reported. -/
def load (connection : Connection) (text : String) (w : World) : Capture × World :=
  let capture := ofText connection text
  (capture, capture.skipped.foldl reportSkip w)

end Capture

end WaylandProxy
