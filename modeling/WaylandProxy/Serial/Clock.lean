/-
# Serial.Clock -- time as the server counts it

The server stamps what it sends with milliseconds of its own.  A frame callback that it
answers tells which stamp belongs to which moment; from there the clock runs on, and a
moment before it has the same stamp.  Stamps wrap at `2 ^ 32`.
-/
import WaylandProxy.Journal

namespace WaylandProxy

set_option autoImplicit false

/-- A moment and the server's stamp of it. -/
structure Clock where
  anchor : Nat
  stamp : UInt32
  deriving DecidableEq, Repr

namespace Clock

def stampAt (c : Clock) (now : Nat) : UInt32 :=
  c.stamp + UInt32.ofNat ((now - c.anchor) / 1000000)

end Clock

end WaylandProxy
