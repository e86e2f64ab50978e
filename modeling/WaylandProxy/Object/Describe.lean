/-
# Object.Describe -- a message as one line of text

A line names the peer, the object with its interface, the method, and the argument
words as numbers: `[server] wl_pointer@7.motion(1000, 25600, 12800)`.  A method
without a name is given by its opcode, an object without interface as unknown.
-/
import WaylandProxy.Object.Map

namespace WaylandProxy

set_option autoImplicit false

namespace Message

def target (m : Message) : Option Resolved → String
  | none => "unknown@" ++ toString m.object ++ ".opcode#" ++ toString m.opcode
  | some r =>
    r.interface ++ "@" ++ toString m.object ++ "." ++
      match r.method with
      | some method => method
      | none => "opcode#" ++ toString m.opcode

def describe (m : Message) (resolved : Option Resolved) : String :=
  "[" ++ m.direction.name ++ "] " ++ m.target resolved ++
    "(" ++ ", ".intercalate (m.args.map toString) ++ ")"

end Message

end WaylandProxy
