/-
# Fault -- what can go wrong, by kind

Every operation that can fail names one of five kinds of fault.  The kind decides
how callers react (a refused write is retried, a bad argument ends the start-up);
the reason is for the operator.  `code` is the stable name of the kind and `text`
the wording, kind first.
-/

namespace WaylandProxy

set_option autoImplicit false

inductive Fault where
  /-- A message or capture line is not what the wire format allows. -/
  | format (reason : String)
  /-- As many sync callbacks as can be followed are pending already. -/
  | overflow (capacity : Nat)
  /-- A peer did not take what was written to it. -/
  | transport (reason : String)
  /-- Pass arguments or a configuration file are not acceptable. -/
  | configuration (reason : String)
  /-- The proxy reached a state it should not be in. -/
  | internal (reason : String)
  deriving DecidableEq, Repr

namespace Fault

/-- The stable name of the kind of a fault. -/
def code : Fault → String
  | .format _ => "PROTOCOL_FORMAT"
  | .overflow _ => "CORRELATION_OVERFLOW"
  | .transport _ => "TRANSPORT_WRITE"
  | .configuration _ => "CONFIGURATION"
  | .internal _ => "INTERNAL"

def text : Fault → String
  | .format reason => "protocol format: " ++ reason
  | .overflow capacity =>
    "correlation overflow: " ++ toString capacity ++ " sync callbacks already pending"
  | .transport reason => "transport write failed: " ++ reason
  | .configuration reason => "configuration: " ++ reason
  | .internal reason => "internal: " ++ reason

end Fault

end WaylandProxy
