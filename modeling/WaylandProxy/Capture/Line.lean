/-
# Capture.Line -- one message on one line

A capture holds one message on a line: its offset from the start in milliseconds, the
letter of the peer it comes from, and its bytes in hexadecimal, between blanks.  Blank
lines and lines that begin with a number sign hold no message.

`encode` writes the line of a message, and `decode` reads lines; what is wrong with a line
that is neither is named from the left.
-/
import WaylandProxy.Journal
import WaylandProxy.Number.Decimal
import WaylandProxy.Text.Blank
import WaylandProxy.Text.Hex
import WaylandProxy.Text.Utf8

namespace WaylandProxy

set_option autoImplicit false

/-- A captured message and its offset from the start. -/
structure Entry where
  offset : Nat
  message : Message
  deriving DecidableEq, Repr

namespace Entry

/-- Why a line holds no message although it should. -/
inductive Flaw where
  | fieldCount (line : String)
  | offset (text : String) (flaw : Number.Decimal.Flaw)
  | direction (text : String)
  | payload (flaw : Text.Hex.Flaw)
  deriving DecidableEq, Repr

def payloadText : Text.Hex.Flaw → String
  | .oddLength => "Odd number of digits"
  | .notDigit byte position =>
    "Invalid character " ++ Text.Quoted.char (Char.ofNat byte.toNat) ++ " at position " ++
      toString position

def Flaw.text : Flaw → String
  | .fieldCount line => "capture line needs 3 fields: " ++ line
  | .offset text flaw => "bad capture offset " ++ text ++ ": " ++ flaw.text
  | .direction text => "bad capture direction " ++ text
  | .payload flaw => "bad capture payload: " ++ payloadText flaw

def Flaw.fault (flaw : Flaw) : Fault :=
  .format flaw.text

def directionOf? (tag : String) : Option Direction :=
  if tag = "S" then some .fromServer
  else if tag = "C" then some .fromClient
  else none

/-- The three fields of a line as a message on a connection. -/
def ofFields (connection : Connection) (offset tag payload : String) : Except Fault Entry :=
  match Number.Decimal.readU64 offset with
  | .error flaw => .error (Flaw.offset offset flaw).fault
  | .ok milliseconds =>
    match directionOf? tag with
    | none => .error (Flaw.direction tag).fault
    | some direction =>
      match Text.Hex.decode (Text.Utf8.encode payload) with
      | .error flaw => .error (Flaw.payload flaw).fault
      | .ok bytes =>
        (Message.decode direction connection bytes).map fun m => ⟨millis milliseconds.toNat, m⟩

def decode (connection : Connection) (line : String) : Except Fault (Option Entry) :=
  let line := Text.trim line
  if line.isEmpty || line.front = '#' then .ok none
  else
    match Text.fields line with
    | [offset, tag, payload] => (ofFields connection offset tag payload).map some
    | _ => .error (Flaw.fieldCount line).fault

def encodeLine (offset : Nat) (direction : Direction) (bytes : List UInt8) : String :=
  toString (offset / 1000000) ++ " " ++ direction.tag.toString ++ " " ++ Text.Hex.encode bytes

def encode (e : Entry) : String :=
  encodeLine e.offset e.message.direction e.message.toBytes

end Entry

end WaylandProxy
