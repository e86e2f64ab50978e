/-
# Text.Quoted -- values as a reader of a log sees them

A quoted text stands between double quotes; a quoted character stands between
single ones.  The quote in use, the backslash, the tab, the carriage return, the
line feed and the null character are written with a backslash, and every other
character that does not show as itself as its code point in hexadecimal.

Absent and present values, and lists, are written with their brackets, so that a
present empty text is told from an absent one.
-/
import WaylandProxy.Text.Printable

namespace WaylandProxy.Text.Quoted

set_option autoImplicit false

def codePoint (c : Char) : String :=
  "\\u\x7b" ++ String.ofList (Nat.toDigits 16 c.toNat) ++ "\x7d"

/-- One character as it stands between the quotes `quote`. -/
def escape (quote c : Char) : String :=
  if c = '\t' then "\\t"
  else if c = '\r' then "\\r"
  else if c = '\n' then "\\n"
  else if c = '\\' then "\\\\"
  else if c.toNat = 0 then "\\0"
  else if c = quote then "\\" ++ c.toString
  else if isPrintable c then c.toString
  else codePoint c

def text (s : String) : String :=
  "\"" ++ String.join (s.toList.map (escape '"')) ++ "\""

def char (c : Char) : String :=
  "\x27" ++ escape '\x27' c ++ "\x27"

def option {α : Type} (each : α → String) : Option α → String
  | none => "None"
  | some value => "Some(" ++ each value ++ ")"

def list {α : Type} (each : α → String) (values : List α) : String :=
  "[" ++ ", ".intercalate (values.map each) ++ "]"

end WaylandProxy.Text.Quoted
