/-
# Number.Decimal -- whole numbers written in digits

A whole number is one optional plus sign and at least one digit.  `readDigits` goes
through the digits from the left and stops at the first thing wrong: a character
that is no digit of the radix, or a digit that takes the value to the bound.
So a number that is too large already is refused for its size, whatever follows.
-/

namespace WaylandProxy.Number.Decimal

set_option autoImplicit false

/-- Why a text is not a whole number below the bound. -/
inductive Flaw where
  | empty
  | invalidDigit
  | tooLarge
  deriving DecidableEq, Repr

def Flaw.text : Flaw → String
  | .empty => "cannot parse integer from empty string"
  | .invalidDigit => "invalid digit found in string"
  | .tooLarge => "number too large to fit in target type"

/-- The value of an ASCII digit, letters of either case standing for ten and up. -/
def digit? (radix : Nat) (c : Char) : Option Nat :=
  let value :=
    if c.isDigit then c.toNat - 48
    else if 'a' ≤ c ∧ c ≤ 'z' then c.toNat - 87
    else if 'A' ≤ c ∧ c ≤ 'Z' then c.toNat - 55
    else radix
  if value < radix then some value else none

/-- One more digit on the right of a value. -/
def push (radix bound value : Nat) (c : Char) : Except Flaw Nat :=
  match digit? radix c with
  | none => .error .invalidDigit
  | some d => if value * radix + d < bound then .ok (value * radix + d) else .error .tooLarge

/-- The value of a run of digits without a sign. -/
def readDigits (radix bound : Nat) (s : List Char) : Except Flaw Nat :=
  if s.isEmpty then .error .empty else s.foldlM (push radix bound) 0

/-- A whole number below `bound` in the given radix, with an optional plus sign. -/
def readRadix (radix bound : Nat) : List Char → Except Flaw Nat
  | ['+'] => .error .invalidDigit
  | '+' :: digits => readDigits radix bound digits
  | digits => readDigits radix bound digits

/-- A decimal number below `2 ^ 64`. -/
def readU64 (s : String) : Except Flaw UInt64 :=
  (readRadix 10 UInt64.size s.toList).map UInt64.ofNat

/-- A decimal number below `2 ^ 32`. -/
def readU32 (s : String) : Except Flaw UInt32 :=
  (readRadix 10 UInt32.size s.toList).map UInt32.ofNat

end WaylandProxy.Number.Decimal
