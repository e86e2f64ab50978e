/-
# Yaml.Tag -- the names of types

A node may carry a tag, a name of its type.  It is written as a handle and a suffix, or whole
between angle brackets.  In a suffix a percent sign with two hexadecimal digits stands for one
octet; such octets have to come in groups that begin as a character in UTF-8 does and go on for
as long as that beginning says.  The group need not be a character after all, so a tag is a
string of octets, held as a text whose characters have the octets as their code points.

The octet zero ends a tag: what is written after it counts for nothing, though it has to be well
formed.
-/
import WaylandProxy.Yaml.Scalar

namespace WaylandProxy.Yaml.Tag

set_option autoImplicit false

/-- A character that stands for itself in a suffix. -/
def isSuffixChar (c : Char) : Bool :=
  isNameChar c || ";/?:@&=+$.!~*\x27()".toList.contains c

/-- A character that stands for itself in a tag that is written whole, or in what a handle
stands for. -/
def isWholeChar (c : Char) : Bool :=
  isSuffixChar c || ",[]".toList.contains c

/-- The octet at a cursor, written as a percent sign and two digits, and the place after it. -/
def octet? (c : Cursor) : Option (Char × Cursor) :=
  match c.rest with
  | '%' :: high :: low :: _ =>
    (Scalar.hexValue? [high, low]).map fun value => (Char.ofNat value, c.skip 3)
  | _ => none

/-- How many octets a group has that begins with this one. -/
def groupLength? (first : Char) : Option Nat :=
  let n := first.toNat
  if n < 0x80 then some 1
  else if n < 0xC0 then none
  else if n < 0xE0 then some 2
  else if n < 0xF0 then some 3
  else if n < 0xF8 then some 4
  else none

def continues (octet : Char) : Bool :=
  0x80 ≤ octet.toNat && octet.toNat < 0xC0

def continuation? : Nat → Cursor → Option (List Char × Cursor)
  | 0, c => some ([], c)
  | count + 1, c => do
    let (octet, c) ← octet? c
    if continues octet then
      let (octets, c) ← continuation? count c
      some (octet :: octets, c)
    else none

def group? (c : Cursor) : Option (List Char × Cursor) := do
  let (first, c) ← octet? c
  let length ← groupLength? first
  let (octets, c) ← continuation? (length - 1) c
  some (first :: octets, c)

/-- The octets at a cursor, up to a character that neither belongs nor begins a group. -/
def octets? (belongs : Char → Bool) : Nat → Cursor → Option (List Char × Cursor)
  | 0, c => some ([], c)
  | fuel + 1, c =>
    match c.peek with
    | none => some ([], c)
    | some ch =>
      if ch = '%' then do
        let (octets, c) ← group? c
        let (later, c) ← octets? belongs fuel c
        some (octets ++ later, c)
      else if belongs ch then do
        let (later, c) ← octets? belongs fuel (c.skip 1)
        some (ch :: later, c)
      else some ([], c)

/-- The octets at a cursor and the place after them. -/
def take? (belongs : Char → Bool) (c : Cursor) : Option (List Char × Cursor) :=
  octets? belongs (c.left + 1) c

/-- What counts of some octets: those before the first zero. -/
def counting (octets : List Char) : String :=
  String.ofList (octets.takeWhile fun octet => octet.toNat ≠ 0)

/-- A tag: its handle, its suffix and the place after it.  A tag that is written whole has no
handle, and neither has the mark alone, which is its own suffix. -/
def read? (c : Cursor) : Option (String × String × Cursor) :=
  if c.peekAt 1 = some '<' then do
    let (whole, c) ← take? isWholeChar (c.skip 2)
    if whole.isEmpty || c.peek ≠ some '>' then none else some ("", counting whole, c.skip 1)
  else
    let (name, after) := (c.skip 1).takeWhile isNameChar
    if after.peek = some '!' then do
      let (suffix, c) ← take? isSuffixChar (after.skip 1)
      if suffix.isEmpty then none
      else some ("!" ++ String.ofList name ++ "!", counting suffix, c)
    else do
      let (suffix, c) ← take? isSuffixChar (c.skip 1)
      if (counting suffix).isEmpty then some ("", "!", c) else some ("!", counting suffix, c)

end WaylandProxy.Yaml.Tag
