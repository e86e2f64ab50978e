/-
# Yaml.Cursor -- a place in the text of a document

A cursor is what is left of the text together with the line and column it starts at.  Of
the characters of a document, five end a line: line feed, carriage return, next line, line
separator and paragraph separator.  The first three, and a carriage return with its line
feed, read as a line feed; the separators stay what they are.
-/

namespace WaylandProxy.Yaml

set_option autoImplicit false

def isAllowed (c : Char) : Bool :=
  let n := c.toNat
  n = 9 || n = 10 || n = 13 || (0x20 ≤ n && n ≤ 0x7E) || n = 0x85 || (0xA0 ≤ n && n ≤ 0xFFFD) ||
    0x10000 ≤ n

def isBreak (c : Char) : Bool :=
  let n := c.toNat
  n = 10 || n = 13 || n = 0x85 || n = 0x2028 || n = 0x2029

def isSpace (c : Char) : Bool :=
  c = ' ' || c = '\t'

/-- A character of a name: an ASCII letter or digit, an underscore or a hyphen. -/
def isNameChar (c : Char) : Bool :=
  c.isAlphanum || c = '_' || c = '-'

/-- A byte order mark, which counts as a blank only where a line begins. -/
def isOrderMark (c : Char) : Bool :=
  c = '\ufeff'

/-- Nothing, a space, a tab or the end of a line. -/
def endsWord : Option Char → Bool
  | none => true
  | some c => isSpace c || isBreak c

/-- Nothing or the end of a line. -/
def endsLine : Option Char → Bool
  | none => true
  | some c => isBreak c

structure Cursor where
  rest : List Char
  /-- How many characters are left. -/
  left : Nat
  /-- How many characters come before. -/
  index : Nat
  line : Nat
  column : Nat
  left_eq : left = rest.length

namespace Cursor

def start (text : List Char) : Cursor :=
  ⟨text, text.length, 0, 0, 0, rfl⟩

def peek (c : Cursor) : Option Char :=
  c.rest.head?

def peekAt (c : Cursor) (offset : Nat) : Option Char :=
  c.rest[offset]?

/-- The place some characters of the same line on. -/
def skip (c : Cursor) (count : Nat) : Cursor :=
  ⟨c.rest.drop count, c.left - count, c.index + count, c.line, c.column + count,
    by rw [c.left_eq, List.length_drop]⟩

/-- The place some characters on, at the start of the next line. -/
def nextLine (c : Cursor) (count : Nat) : Cursor :=
  ⟨c.rest.drop count, c.left - count, c.index + count, c.line + 1, 0,
    by rw [c.left_eq, List.length_drop]⟩

/-- The place after the end of the line at the cursor, and what that end reads as. -/
def takeBreak (c : Cursor) : Option Char × Cursor :=
  match c.rest with
  | '\r' :: '\n' :: _ => (some '\n', c.nextLine 2)
  | e :: _ =>
    if isBreak e then
      (some (if e.toNat = 0x2028 || e.toNat = 0x2029 then e else '\n'), c.nextLine 1)
    else (none, c)
  | [] => (none, c)

/-- The characters at the cursor that satisfy `p`, all of one line, and the place after
them. -/
def takeWhile (c : Cursor) (p : Char → Bool) : List Char × Cursor :=
  let taken := c.rest.takeWhile p
  (taken, c.skip taken.length)

def skipWhile (c : Cursor) (p : Char → Bool) : Cursor :=
  (c.takeWhile p).2

def startsWith (c : Cursor) (text : String) : Bool :=
  text.toList.isPrefixOf c.rest

/-- A line of three hyphens or three points, alone or before a blank. -/
def atDocumentMark (c : Cursor) : Bool :=
  c.column = 0 && (c.startsWith "---" || c.startsWith "...") && endsWord (c.peekAt 3)

end Cursor

end WaylandProxy.Yaml
