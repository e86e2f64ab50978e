/-
# Yaml.Scalar -- the text of a scalar

A scalar is written plainly, between single or double quotes, or as a block of lines.  In
the first three a line break inside stands for a space, and `n + 1` breaks in a row for
`n` line feeds; blanks around breaks are dropped.  A block keeps its breaks (literal) or
folds them between lines that do not begin with a blank (folded), and its header says what
becomes of the breaks at its end.

Each reader returns the text and the place after it, or nothing where the text is not well
formed.  A plain scalar also tells whether a line ended after it.  While a scalar is read, its
characters are held latest first.
-/
import WaylandProxy.Yaml.Cursor

namespace WaylandProxy.Yaml

set_option autoImplicit false

inductive Style where
  | plain
  | singleQuoted
  | doubleQuoted
  | literal
  | folded
  deriving DecidableEq, Repr

/-- What stands between two runs of characters. -/
structure Gap where
  /-- Blanks, as far as no line ended, latest first. -/
  blanks : List Char
  /-- A line ended. -/
  broken : Bool
  /-- The first end of a line, unless it was escaped. -/
  first : Option Char
  /-- The ends of the empty lines after it, latest first. -/
  more : List Char

namespace Gap

def none : Gap := ⟨[], false, .none, []⟩

def escaped : Gap := ⟨[], true, .none, []⟩

/-- What a gap reads as, latest first. -/
def text (g : Gap) : List Char :=
  if g.broken then
    match g.first with
    | some '\n' => if g.more.isEmpty then [' '] else g.more
    | some c => g.more ++ [c]
    | .none => g.more
  else g.blanks

/-- The gap at a cursor, continuing `g`.  A tab that indents to the left of `limit` is
refused. -/
def read (limit : Nat) : Nat → Gap → Cursor → Option (Gap × Cursor)
  | 0, g, c => some (g, c)
  | fuel + 1, g, c =>
    match c.peek with
    | .none => some (g, c)
    | some ch =>
      if isSpace ch then
        if g.broken then
          if c.column < limit && ch = '\t' then .none else read limit fuel g (c.skip 1)
        else read limit fuel { g with blanks := ch :: g.blanks } (c.skip 1)
      else if isBreak ch then
        let (b, c) := c.takeBreak
        if g.broken then read limit fuel { g with more := b.toList ++ g.more } c
        else read limit fuel ⟨[], true, b, g.more⟩ c
      else some (g, c)

end Gap

namespace Scalar

/-- A character that ends a plain scalar inside brackets. -/
def isFlowEnd (c : Char) : Bool :=
  c = ',' || c = '[' || c = ']' || c = '{' || c = '}'

/-- A run of characters of a plain scalar: up to a blank, a colon before a blank, or, in
brackets, one of their characters. -/
def plainRun (inFlow : Bool) : Nat → List Char → Cursor → Option (List Char × Cursor)
  | 0, run, c => some (run, c)
  | fuel + 1, run, c =>
    match c.peek with
    | none => some (run, c)
    | some ch =>
      let next := c.peekAt 1
      if endsWord (some ch) then some (run, c)
      else if inFlow && ch = ':' && (next.map fun n => isFlowEnd n || n = '?').getD false then none
      else if (ch = ':' && endsWord next) || (inFlow && isFlowEnd ch) then some (run, c)
      else plainRun inFlow fuel (ch :: run) (c.skip 1)

/-- A plain scalar, its text so far being `text`, latest first, and the gap after it `gap`. -/
def plainFrom (inFlow : Bool) (indent : Nat) :
    Nat → List Char → Gap → Cursor → Option (List Char × Cursor × Bool)
  | 0, text, gap, c => some (text, c, gap.broken)
  | fuel + 1, text, gap, c =>
    if c.atDocumentMark || c.peek = some '#' then some (text, c, gap.broken)
    else do
      let (run, c) ← plainRun inFlow (c.left + 1) [] c
      let (text, gap) := if run.isEmpty then (text, gap) else (run ++ (gap.text ++ text), Gap.none)
      match c.peek with
      | none => some (text, c, gap.broken)
      | some ch =>
        if endsWord (some ch) then
          let (gap, c) ← Gap.read indent (c.left + 1) gap c
          if !inFlow && c.column < indent then some (text, c, gap.broken)
          else plainFrom inFlow indent fuel text gap c
        else some (text, c, gap.broken)

/-- A plain scalar whose lines are indented by `indent`: its text, the place after it, and
whether a line ended there. -/
def plain (inFlow : Bool) (indent : Nat) (c : Cursor) : Option (List Char × Cursor × Bool) :=
  (plainFrom inFlow indent (c.left + 1) [] .none c).map fun (text, after) => (text.reverse, after)

def hexValue? (digits : List Char) : Option Nat :=
  digits.foldlM
    (fun value c =>
      if c.isDigit then some (value * 16 + (c.toNat - 48))
      else if 'a' ≤ c ∧ c ≤ 'f' then some (value * 16 + (c.toNat - 87))
      else if 'A' ≤ c ∧ c ≤ 'F' then some (value * 16 + (c.toNat - 55))
      else none)
    0

/-- The character with a code point, if there is one. -/
def charOf? (value : Nat) : Option Char :=
  if h : value.isValidChar then some (Char.ofNatAux value h) else none

/-- The character that an escape stands for, and how long the escape is after its
backslash. -/
def escape? (rest : List Char) : Option (Char × Nat) :=
  let coded (count : Nat) : Option (Char × Nat) :=
    let digits := (rest.drop 1).take count
    if digits.length < count then none
    else (hexValue? digits).bind fun value => (charOf? value).map fun c => (c, count + 1)
  let plainly (code : Nat) : Option (Char × Nat) := some (Char.ofNat code, 1)
  match rest with
  | '0' :: _ => plainly 0
  | 'a' :: _ => plainly 7
  | 'b' :: _ => plainly 8
  | 't' :: _ => plainly 9
  | '\t' :: _ => plainly 9
  | 'n' :: _ => plainly 10
  | 'v' :: _ => plainly 11
  | 'f' :: _ => plainly 12
  | 'r' :: _ => plainly 13
  | 'e' :: _ => plainly 27
  | ' ' :: _ => plainly 32
  | '"' :: _ => plainly 34
  | '/' :: _ => plainly 47
  | '\\' :: _ => plainly 92
  | 'N' :: _ => plainly 0x85
  | '_' :: _ => plainly 0xA0
  | 'L' :: _ => plainly 0x2028
  | 'P' :: _ => plainly 0x2029
  | 'x' :: _ => coded 2
  | 'u' :: _ => coded 4
  | 'U' :: _ => coded 8
  | _ => none

def quote : Char := '\x27'

/-- A run of characters between quotes, up to a blank or the closing quote; an escaped end
of a line ends it too, with the gap that begins there. -/
def quotedRun (single : Bool) : Nat → List Char → Cursor → Option (List Char × Gap × Cursor)
  | 0, run, c => some (run, .none, c)
  | fuel + 1, run, c =>
    match c.peek with
    | none => some (run, .none, c)
    | some ch =>
      if endsWord (some ch) then some (run, .none, c)
      else if single then
        if ch = quote then
          if c.peekAt 1 = some quote then quotedRun single fuel (quote :: run) (c.skip 2)
          else some (run, .none, c)
        else quotedRun single fuel (ch :: run) (c.skip 1)
      else if ch = '"' then some (run, .none, c)
      else if ch = '\\' then
        if (c.peekAt 1).any isBreak then some (run, .escaped, (c.skip 1).takeBreak.2)
        else do
          let (escaped, length) ← escape? (c.rest.drop 1)
          quotedRun single fuel (escaped :: run) (c.skip (length + 1))
      else quotedRun single fuel (ch :: run) (c.skip 1)

/-- A quoted scalar after its opening quote, its text so far being `text`, latest first. -/
def quotedFrom (single : Bool) : Nat → List Char → Cursor → Option (List Char × Cursor)
  | 0, _, _ => none
  | fuel + 1, text, c =>
    if c.atDocumentMark || c.peek.isNone then none
    else do
      let (run, gap, c) ← quotedRun single (c.left + 1) [] c
      let text := run ++ text
      if !gap.broken && c.peek = some (if single then quote else '"') then
        some (text.reverse, c.skip 1)
      else
        let (gap, c) ← Gap.read 0 (c.left + 1) gap c
        quotedFrom single fuel (gap.text ++ text) c

def quoted (single : Bool) (c : Cursor) : Option (List Char × Cursor) :=
  quotedFrom single (c.left + 1) [] (c.skip 1)

/-- What becomes of the ends of lines at the end of a block. -/
inductive Chomp where
  | strip
  | clip
  | keep
  deriving DecidableEq, Repr

/-- The chomping that a character of a block's header stands for. -/
def chomp? : Option Char → Option Chomp
  | some '+' => some .keep
  | some '-' => some .strip
  | _ => none

/-- The indentation that a character of a block's header gives; zero is refused. -/
def increment? (ch : Option Char) : Option (Option Nat) :=
  match ch with
  | some c =>
    if c.isDigit then (if c = '0' then none else some (some (c.toNat - 48))) else some none
  | none => some none

/-- The header of a block after its mark: chomping and indentation in either order, then
nothing but a comment up to the end of the line. -/
def blockHeader (c : Cursor) : Option (Chomp × Option Nat × Cursor) := do
  let (chomp, increment, c) ←
    match chomp? c.peek with
    | some chomp => do
      let c := c.skip 1
      let increment ← increment? c.peek
      some (chomp, increment, if increment.isSome then c.skip 1 else c)
    | none => do
      let increment ← increment? c.peek
      let c := if increment.isSome then c.skip 1 else c
      if increment.isSome then
        match chomp? c.peek with
        | some chomp => some (chomp, increment, c.skip 1)
        | none => some (.clip, increment, c)
      else some (.clip, increment, c)
  let c := c.skipWhile isSpace
  let c := if c.peek = some '#' then c.skipWhile fun ch => !isBreak ch else c
  if endsLine c.peek then some (chomp, increment, c.takeBreak.2) else none

/-- The ends of empty lines before a line of a block, latest first, and the widest indentation
seen.  `indent` is the indentation of the block, if that is known. -/
def blockBreaks (indent : Option Nat) :
    Nat → List Char → Nat → Cursor → Option (List Char × Nat × Cursor)
  | 0, breaks, widest, c => some (breaks, widest, c)
  | fuel + 1, breaks, widest, c =>
    let blanks := (c.rest.takeWhile (· = ' ')).length
    let c := c.skip (match indent with
      | some n => min blanks (n - c.column)
      | none => blanks)
    let widest := max widest c.column
    let indenting := match indent with
      | some n => decide (c.column < n)
      | none => true
    if indenting && c.peek = some '\t' then none
    else
      match c.takeBreak with
      | (some b, c) => blockBreaks indent fuel (b :: breaks) widest c
      | (none, c) => some (breaks, widest, c)

/-- The state between two lines of a block. -/
structure Block where
  /-- The text so far, latest first. -/
  text : List Char
  /-- The end of the line before. -/
  ending : List Char
  /-- The ends of the empty lines after it, latest first. -/
  breaks : List Char
  /-- The line before begins with a blank. -/
  blankBefore : Bool

def blockLines (fold : Bool) (indent : Nat) : Nat → Block → Cursor → Option (Block × Cursor)
  | 0, b, c => some (b, c)
  | fuel + 1, b, c =>
    match c.peek with
    | none => some (b, c)
    | some ch =>
      if c.column ≠ indent then some (b, c)
      else do
        let blank := isSpace ch
        let joined :=
          if fold && b.ending.head? = some '\n' && !b.blankBefore && !blank then
            (if b.breaks.isEmpty then [' '] else [])
          else b.ending
        let (line, c) := c.takeWhile fun ch => !isBreak ch
        let (ending, c) := c.takeBreak
        let (breaks, _, c) ← blockBreaks (some indent) (c.left + 1) [] 0 c
        blockLines fold indent fuel
          ⟨line.reverse ++ (b.breaks ++ (joined ++ b.text)), ending.toList, breaks, blank⟩ c

/-- A block scalar at its mark, inside a collection indented by `parent`, which is `-1`
outside of all. -/
def block (fold : Bool) (parent : Int) (c : Cursor) : Option (List Char × Cursor) := do
  let (chomp, increment, c) ← blockHeader (c.skip 1)
  let given := increment.map fun n => parent.toNat + n
  let (breaks, widest, c) ← blockBreaks given (c.left + 1) [] 0 c
  let indent := given.getD (max widest (max (parent + 1).toNat 1))
  let (b, c) ← blockLines fold indent (c.left + 1) ⟨[], [], breaks, false⟩ c
  let text := match chomp with
    | .strip => b.text
    | .clip => b.ending ++ b.text
    | .keep => b.breaks ++ (b.ending ++ b.text)
  some (text.reverse, c)

end Scalar

end WaylandProxy.Yaml
