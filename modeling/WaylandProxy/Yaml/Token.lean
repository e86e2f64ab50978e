/-
# Yaml.Token -- the structure of a document, made explicit

A document shows its structure by indentation, by brackets and by marks such as a hyphen or
a colon.  `tokenize` makes all of it explicit: a block collection gets a token where it
starts and where its indentation ends, and a key gets a token before it.

Whether something is a key is known only at the colon after it.  So whatever may be a key
is remembered as a candidate, one for each level of brackets, with the place in the token
list where the key's token would go.  A candidate must be on the line of the colon and not too
far before it.  In a block at its own indentation nothing but a key can stand, and there a
candidate that comes to nothing refuses the document.
-/
import WaylandProxy.Yaml.Scalar
import WaylandProxy.Yaml.Tag

namespace WaylandProxy.Yaml

set_option autoImplicit false

inductive Token where
  | version (major minor : Nat)
  | handle (name expansion : String)
  | documentStart
  | documentEnd
  | blockSequence
  | blockMapping
  | blockEnd
  | flowSequence
  | flowSequenceEnd
  | flowMapping
  | flowMappingEnd
  | blockEntry
  | flowEntry
  | key
  | value
  | alias (name : String)
  | anchor (name : String)
  | tag (handle suffix : String)
  | scalar (text : String) (style : Style)
  deriving DecidableEq, Repr

structure Found where
  /-- The tokens, latest first. -/
  tokens : List Token
  size : Nat
  size_eq : size = tokens.length

namespace Found

def empty : Found :=
  ⟨[], 0, rfl⟩

def push (f : Found) (token : Token) : Found :=
  ⟨token :: f.tokens, f.size + 1, by rw [f.size_eq, List.length_cons]⟩

/-- One more token, after the first `position` ones. -/
def insertAt (f : Found) (position : Nat) (token : Token) : Found :=
  let later := f.size - position
  ⟨f.tokens.take later ++ token :: f.tokens.drop later, f.size + 1, by
    have := f.size_eq
    simp only [List.length_append, List.length_take, List.length_cons, List.length_drop]
    omega⟩

end Found

/-- Something that is a key if a colon follows. -/
structure Candidate where
  /-- How many tokens come before it. -/
  position : Nat
  /-- Nothing but a key can stand there. -/
  required : Bool
  index : Nat
  line : Nat
  column : Nat

structure Tokenizer where
  cursor : Cursor
  found : Found
  /-- The indentation of the innermost block collection; `-1` outside of all. -/
  indent : Int
  /-- The indentations of the collections around it. -/
  outer : List Int
  /-- The candidate of each level of brackets, innermost first, under that of the block. -/
  candidates : List (Option Candidate)
  /-- A key may begin here. -/
  keyAllowed : Bool

namespace Tokenizer

def longestKey : Nat := 1024

def start (text : List Char) : Tokenizer where
  cursor := .start text
  found := .empty
  indent := -1
  outer := []
  candidates := [none]
  keyAllowed := true

def inFlow (t : Tokenizer) : Bool :=
  match t.candidates with
  | _ :: _ :: _ => true
  | _ => false

def column (t : Tokenizer) : Int :=
  t.cursor.column

def emit (t : Tokenizer) (token : Token) : Tokenizer :=
  { t with found := t.found.push token }

/-- The state with a token put after the first `position` ones. -/
def insertAt (t : Tokenizer) (position : Nat) (token : Token) : Tokenizer :=
  { t with found := t.found.insertAt position token }

def goto (t : Tokenizer) (c : Cursor) : Tokenizer :=
  { t with cursor := c }

def allowKeys (t : Tokenizer) (allowed : Bool) : Tokenizer :=
  { t with keyAllowed := allowed }

/-- Begin a block collection at a column, if that is further in, with its token after the
first `position` ones. -/
def openBlock (t : Tokenizer) (column : Int) (position : Nat) (token : Token) : Tokenizer :=
  if !t.inFlow && decide (t.indent < column) then
    { t with indent := column, outer := t.indent :: t.outer }.insertAt position token
  else t

/-- End the block collections further in than a column. -/
def closeBlocks (t : Tokenizer) (column : Int) : Tokenizer :=
  if t.inFlow then t
  else
    let rec close : Int → List Int → Found → Tokenizer
      | indent, [], found => { t with indent := indent, outer := [], found := found }
      | indent, next :: outer, found =>
        if column < indent then close next outer (found.push .blockEnd)
        else { t with indent := indent, outer := next :: outer, found := found }
    close t.indent t.outer t.found

/-- Give up the innermost candidate; one that had to be a key refuses the document. -/
def dropCandidate (t : Tokenizer) : Option Tokenizer :=
  match t.candidates with
  | some candidate :: rest =>
    if candidate.required then none else some { t with candidates := none :: rest }
  | _ => some t

/-- Remember what stands here as a candidate, if a key may begin here. -/
def saveCandidate (t : Tokenizer) : Option Tokenizer :=
  if t.keyAllowed then do
    let required := !t.inFlow && t.indent = t.column
    let t ← t.dropCandidate
    let c := t.cursor
    some { t with
      candidates :=
        some ⟨t.found.size, required, c.index, c.line, c.column⟩ :: t.candidates.tail }
  else some t

/-- A candidate is no key any more: it is not on this line, or too far back. -/
def isStale (t : Tokenizer) (k : Candidate) : Bool :=
  k.line < t.cursor.line || k.index + longestKey < t.cursor.index

/-- The state at the next token: past blanks, comments and ends of lines.  A byte order mark at
the start of a line is passed too, and takes up a column. -/
def toToken : Nat → Tokenizer → Tokenizer
  | 0, t => t
  | fuel + 1, t =>
    match t.cursor.peek with
    | none => t
    | some ch =>
      if ch = ' ' || (ch = '\t' && (t.inFlow || !t.keyAllowed)) ||
          (isOrderMark ch && t.cursor.column = 0) then
        toToken fuel (t.goto (t.cursor.skip 1))
      else if ch = '#' then toToken fuel (t.goto (t.cursor.skipWhile fun ch => !isBreak ch))
      else if isBreak ch then
        let t := t.goto t.cursor.takeBreak.2
        toToken fuel (if t.inFlow then t else t.allowKeys true)
      else t

def mark (t : Tokenizer) (length : Nat) (token : Token) : Tokenizer :=
  (t.emit token).goto (t.cursor.skip length)

def openFlow (t : Tokenizer) (token : Token) : Option Tokenizer := do
  let t ← t.saveCandidate
  let t := { t with candidates := none :: t.candidates }
  some ((t.allowKeys true).mark 1 token)

def closeFlow (t : Tokenizer) (token : Token) : Option Tokenizer := do
  let t ← t.dropCandidate
  let t := if t.inFlow then { t with candidates := t.candidates.tail } else t
  some ((t.allowKeys false).mark 1 token)

def flowComma (t : Tokenizer) : Option Tokenizer := do
  let t ← t.dropCandidate
  some ((t.allowKeys true).mark 1 .flowEntry)

/-- A hyphen that begins an entry. -/
def entry (t : Tokenizer) : Option Tokenizer :=
  if !t.inFlow && !t.keyAllowed then none
  else do
    let t := t.openBlock t.column t.found.size .blockSequence
    let t ← t.dropCandidate
    some ((t.allowKeys true).mark 1 .blockEntry)

def explicitKey (t : Tokenizer) : Option Tokenizer :=
  if !t.inFlow && !t.keyAllowed then none
  else do
    let t := t.openBlock t.column t.found.size .blockMapping
    let t ← t.dropCandidate
    some ((t.allowKeys (!t.inFlow)).mark 1 .key)

/-- A colon that begins the value of a candidate. -/
def valueOf (t : Tokenizer) (k : Candidate) : Tokenizer :=
  let t := { t with candidates := none :: t.candidates.tail }.insertAt k.position .key
  let t := t.openBlock k.column k.position .blockMapping
  (t.allowKeys false).mark 1 .value

/-- A colon that begins a value without a key, or after an explicit one. -/
def valueAlone (t : Tokenizer) : Option Tokenizer :=
  if !t.inFlow && !t.keyAllowed then none
  else
    let t := t.openBlock t.column t.found.size .blockMapping
    some ((t.allowKeys (!t.inFlow)).mark 1 .value)

/-- A colon that begins a value: the candidate before it is its key, unless it is stale. -/
def valueMark (t : Tokenizer) : Option Tokenizer :=
  match t.candidates with
  | some k :: _ => if t.isStale k then t.dropCandidate.bind valueAlone else some (t.valueOf k)
  | _ => t.valueAlone

def name? (c : Cursor) : Option (String × Cursor) :=
  let (name, c) := (c.skip 1).takeWhile isNameChar
  let ends := match c.peek with
    | none => true
    | some ch => endsWord (some ch) || "?:,]\x7d%@\x60".toList.contains ch
  if name.isEmpty || !ends then none else some (String.ofList name, c)

def reference (t : Tokenizer) (make : String → Token) : Option Tokenizer := do
  let t ← t.saveCandidate
  let (name, c) ← name? t.cursor
  some (((t.allowKeys false).emit (make name)).goto c)

/-- A tag, which a blank or, between brackets, a comma must follow. -/
def tag (t : Tokenizer) : Option Tokenizer := do
  let t ← t.saveCandidate
  let (handle, suffix, c) ← Tag.read? t.cursor
  if endsWord c.peek || (t.inFlow && c.peek = some ',') then
    some (((t.allowKeys false).emit (.tag handle suffix)).goto c)
  else none

def blockScalar (t : Tokenizer) (fold : Bool) : Option Tokenizer := do
  let t ← t.dropCandidate
  let (text, c) ← Scalar.block fold t.indent t.cursor
  let style := if fold then Style.folded else Style.literal
  some (((t.allowKeys true).emit (.scalar (String.ofList text) style)).goto c)

def quotedScalar (t : Tokenizer) (single : Bool) : Option Tokenizer := do
  let t ← t.saveCandidate
  let (text, c) ← Scalar.quoted single t.cursor
  let style := if single then Style.singleQuoted else Style.doubleQuoted
  some (((t.allowKeys false).emit (.scalar (String.ofList text) style)).goto c)

def plainScalar (t : Tokenizer) : Option Tokenizer := do
  let t ← t.saveCandidate
  let (text, c, broken) ← Scalar.plain t.inFlow (t.indent + 1).toNat t.cursor
  some (((t.allowKeys broken).emit (.scalar (String.ofList text) .plain)).goto c)

/-- The end of a document's structure: all blocks end here. -/
def endBlocks (t : Tokenizer) : Option Tokenizer := do
  let t ← (t.closeBlocks (-1)).dropCandidate
  some (t.allowKeys false)

/-- A number of a version: at most nine digits. -/
def number? (c : Cursor) : Option (Nat × Cursor) :=
  let (digits, c) := c.takeWhile Char.isDigit
  if digits.isEmpty || 9 < digits.length then none
  else some (digits.foldl (fun value d => value * 10 + (d.toNat - 48)) 0, c)

/-- A line of instructions to the reader: the version of the format, or a handle for
tags. -/
def directive (t : Tokenizer) : Option Tokenizer := do
  let t ← t.endBlocks
  let (name, c) := (t.cursor.skip 1).takeWhile isNameChar
  if !endsWord c.peek then none
  else
    let c := c.skipWhile isSpace
    let (token, c) ←
      if String.ofList name = "YAML" then do
        let (major, c) ← number? c
        if c.peek ≠ some '.' then none
        else
          let (minor, c) ← number? (c.skip 1)
          some (Token.version major minor, c)
      else if String.ofList name = "TAG" then do
        let (handle, after) := (c.skip 1).takeWhile isNameChar
        if c.peek ≠ some '!' then none
        else
          let closed := after.peek = some '!'
          if !closed && !handle.isEmpty then none
          else
            let after := if closed then after.skip 1 else after
            let handle := "!" ++ String.ofList handle ++ (if closed then "!" else "")
            if !(after.peek.map isSpace).getD false then none
            else
              let (expansion, c) ← Tag.take? Tag.isWholeChar (after.skipWhile isSpace)
              if expansion.isEmpty || !endsWord c.peek then none
              else some (.handle handle (Tag.counting expansion), c)
      else none
    let c := c.skipWhile isSpace
    let c := if c.peek = some '#' then c.skipWhile fun ch => !isBreak ch else c
    if endsLine c.peek then some ((t.emit token).goto c.takeBreak.2) else none

/-- A character that no plain scalar begins with. -/
def isIndicator (c : Char) : Bool :=
  "-?:,[]\x7b\x7d#&*!|>\x27\"%@\x60".toList.contains c

def beginsPlain (inFlow : Bool) (ch : Char) (next : Option Char) : Bool :=
  !endsWord (some ch) && !isIndicator ch || (ch = '-' && !(next.map isSpace).getD false) ||
    (!inFlow && (ch = '?' || ch = ':') && !endsWord next)

/-- The next token or tokens; nothing at the end of the text. -/
def step (t : Tokenizer) : Option (Tokenizer × Bool) := do
  let t := toToken (t.cursor.left + 1) t
  let t := t.closeBlocks t.column
  let next := t.cursor.peekAt 1
  let go (t : Option Tokenizer) : Option (Tokenizer × Bool) := t.map fun t => (t, true)
  match t.cursor.peek with
  | none => (t.endBlocks).map fun t => (t, false)
  | some ch =>
    if t.cursor.column = 0 && ch = '%' then go t.directive
    else if t.cursor.atDocumentMark then
      let token := if ch = '-' then Token.documentStart else .documentEnd
      go (t.endBlocks.map fun t => t.mark 3 token)
    else if ch = '[' then go (t.openFlow .flowSequence)
    else if ch = '{' then go (t.openFlow .flowMapping)
    else if ch = ']' then go (t.closeFlow .flowSequenceEnd)
    else if ch = '}' then go (t.closeFlow .flowMappingEnd)
    else if ch = ',' then go t.flowComma
    else if ch = '-' && endsWord next then go t.entry
    else if ch = '?' && (t.inFlow || endsWord next) then go t.explicitKey
    else if ch = ':' && (t.inFlow || endsWord next) then go t.valueMark
    else if ch = '*' then go (t.reference .alias)
    else if ch = '&' then go (t.reference .anchor)
    else if ch = '!' then go t.tag
    else if ch = '|' && !t.inFlow then go (t.blockScalar false)
    else if ch = '>' && !t.inFlow then go (t.blockScalar true)
    else if ch = Scalar.quote then go (t.quotedScalar true)
    else if ch = '"' then go (t.quotedScalar false)
    else if beginsPlain t.inFlow ch next then go t.plainScalar
    else none

def run : Nat → Tokenizer → Option (List Token)
  | 0, _ => none
  | fuel + 1, t => do
    let (t, more) ← t.step
    if more then run fuel t else some t.found.tokens.reverse

end Tokenizer

/-- The tokens of a text, unless it is not well formed. -/
def tokenize (text : List Char) : Option (List Token) :=
  if text.all isAllowed then Tokenizer.run (text.length + 2) (.start text) else none

end WaylandProxy.Yaml
