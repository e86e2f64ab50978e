/-
# Yaml.Node -- the tree of a document

A document is one node: a scalar, a sequence of nodes, a mapping of nodes to nodes, or an alias
for another node.  `ofTokens?` reads the tokens of a text as exactly one document; a second
document, or anything after the first that does not belong to it, refuses the text.  Where a
node is left out, in a value, an entry or a whole document, an empty plain scalar stands in.

Names of anchors are turned into numbers (`Yaml.Anchor`): an alias holds the number that its
name has at that place, and has to come after some anchor of its name.  What the number stands
for is known at the end of the document.
-/
import WaylandProxy.Yaml.Anchor
import WaylandProxy.Yaml.Token

namespace WaylandProxy.Yaml

set_option autoImplicit false

inductive Node where
  | scalar (text : String) (style : Style) (tag : Option String)
  | sequence (items : List Node)
  | mapping (pairs : List (Node × Node))
  /-- The node that a number stands for. -/
  | alias (number : Nat)

/-- A document: its node, and its anchors with the nodes that they are on. -/
structure Document where
  root : Node
  anchors : Anchors Node

namespace Node

/-- The node that stands in where one is left out. -/
def absent (tag : Option String) : Node :=
  .scalar "" .plain tag

structure Reading where
  tokens : List Token
  /-- The anchors so far. -/
  anchors : Anchors Node
  /-- The handles of the document with what they stand for. -/
  handles : List (String × String)

namespace Reading

def peek (r : Reading) : Option Token :=
  r.tokens.head?

def skip (r : Reading) : Reading :=
  { r with tokens := r.tokens.tail }

/-- The next token is one of these; the end of the tokens is none. -/
def atAny (r : Reading) (tokens : List Token) : Bool :=
  (r.peek.map tokens.contains).getD false

/-- The state after the anchor of a node, if it has one. -/
def begin (r : Reading) (anchor : Option String) : Reading :=
  match anchor with
  | none => r
  | some name => { r with anchors := r.anchors.mark name }

/-- The state after a node whose anchor, if it has one, is that of `began`. -/
def finish (r : Reading) (anchor : Option String) (began : Reading) (node : Node) : Reading :=
  match anchor with
  | none => r
  | some _ => { r with anchors := r.anchors.put began.anchors.latest node }

/-- The tag of a handle and a suffix, if the handle is known. -/
def resolveTag? (r : Reading) (handle suffix : String) : Option String :=
  if handle.isEmpty then some suffix
  else (r.handles.lookup handle).map fun expansion => expansion ++ suffix

/-- The anchor and the tag of a node, in either order. -/
def properties (r : Reading) : Option (Option String × Option String × Reading) :=
  match r.peek with
  | some (.anchor name) =>
    let r := r.skip
    match r.peek with
    | some (.tag handle suffix) =>
      (r.resolveTag? handle suffix).map fun tag => (some name, some tag, r.skip)
    | _ => some (some name, none, r)
  | some (.tag handle suffix) =>
    (r.resolveTag? handle suffix).map fun tag =>
      let r := r.skip
      match r.peek with
      | some (.anchor name) => (some name, some tag, r.skip)
      | _ => (none, some tag, r)
  | _ => some (none, none, r)

end Reading

inductive Place where
  /-- Between brackets. -/
  | flow
  /-- In a block. -/
  | block
  /-- The key or the value of a block mapping, where the entries of a sequence need no
  indentation. -/
  | pair
  deriving DecidableEq, Repr

mutual

/-- A node, with at most `fuel` tokens to go. -/
def read : Nat → Place → Reading → Option (Node × Reading)
  | 0, _, _ => none
  | fuel + 1, place, r =>
    match r.peek with
    | some (.alias name) => (r.anchors.number? name).map fun number => (.alias number, r.skip)
    | _ => do
      let (anchor, tag, r) ← r.properties
      let began := r.begin anchor
      let r := began
      let (node, r) ←
        match r.peek with
        | some .blockEntry =>
          if place = .pair then readEntries fuel [] r
          else if anchor.isSome || tag.isSome then some (absent tag, r) else none
        | some (.scalar text style) => some (.scalar text style tag, r.skip)
        | some .flowSequence => readFlowItems fuel true [] r.skip
        | some .flowMapping => readFlowPairs fuel true [] r.skip
        | some .blockSequence =>
          if place = .flow then none else readItems fuel [] r.skip
        | some .blockMapping =>
          if place = .flow then none else readPairs fuel [] r.skip
        | _ => if anchor.isSome || tag.isSome then some (absent tag, r) else none
      some (node, r.finish anchor began node)

/-- A node, or nothing before one of the given tokens. -/
def readOptional : Nat → Place → List Token → Reading → Option (Node × Reading)
  | 0, _, _, _ => none
  | fuel + 1, place, ends, r =>
    if r.atAny ends then some (absent none, r) else read fuel place r

/-- The entries of a block sequence up to its end. -/
def readItems : Nat → List Node → Reading → Option (Node × Reading)
  | 0, _, _ => none
  | fuel + 1, items, r =>
    match r.peek with
    | some .blockEntry => do
      let (item, r) ← readOptional fuel .block [.blockEntry, .blockEnd] r.skip
      readItems fuel (item :: items) r
    | some .blockEnd => some (.sequence items.reverse, r.skip)
    | _ => none

/-- The entries of a sequence that is not indented. -/
def readEntries : Nat → List Node → Reading → Option (Node × Reading)
  | 0, _, _ => none
  | fuel + 1, items, r =>
    match r.peek with
    | some .blockEntry => do
      let (item, r) ← readOptional fuel .block [.blockEntry, .key, .value, .blockEnd] r.skip
      readEntries fuel (item :: items) r
    | _ => some (.sequence items.reverse, r)

/-- The pairs of a block mapping up to its end. -/
def readPairs : Nat → List (Node × Node) → Reading → Option (Node × Reading)
  | 0, _, _ => none
  | fuel + 1, pairs, r =>
    match r.peek with
    | some .key => do
      let (key, r) ← readOptional fuel .pair [.key, .value, .blockEnd] r.skip
      match r.peek with
      | some .value => do
        let (value, r) ← readOptional fuel .pair [.key, .value, .blockEnd] r.skip
        readPairs fuel ((key, value) :: pairs) r
      | _ => readPairs fuel ((key, absent none) :: pairs) r
    | some .blockEnd => some (.mapping pairs.reverse, r.skip)
    | _ => none

/-- The value of a pair between brackets, before one of the tokens that end it. -/
def readFlowValue : Nat → Token → Reading → Option (Node × Reading)
  | 0, _, _ => none
  | fuel + 1, closing, r =>
    match r.peek with
    | some .value => readOptional fuel .flow [.flowEntry, closing] r.skip
    | _ => some (absent none, r)

/-- The comma before any entry but the first, unless the closing bracket follows. -/
def readComma (first : Bool) (closing : Token) (r : Reading) : Option Reading :=
  if first || r.atAny [closing] then some r
  else if r.atAny [.flowEntry] then some r.skip
  else none

/-- The items of a sequence between brackets; a pair among them is a mapping of its own. -/
def readFlowItems : Nat → Bool → List Node → Reading → Option (Node × Reading)
  | 0, _, _, _ => none
  | fuel + 1, first, items, r => do
    let r ← readComma first .flowSequenceEnd r
    match r.peek with
    | some .flowSequenceEnd => some (.sequence items.reverse, r.skip)
    | some .key => do
      let (key, r) ← readOptional fuel .flow [.value, .flowEntry, .flowSequenceEnd] r.skip
      let (value, r) ← readFlowValue fuel .flowSequenceEnd r
      readFlowItems fuel false (.mapping [(key, value)] :: items) r
    | _ => do
      let (item, r) ← read fuel .flow r
      readFlowItems fuel false (item :: items) r

/-- The pairs of a mapping between brackets. -/
def readFlowPairs : Nat → Bool → List (Node × Node) → Reading → Option (Node × Reading)
  | 0, _, _, _ => none
  | fuel + 1, first, pairs, r => do
    let r ← readComma first .flowMappingEnd r
    match r.peek with
    | some .flowMappingEnd => some (.mapping pairs.reverse, r.skip)
    | some .key => do
      let (key, r) ← readOptional fuel .flow [.value, .flowEntry, .flowMappingEnd] r.skip
      let (value, r) ← readFlowValue fuel .flowMappingEnd r
      readFlowPairs fuel false ((key, value) :: pairs) r
    | _ => do
      let (key, r) ← read fuel .flow r
      readFlowPairs fuel false ((key, absent none) :: pairs) r

end

/-- The handles that every document knows. -/
def defaultHandles : List (String × String) :=
  [("!", "!"), ("!!", "tag:yaml.org,2002:")]

def isReadable (major minor : Nat) : Bool :=
  major = 1 && (minor = 1 || minor = 2)

/-- The instructions before a document: at most one version, and no handle twice. -/
def readDirectives : List Token → Bool → List (String × String) →
    Option (List (String × String) × List Token)
  | .version major minor :: rest, versioned, handles =>
    if versioned || !isReadable major minor then none else readDirectives rest true handles
  | .handle name expansion :: rest, versioned, handles =>
    if (handles.lookup name).isSome then none
    else readDirectives rest versioned ((name, expansion) :: handles)
  | tokens, _, handles => some (handles, tokens)

/-- The start of a document: instructions need a mark after them, and a document without
either begins with its node. -/
def readStart (tokens : List Token) : Option Reading := do
  let (handles, rest) ← readDirectives tokens false []
  let directed := rest.length ≠ tokens.length
  let handles := handles ++ defaultHandles
  match rest with
  | .documentStart :: rest => some ⟨rest, .empty, handles⟩
  | rest => if directed then none else some ⟨rest, .empty, handles⟩

def ofTokens? (tokens : List Token) : Option Document := do
  let r ← readStart tokens
  let marked := r.tokens.length ≠ tokens.length
  let fuel := 2 * tokens.length + 4
  let (node, r) ←
    match r.peek with
    | none => some (absent none, r)
    | some .documentEnd => if marked then some (absent none, r) else none
    | some .documentStart => none
    | some _ => read fuel .block r
  if (r.tokens.dropWhile (· = .documentEnd)).isEmpty then some ⟨node, r.anchors⟩ else none

mutual

/-- How much a node says: each scalar and each alias one thing, each collection where it begins
and where it ends. -/
def extent : Node → Nat
  | .scalar _ _ _ => 1
  | .alias _ => 1
  | .sequence items => itemsExtent items + 2
  | .mapping pairs => pairsExtent pairs + 2

def itemsExtent : List Node → Nat
  | [] => 0
  | item :: items => item.extent + itemsExtent items

def pairsExtent : List (Node × Node) → Nat
  | [] => 0
  | (key, value) :: pairs => key.extent + value.extent + pairsExtent pairs

end

end Node

namespace Document

/-- Reading from a document while aliases are followed; the state is how many more of them may
be. -/
abbrev Visit := StateT Nat Option

/-- The node behind a node: an alias is followed, if that is still allowed. -/
def follow (d : Document) : Node → Visit Node
  | .alias number => fun
    | 0 => none
    | left + 1 => (d.anchors.node? number).map fun node => (node, left)
  | node => pure node

/-- What is read from the node of a document, following at most a hundred aliases for each thing
that the document says. -/
def visit {α : Type} (d : Document) (read : Node → Visit α) : Option α :=
  ((read d.root).run (100 * d.root.extent)).map Prod.fst

end Document

def parse (text : String) : Option Document :=
  (tokenize text.toList).bind Node.ofTokens?

end WaylandProxy.Yaml
