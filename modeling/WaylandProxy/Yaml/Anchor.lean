/-
# Yaml.Anchor -- the numbers of anchors

A name that is put on a node gets a number: how many different names were used before, itself
among them if it was.  So the number of a name that comes back may be that of another name too,
the next one.

An alias holds the number that its name has where the alias stands, and a number stands for the
node that got it last in the whole document, whichever name it came with.  Marks are counted in
the order in which their nodes begin, but a node is known only where it ends, so a mark (`mark`)
and its node (`put`) are put down apart.
-/

namespace WaylandProxy.Yaml

set_option autoImplicit false

/-- The anchors of a document, on nodes of type `α`. -/
structure Anchors (α : Type) where
  /-- Names with their numbers, latest first. -/
  numbers : List (String × Nat)
  /-- How many different names there are. -/
  known : Nat
  /-- The numbers that nodes got, latest first. -/
  marks : List Nat
  /-- The nodes, each with how many marks there were when it began, its own among them. -/
  nodes : List (Nat × α)

namespace Anchors

variable {α : Type}

def empty : Anchors α :=
  ⟨[], 0, [], []⟩

def number? (a : Anchors α) (name : String) : Option Nat :=
  a.numbers.lookup name

/-- The anchors where a node with this name begins. -/
def mark (a : Anchors α) (name : String) : Anchors α :=
  { a with
    numbers := (name, a.known) :: a.numbers
    known := if (a.number? name).isSome then a.known else a.known + 1
    marks := a.known :: a.marks }

/-- How many marks there are, which tells the latest one from all others. -/
def latest (a : Anchors α) : Nat :=
  a.marks.length

/-- The anchors where a node ends that began with this mark. -/
def put (a : Anchors α) (mark : Nat) (node : α) : Anchors α :=
  { a with nodes := (mark, node) :: a.nodes }

def markOf? (a : Anchors α) (number : Nat) : Option Nat :=
  (a.marks.findIdx? (· = number)).map fun later => a.latest - later

def node? (a : Anchors α) (number : Nat) : Option α :=
  (a.markOf? number).bind fun mark => a.nodes.lookup mark

end Anchors

end WaylandProxy.Yaml
