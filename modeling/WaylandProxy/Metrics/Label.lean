/-
# Metrics.Label -- label sets and what is kept for each

A series is addressed by its labels, in whatever order they are given: `ofPairs`
sorts them, so two lists address one series exactly when they are permutations of
each other.  A `Family` keeps one value for each label set that was ever touched,
in the order of the first touch.

On a line the labels stand in their order, each value between double quotes.  A
backslash, a quote and a line feed inside a value are escaped, so a value can imitate
neither the end of the value nor the end of the line.
-/

namespace WaylandProxy

set_option autoImplicit false

/-- The labels of one series, sorted by key and then by value. -/
structure LabelSet where
  pairs : List (String × String)
  deriving DecidableEq, Repr

namespace LabelSet

/-- The order of labels: by key, then by value. -/
def pairLe (x y : String × String) : Bool :=
  x.1 < y.1 || (x.1 = y.1 && !decide (y.2 < x.2))

/-- The label set of a list of labels in any order. -/
def ofPairs (pairs : List (String × String)) : LabelSet :=
  ⟨pairs.mergeSort pairLe⟩

/-- One character of a value as it stands on a line. -/
def escapeChar (c : Char) : List Char :=
  if c = '\\' then ['\\', '\\']
  else if c = '"' then ['\\', '"']
  else if c = '\n' then ['\\', 'n']
  else [c]

def escape (value : String) : String :=
  String.ofList (value.toList.flatMap escapeChar)

def render (labels : LabelSet) : String :=
  ",".intercalate (labels.pairs.map fun (key, value) => key ++ "=\"" ++ escape value ++ "\"")

end LabelSet

structure Family (α : Type) where
  series : List (LabelSet × α)
  deriving DecidableEq, Repr

namespace Family

variable {α : Type}

def empty : Family α :=
  ⟨[]⟩

def get? (f : Family α) (labels : LabelSet) : Option α :=
  f.series.lookup labels

/-- The series with the value at `labels` changed, starting from `fresh` where there
is none. -/
def updateSeries (labels : LabelSet) (fresh : α) (change : α → α) :
    List (LabelSet × α) → List (LabelSet × α)
  | [] => [(labels, change fresh)]
  | (key, value) :: rest =>
    if key = labels then (key, change value) :: rest
    else (key, value) :: updateSeries labels fresh change rest

def update (f : Family α) (labels : LabelSet) (fresh : α) (change : α → α) : Family α :=
  ⟨updateSeries labels fresh change f.series⟩

/-- The lines of each series, the series in the order of their lines.  That order stands for one
that is left unspecified: which series comes first in an exposition means nothing. -/
def renderSorted (f : Family α) (lines : LabelSet → α → List String) : List String :=
  ((f.series.map fun (labels, value) => lines labels value).mergeSort
    fun x y => !decide (y < x)).flatten

end Family

/-- One line of the exposition: a name, its labels and a value. -/
def sampleLine (name labels : String) (value : UInt64) : String :=
  name ++ "\x7b" ++ labels ++ "\x7d " ++ toString value

end WaylandProxy
