/-
# Metrics.Counter -- sums by label set

A counter adds up amounts by label set, modulo `2 ^ 64`.  A label set that nothing was
added to counts zero.
-/
import WaylandProxy.Metrics.Label

namespace WaylandProxy

set_option autoImplicit false

abbrev Counter := Family UInt64

namespace Counter

def add (c : Counter) (labels : List (String × String)) (amount : UInt64) : Counter :=
  c.update (LabelSet.ofPairs labels) 0 (· + amount)

def increment (c : Counter) (labels : List (String × String)) : Counter :=
  c.add labels 1

def get (c : Counter) (labels : List (String × String)) : UInt64 :=
  (c.get? (LabelSet.ofPairs labels)).getD 0

def total (c : Counter) : UInt64 :=
  c.series.foldl (fun sum entry => sum + entry.2) 0

/-- The exposition of a counter: its type, then one line for each series. -/
def render (c : Counter) (name : String) : List String :=
  ("# TYPE " ++ name ++ " counter") ::
    c.renderSorted fun labels value => [sampleLine name labels.render value]

end Counter

end WaylandProxy
