/-
# Metrics.Histogram -- durations by label set

A histogram counts durations in whole microseconds.  Its buckets are cumulative: each
counts the observations up to its own bound, so no bucket exceeds the next or the
count.  Count, sum and buckets wrap at `2 ^ 64`; a single duration is capped there.
-/
import WaylandProxy.Metrics.Label

namespace WaylandProxy

set_option autoImplicit false

structure Distribution where
  count : UInt64
  sum : UInt64
  /-- For each bound the number of observations up to it. -/
  buckets : List UInt64
  deriving DecidableEq, Repr

abbrev Histogram := Family Distribution

namespace Histogram

/-- The bounds of the buckets in microseconds. -/
def bounds : List UInt64 :=
  [1, 5, 25, 100, 500, 2500, 100000, 10000000]

def noObservation : Distribution :=
  ⟨0, 0, bounds.map fun _ => 0⟩

/-- A duration in nanoseconds as whole microseconds, at most `2 ^ 64 - 1`. -/
def micros (nanoseconds : Nat) : UInt64 :=
  UInt64.ofNat (min (nanoseconds / 1000) (UInt64.size - 1))

def add (d : Distribution) (value : UInt64) : Distribution where
  count := d.count + 1
  sum := d.sum + value
  buckets := List.zipWith (fun bound n => if value ≤ bound then n + 1 else n) bounds d.buckets

/-- The histogram with one more duration, in nanoseconds, in one series. -/
def observe (h : Histogram) (labels : List (String × String)) (nanoseconds : Nat) : Histogram :=
  h.update (LabelSet.ofPairs labels) noObservation fun d => add d (micros nanoseconds)

def count (h : Histogram) (labels : List (String × String)) : UInt64 :=
  ((h.get? (LabelSet.ofPairs labels)).map Distribution.count).getD 0

/-- The labels of a series together with the bound of one of its buckets. -/
def withBound (labels bound : String) : String :=
  if labels.isEmpty then "le=\"" ++ bound ++ "\"" else labels ++ ",le=\"" ++ bound ++ "\""

/-- The lines of one series: its buckets, the bucket without bound, sum and count. -/
def lines (name : String) (labels : LabelSet) (d : Distribution) : List String :=
  let text := labels.render
  let bucket (bound : String) := sampleLine (name ++ "_bucket") (withBound text bound)
  (bounds.zip d.buckets).map (fun (bound, n) => bucket (toString bound) n) ++
    [bucket "+Inf" d.count,
      sampleLine (name ++ "_sum") text d.sum,
      sampleLine (name ++ "_count") text d.count]

/-- The exposition of a histogram: its type, then the lines of each series. -/
def render (h : Histogram) (name : String) : List String :=
  ("# TYPE " ++ name ++ " histogram") :: h.renderSorted (lines name)

end Histogram

end WaylandProxy
