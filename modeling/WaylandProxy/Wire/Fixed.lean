/-
# Wire.Fixed -- signed numbers with eight fractional bits

Positions travel as 32-bit integers that count 256ths.  A whole number is shifted
left by eight bits and keeps the 32 lowest; a normalized coordinate is scaled by an
extent, cut to its whole part and kept below what that shift can hold.
-/

namespace WaylandProxy

set_option autoImplicit false

/-- A signed number in 256ths. -/
structure Fixed where
  raw : Int32
  deriving DecidableEq, Repr

namespace Fixed

/-- A whole number; bits beyond the 24 whole ones are lost. -/
def ofInt (value : Int32) : Fixed :=
  ⟨value <<< 8⟩

def largestWhole : Float := 8388607.0

/-- The whole part of `value` times `extent`, where `value` is first brought into
the unit interval and anything that is no finite number counts as zero. -/
def ofNormalized (value : Float) (extent : UInt32) : Fixed :=
  let value := if value.isFinite then max 0.0 (min value 1.0) else 0.0
  let scaled := (value * extent.toFloat).floor
  ofInt (min scaled largestWhole).toUInt32.toInt32

/-- The number as binary64, exactly. -/
def toFloat (f : Fixed) : Float :=
  Float.ofInt f.raw.toInt / 256.0

def toWord (f : Fixed) : UInt32 :=
  f.raw.toUInt32

end Fixed

end WaylandProxy
