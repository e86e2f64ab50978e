/-
# Random.Draws -- drawing from a generator

A generator hands out fractions of the unit interval and numbers of a closed range, in
32 and in 64 bits.  What the library needs of the ranges is `LawfulDraws`: a number drawn
from a range that is not empty lies in it.  Everything else is left to the generator, so
what is proved of a program over `Draws` holds for every outcome of its draws.
-/

namespace WaylandProxy

set_option autoImplicit false

/-- A generator with state `γ`; each draw leaves the next state. -/
class Draws (γ : Type) where
  /-- A number of the unit interval, below one. -/
  fraction : γ → Float × γ
  /-- A number from `low` to `high`. -/
  range32 : (low high : UInt32) → γ → UInt32 × γ
  /-- A number from `low` to `high`. -/
  range64 : (low high : UInt64) → γ → UInt64 × γ

class LawfulDraws (γ : Type) [Draws γ] : Prop where
  range32_mem (low high : UInt32) (g : γ) (h : low ≤ high) :
    low ≤ (Draws.range32 low high g).1 ∧ (Draws.range32 low high g).1 ≤ high
  range64_mem (low high : UInt64) (g : γ) (h : low ≤ high) :
    low ≤ (Draws.range64 low high g).1 ∧ (Draws.range64 low high g).1 ≤ high

end WaylandProxy
