/-
# Proofs.Random.Range -- draws that lie in their range, and the ranges asked for

The upper half of a word times a size is below the size, whatever was thrown away before it
(`below_lt`), so the seeded stream keeps the promise of `LawfulDraws`.

A program over `Draws` may not look into its generator, and so it cannot tell a generator from one
that notes every range it is asked for.  `Recorded` is the generator with such notes; what a
program asks is read off them (`asked`), and without them it is the generator again.
-/
import Mathlib.Algebra.Group.Nat.Defs
import WaylandProxy.Random.ChaCha

namespace WaylandProxy

set_option autoImplicit false

namespace ChaCha

/-- The upper half of a product with a size is below the size. -/
theorem below_lt {α : Type} (next : ChaCha → α × ChaCha) {value : α → Nat} {bits size : Nat}
    (word : ∀ x, value x < 2 ^ bits) (some : 0 < size) (fuel : Nat) (g : ChaCha) :
    (below next value bits size fuel g).1 < size := by
  have upper (x : α) : value x * size / 2 ^ bits < size :=
    Nat.div_lt_of_lt_mul (Nat.mul_lt_mul_of_pos_right (word x) some)
  induction fuel generalizing g with
  | zero => exact upper _
  | succ fuel ih =>
      simp only [below]
      split
      · exact upper _
      · exact ih _

instance : LawfulDraws ChaCha where
  range32_mem low high g ordered := by
    show low ≤ (range32 low high g).1 ∧ (range32 low high g).1 ≤ high
    have bound := high.toNat_lt
    simp only [UInt32.le_iff_toNat_le] at ordered ⊢
    have size : (high - low + 1).toNat = (high.toNat - low.toNat + 1) % 2 ^ 32 := by
      rw [UInt32.toNat_add, UInt32.toNat_sub_of_le _ _ (UInt32.le_iff_toNat_le.2 ordered)]
      rfl
    unfold range32
    by_cases all : high - low + 1 = 0
    · -- only the range of all words has a size that wraps around
      have word := (word32 g).1.toNat_lt
      rw [all, UInt32.toNat_zero] at size
      simp only [all, if_true]
      omega
    · have some : 0 < (high - low + 1).toNat :=
        Nat.pos_of_ne_zero fun zero => all (UInt32.toNat_inj.1 zero)
      have drawn := below_lt word32 UInt32.toNat_lt some attempts g
      simp only [if_neg all]
      generalize (below word32 UInt32.toNat 32 _ attempts g).1 = n at drawn ⊢
      rw [UInt32.toNat_add, UInt32.toNat_ofNat']
      omega
  range64_mem low high g ordered := by
    show low ≤ (range64 low high g).1 ∧ (range64 low high g).1 ≤ high
    have bound := high.toNat_lt
    simp only [UInt64.le_iff_toNat_le] at ordered ⊢
    have size : (high - low + 1).toNat = (high.toNat - low.toNat + 1) % 2 ^ 64 := by
      rw [UInt64.toNat_add, UInt64.toNat_sub_of_le _ _ (UInt64.le_iff_toNat_le.2 ordered)]
      rfl
    unfold range64
    by_cases all : high - low + 1 = 0
    · have word := (word64 g).1.toNat_lt
      rw [all, UInt64.toNat_zero] at size
      simp only [all, if_true]
      omega
    · have some : 0 < (high - low + 1).toNat :=
        Nat.pos_of_ne_zero fun zero => all (UInt64.toNat_inj.1 zero)
      have drawn := below_lt word64 UInt64.toNat_lt some attempts g
      simp only [if_neg all]
      generalize (below word64 UInt64.toNat 64 _ attempts g).1 = n at drawn ⊢
      rw [UInt64.toNat_add, UInt64.toNat_ofNat']
      omega

end ChaCha

/-- A generator and the ranges that were asked of it, from the lowest to the highest number. -/
structure Recorded (γ : Type) where
  draws : γ
  asked : List (Nat × Nat)

namespace Recorded

variable {γ : Type} [Draws γ]

instance : Draws (Recorded γ) where
  fraction r :=
    let (x, g) := Draws.fraction r.draws
    (x, { r with draws := g })
  range32 low high r :=
    let (n, g) := Draws.range32 low high r.draws
    (n, ⟨g, r.asked ++ [(low.toNat, high.toNat)]⟩)
  range64 low high r :=
    let (n, g) := Draws.range64 low high r.draws
    (n, ⟨g, r.asked ++ [(low.toNat, high.toNat)]⟩)

/-- No range that was asked is empty. -/
def Fair (r : Recorded γ) : Prop :=
  ∀ range ∈ r.asked, range.1 ≤ range.2

omit [Draws γ] in
theorem Fair.concat {r : Recorded γ} (fair : r.Fair) {low high : Nat} (ordered : low ≤ high)
    (g : γ) : Fair ⟨g, r.asked ++ [(low, high)]⟩ := by
  intro range known
  rcases List.mem_append.1 known with earlier | last
  · exact fair range earlier
  · rw [List.mem_singleton.1 last]
    exact ordered

instance [LawfulDraws γ] : LawfulDraws (Recorded γ) where
  range32_mem low high r := LawfulDraws.range32_mem low high r.draws
  range64_mem low high r := LawfulDraws.range64_mem low high r.draws

end Recorded

end WaylandProxy
