/-
# Proofs.Metrics.Labels -- which labels address one series

Labels are sorted before they are looked up, and their order is total: lists that are permutations
of each other are sorted into the same list (`mergeSort_eq_of_perm`).  So two label lists address
one series exactly if they are permutations of each other (`ofPairs_eq_iff`), labels with the same
key included.
-/
import Mathlib.Data.List.Sort
import Mathlib.Data.Prod.Lex
import Mathlib.Data.String.Basic
import WaylandProxy.Metrics.Label

namespace WaylandProxy

set_option autoImplicit false

section Order

variable {α β : Type} [LinearOrder β] {key : α → β} {le : α → α → Bool}
  (order : ∀ x y, le x y ↔ key x ≤ key y)
include order

theorem pairwise_mergeSort_key (xs : List α) :
    (xs.mergeSort le).Pairwise fun x y => key x ≤ key y := by
  have trans : ∀ x y z, le x y → le y z → le x z := by
    intro x y z
    simp only [order]
    exact le_trans
  have total : ∀ x y, le x y || le y x := by
    intro x y
    simp only [Bool.or_eq_true, order]
    exact le_total (key x) (key y)
  exact (List.pairwise_mergeSort trans total xs).imp fun {x y} => (order x y).1

/-- **Permutations are sorted into one list**, if no two elements have the same place. -/
theorem mergeSort_eq_of_perm (injective : Function.Injective key) {xs ys : List α}
    (perm : xs.Perm ys) : xs.mergeSort le = ys.mergeSort le := by
  have sorted : (xs.mergeSort le).Perm (ys.mergeSort le) :=
    (List.mergeSort_perm xs le).trans (perm.trans (List.mergeSort_perm ys le).symm)
  exact sorted.eq_of_pairwise (fun x y _ _ before after => injective (le_antisymm before after))
    (pairwise_mergeSort_key order xs) (pairwise_mergeSort_key order ys)

end Order

namespace LabelSet

/-- Labels are ordered by key and then by value. -/
theorem pairLe_iff (x y : String × String) : pairLe x y ↔ toLex x ≤ toLex y := by
  simp only [pairLe, Prod.Lex.toLex_le_toLex, Bool.or_eq_true, Bool.and_eq_true, Bool.not_eq_true',
    decide_eq_true_eq, decide_eq_false_iff_not, not_lt]

/-- **Two label lists address one series** exactly if they are permutations of each other. -/
theorem ofPairs_eq_iff {a b : List (String × String)} : ofPairs a = ofPairs b ↔ a.Perm b := by
  constructor
  · intro same
    have sorted : a.mergeSort pairLe = b.mergeSort pairLe := congrArg pairs same
    exact (List.mergeSort_perm a pairLe).symm.trans (sorted ▸ List.mergeSort_perm b pairLe)
  · intro perm
    exact congrArg mk (mergeSort_eq_of_perm pairLe_iff toLex.injective perm)

theorem ofPairs_pairs (labels : List (String × String)) :
    ofPairs (ofPairs labels).pairs = ofPairs labels :=
  ofPairs_eq_iff.2 (List.mergeSort_perm labels pairLe)

end LabelSet

end WaylandProxy
