/-
# Proofs.Metrics.Sums -- what is kept for each label set

Changing the value at one label set changes that value and no other (`get?_update`), so a
counter adds to one series and leaves every other sum alone (`get_add`), and a histogram counts an
observation in one series (`count_observe`).
-/
import WaylandProxy.Metrics.Counter
import WaylandProxy.Metrics.Histogram

namespace WaylandProxy

set_option autoImplicit false

namespace Family

variable {α : Type}

theorem lookup_updateSeries (labels other : LabelSet) (fresh : α) (change : α → α)
    (series : List (LabelSet × α)) :
    (updateSeries labels fresh change series).lookup other =
      if other = labels then some (change ((series.lookup labels).getD fresh))
      else series.lookup other := by
  induction series with
  | nil =>
      by_cases same : other = labels
      · simp [updateSeries, same]
      · have differs : (other == labels) = false := beq_false_of_ne same
        simp [updateSeries, List.lookup_cons, differs, same]
  | cons entry rest ih =>
      obtain ⟨key, value⟩ := entry
      by_cases here : key = labels
      · subst here
        by_cases same : other = key
        · simp [updateSeries, same]
        · have differs : (other == key) = false := beq_false_of_ne same
          simp [updateSeries, List.lookup_cons, differs, same]
      · have elsewhere : (labels == key) = false := beq_false_of_ne (Ne.symm here)
        simp only [updateSeries, here, if_false, List.lookup_cons, elsewhere, ih]
        by_cases same : other = labels
        · simp [same, elsewhere]
        · simp [same]

/-- A change at one label set is seen there and nowhere else. -/
theorem get?_update (f : Family α) (labels other : LabelSet) (fresh : α) (change : α → α) :
    (f.update labels fresh change).get? other =
      if other = labels then some (change ((f.get? labels).getD fresh)) else f.get? other :=
  lookup_updateSeries labels other fresh change f.series

end Family

namespace LabelSet

/-- Two label sets of one label each are equal only if the labels are. -/
theorem ofPairs_singleton_inj {label other : String × String} :
    ofPairs [label] = ofPairs [other] ↔ label = other := by
  simp [ofPairs]

end LabelSet

namespace Counter

/-- Adding to one series leaves the sums of all others as they are. -/
theorem get_add (c : Counter) (labels other : List (String × String)) (amount : UInt64) :
    (c.add labels amount).get other =
      c.get other + if LabelSet.ofPairs other = LabelSet.ofPairs labels then amount else 0 := by
  unfold get add
  rw [Family.get?_update]
  split
  · rename_i same
    simp [same]
  · simp

end Counter

namespace Histogram

/-- An observation is counted in its own series and in no other. -/
theorem count_observe (h : Histogram) (labels other : List (String × String)) (nanoseconds : Nat) :
    (h.observe labels nanoseconds).count other =
      h.count other + if LabelSet.ofPairs other = LabelSet.ofPairs labels then 1 else 0 := by
  unfold count observe
  rw [Family.get?_update]
  split
  · rename_i same
    rw [same]
    cases h.get? (LabelSet.ofPairs labels) <;> rfl
  · simp

end Histogram

end WaylandProxy
