/-
# Proofs.Metrics.Series -- what a family keeps of everything that was recorded

A family that took entries one after the other has one value for each label set among them, made
from the entries of that label set alone (`get?_recorded`), and no label set twice
(`distinct_recorded`).  So what is looked up decides what is kept (`series_perm`): it is known from
the entries (`series_recorded`), and if values do not depend on the order of their changes, entries
in another order leave the same series (`series_recorded_of_perm`).  In which order series are kept
or rendered is nowhere relied on.
-/
import Mathlib.Data.List.Dedup
import Mathlib.Data.List.Induction
import Mathlib.Data.List.Lex
import WaylandProxy.Proofs.Machine
import WaylandProxy.Proofs.Metrics.Labels
import WaylandProxy.Proofs.Metrics.Sums

namespace WaylandProxy

set_option autoImplicit false

/-! ## Families -/

namespace Family

variable {α β : Type} {f g : Family α} {labels : LabelSet}

/-- No label set occurs twice. -/
def Distinct (f : Family α) : Prop :=
  (f.series.map Prod.fst).Nodup

theorem mem_keys_updateSeries {fresh : α} {change : α → α} {series : List (LabelSet × α)}
    {key : LabelSet} :
    key ∈ (updateSeries labels fresh change series).map Prod.fst ↔
      key = labels ∨ key ∈ series.map Prod.fst := by
  induction series with
  | nil => simp [updateSeries]
  | cons entry rest ih =>
      by_cases here : entry.1 = labels
      · simp [updateSeries, here]
      · simp only [updateSeries, here, if_false, List.map_cons, List.mem_cons, ih]
        exact or_left_comm

theorem Distinct.update (distinct : f.Distinct) (labels : LabelSet) (fresh : α) (change : α → α) :
    (f.update labels fresh change).Distinct := by
  obtain ⟨series⟩ := f
  show ((updateSeries labels fresh change series).map Prod.fst).Nodup
  induction series with
  | nil => simp [updateSeries]
  | cons entry rest ih =>
      obtain ⟨first, others⟩ := List.nodup_cons.1 distinct
      by_cases here : entry.1 = labels
      · rw [updateSeries, if_pos here]
        exact distinct
      · rw [updateSeries, if_neg here, List.map_cons, List.nodup_cons, mem_keys_updateSeries]
        exact ⟨fun either => either.elim here first, ih others⟩

theorem Distinct.mem_series_iff (distinct : f.Distinct) {value : α} :
    (labels, value) ∈ f.series ↔ f.get? labels = some value := by
  refine ⟨lookup_of_mem distinct, fun found => ?_⟩
  obtain ⟨before, after, split, -⟩ := List.lookup_eq_some_iff.1 found
  rw [split]
  exact List.mem_append_right before List.mem_cons_self

/-- **Families in which the same is looked up** keep the same. -/
theorem series_perm (distinct : f.Distinct) (other : g.Distinct)
    (same : ∀ labels, f.get? labels = g.get? labels) : f.series.Perm g.series := by
  refine (List.perm_ext_iff_of_nodup distinct.of_map other.of_map).2 fun ⟨labels, value⟩ => ?_
  rw [distinct.mem_series_iff, other.mem_series_iff, same]

/-- A family has the lines of each of its series, and each series once. -/
theorem renderSorted_perm {keys : List LabelSet} {value : LabelSet → α}
    (kept : f.series.Perm (keys.map fun labels => (labels, value labels)))
    (lines : LabelSet → α → List String) :
    ∃ blocks : List (List String), f.renderSorted lines = blocks.flatten ∧
      blocks.Perm (keys.map fun labels => lines labels (value labels)) := by
  have blocks := kept.map fun entry => lines entry.1 entry.2
  rw [List.map_map] at blocks
  exact ⟨_, rfl, (List.mergeSort_perm _ _).trans blocks⟩

/-! ## What was recorded -/

variable {β : Type} {fresh : α} {change : α → β → α}
  {entries others : List (List (String × String) × β)}

/-- The family after some entries, each of which changes the value of its labels. -/
def recorded (fresh : α) (change : α → β → α) (entries : List (List (String × String) × β)) :
    Family α :=
  entries.foldl
    (fun f entry => f.update (LabelSet.ofPairs entry.1) fresh (change · entry.2)) empty

/-- What the entries of one label set have. -/
def under (labels : LabelSet) (entries : List (List (String × String) × β)) : List β :=
  (entries.filter fun entry => LabelSet.ofPairs entry.1 = labels).map Prod.snd

def labelSets (entries : List (List (String × String) × β)) : List LabelSet :=
  (entries.map fun entry => LabelSet.ofPairs entry.1).dedup

theorem mem_labelSets :
    labels ∈ labelSets entries ↔ ∃ entry ∈ entries, LabelSet.ofPairs entry.1 = labels := by
  rw [labelSets, List.mem_dedup, List.mem_map]

theorem under_of_not_mem (absent : labels ∉ labelSets entries) : under labels entries = [] := by
  rw [under, List.map_eq_nil_iff, List.filter_eq_nil_iff]
  exact fun entry member same => absent (mem_labelSets.2 ⟨entry, member, of_decide_eq_true same⟩)

/-- Labels are those of a label set in any order. -/
theorem under_ofPairs (labels : List (String × String))
    (entries : List (List (String × String) × β)) :
    under (LabelSet.ofPairs labels) entries =
      (entries.filter fun entry => entry.1.Perm labels).map Prod.snd := by
  simp only [under, LabelSet.ofPairs_eq_iff]

theorem distinct_recorded (fresh : α) (change : α → β → α)
    (entries : List (List (String × String) × β)) : (recorded fresh change entries).Distinct := by
  induction entries using List.reverseRecOn with
  | nil => exact List.nodup_nil
  | append_singleton entries entry ih =>
      unfold recorded at ih ⊢
      rw [List.foldl_append]
      exact ih.update _ _ _

/-- **The value of a label set** is made from its own entries alone. -/
theorem get?_recorded (fresh : α) (change : α → β → α)
    (entries : List (List (String × String) × β)) (labels : LabelSet) :
    (recorded fresh change entries).get? labels =
      if labels ∈ labelSets entries then some ((under labels entries).foldl change fresh)
      else none := by
  induction entries using List.reverseRecOn with
  | nil => rfl
  | append_singleton entries entry ih =>
      have next : recorded fresh change (entries ++ [entry]) =
          (recorded fresh change entries).update (LabelSet.ofPairs entry.1) fresh
            (change · entry.2) := List.foldl_append
      have among : labels ∈ labelSets (entries ++ [entry]) ↔
          labels ∈ labelSets entries ∨ labels = LabelSet.ofPairs entry.1 := by
        simp [mem_labelSets, or_and_right, exists_or, eq_comm]
      rw [next, get?_update]
      -- the last entry counts for its own labels, whose value it changes or begins
      by_cases same : labels = LabelSet.ofPairs entry.1
      · subst same
        have last : under (LabelSet.ofPairs entry.1) (entries ++ [entry]) =
            under (LabelSet.ofPairs entry.1) entries ++ [entry.2] := by simp [under]
        rw [if_pos rfl, if_pos (among.2 (.inr rfl)), last, List.foldl_append, ih]
        split
        · rfl
        · rename_i absent
          rw [under_of_not_mem absent]
          rfl
      · have rest : under labels (entries ++ [entry]) = under labels entries := by
          simp [under, Ne.symm same]
        rw [if_neg same, ih]
        simp only [among, same, or_false, rest]

theorem getD_recorded (fresh : α) (change : α → β → α)
    (entries : List (List (String × String) × β)) (labels : LabelSet) :
    ((recorded fresh change entries).get? labels).getD fresh =
      (under labels entries).foldl change fresh := by
  rw [get?_recorded]
  split
  · rfl
  · rename_i absent
    rw [under_of_not_mem absent]
    rfl

/-- **What is kept**: for each label set among the entries, once, what is looked up for its
labels. -/
theorem series_recorded (fresh : α) (change : α → β → α)
    (entries : List (List (String × String) × β)) :
    (recorded fresh change entries).series.Perm
      ((labelSets entries).map fun labels => (labels,
        ((recorded fresh change entries).get? (LabelSet.ofPairs labels.pairs)).getD fresh)) := by
  let value (labels : LabelSet) :=
    ((recorded fresh change entries).get? (LabelSet.ofPairs labels.pairs)).getD fresh
  let all : Family α := ⟨(labelSets entries).map fun labels => (labels, value labels)⟩
  have distinct : all.Distinct := by
    show (((labelSets entries).map _).map _).Nodup
    rw [List.map_map]
    exact (List.map_id (labelSets entries)).symm ▸ List.nodup_dedup _
  refine series_perm (g := all) (distinct_recorded fresh change entries) distinct ?_
  intro labels
  rw [get?_recorded]
  by_cases among : labels ∈ labelSets entries
  · rcases mem_labelSets.1 among with ⟨entry, -, rfl⟩
    have kept : value (LabelSet.ofPairs entry.1) =
        (under (LabelSet.ofPairs entry.1) entries).foldl change fresh := by
      simp only [value, LabelSet.ofPairs_pairs, getD_recorded]
    rw [if_pos among, ← kept]
    exact (List.lookup_graph value among).symm
  · rw [if_neg among]
    refine (List.lookup_eq_none_iff.2 fun entry member => ?_).symm
    rcases List.mem_map.1 member with ⟨other, given, rfl⟩
    exact bne_iff_ne.2 fun same => among (same ▸ given)

/-- **In whatever order entries come**, the same is kept if no value depends on their order. -/
theorem series_recorded_of_perm
    (orderless : ∀ bs cs : List β, bs.Perm cs → bs.foldl change fresh = cs.foldl change fresh)
    (perm : entries.Perm others) :
    (recorded fresh change entries).series.Perm (recorded fresh change others).series := by
  refine series_perm (distinct_recorded fresh change entries)
    (distinct_recorded fresh change others) fun labels => ?_
  have among : labels ∈ labelSets entries ↔ labels ∈ labelSets others := by
    simp only [mem_labelSets, perm.mem_iff]
  have same : (under labels entries).Perm (under labels others) := (perm.filter _).map _
  simp only [get?_recorded, among, orderless _ _ same]

end Family

end WaylandProxy
