/-
# Proofs.Metrics.Tally -- what counters and histograms say about all calls

A counter keeps sums modulo `2 ^ 64`, and a sum does not depend on the order of what is added: what
is read under some labels is the sum of the calls whose labels are a permutation of them
(`toNat_get`), and the total is the sum of all calls (`toNat_total_after`).

A distribution is known from its durations (`Distribution.of`): one more duration makes the
distribution of one duration more (`add_of`).  With fewer than `2 ^ 64` of them every count is
exact, so each line has the number that it is said to have (`lines_of`).
-/
import Mathlib.Algebra.GroupWithZero.Nat
import WaylandProxy.Proofs.Metrics.Series

namespace WaylandProxy

set_option autoImplicit false

/-! ## Counters -/

namespace Counter

inductive Call where
  | increment (labels : List (String × String))
  | add (labels : List (String × String)) (amount : UInt64)

namespace Call

def labels : Call → List (String × String)
  | .increment labels => labels
  | .add labels _ => labels

def amount : Call → UInt64
  | .increment _ => 1
  | .add _ amount => amount

def apply (c : Counter) : Call → Counter
  | .increment labels => c.increment labels
  | .add labels amount => c.add labels amount

theorem apply_eq (c : Counter) (call : Call) : call.apply c = c.add call.labels call.amount := by
  cases call <;> rfl

end Call

def after (calls : List Call) : Counter :=
  calls.foldl Call.apply Family.empty

variable {calls others : List Call}

theorem after_eq (calls : List Call) :
    after calls = Family.recorded 0 (· + ·) (calls.map fun call => (call.labels, call.amount)) := by
  rw [after, Family.recorded, List.foldl_map]
  congr 1
  funext c call
  exact call.apply_eq c

/-- Amounts are added up modulo `2 ^ 64`. -/
theorem toNat_foldl (amounts : List UInt64) (start : UInt64) :
    (amounts.foldl (· + ·) start).toNat =
      (start.toNat + (amounts.map UInt64.toNat).sum) % 2 ^ 64 := by
  induction amounts generalizing start with
  | nil =>
      have below := start.toNat_lt
      simp only [List.foldl_nil, List.map_nil, List.sum_nil]
      omega
  | cons amount amounts ih =>
      simp only [List.foldl_cons, ih, List.map_cons, List.sum_cons, UInt64.toNat_add]
      omega

/-- **A sum is over the calls of its labels**, in whatever order they were given. -/
theorem toNat_get (calls : List Call) (labels : List (String × String)) :
    ((after calls).get labels).toNat =
      ((calls.filter (·.labels.Perm labels)).map (·.amount.toNat)).sum % 2 ^ 64 := by
  rw [get, after_eq, Family.getD_recorded, toNat_foldl, Family.under_ofPairs, List.filter_map]
  simp [Function.comp_def]

theorem toNat_total (c : Counter) :
    c.total.toNat = (c.series.map fun entry => entry.2.toNat).sum % 2 ^ 64 := by
  have amounts : c.total = (c.series.map Prod.snd).foldl (· + ·) 0 := List.foldl_map.symm
  rw [amounts, toNat_foldl, List.map_map]
  simp [Function.comp_def]

/-- What is added to one series is added to the total. -/
theorem toNat_total_add (c : Counter) (labels : List (String × String)) (amount : UInt64) :
    (c.add labels amount).total.toNat = (c.total.toNat + amount.toNat) % 2 ^ 64 := by
  rw [toNat_total, toNat_total, Nat.mod_add_mod]
  obtain ⟨series⟩ := c
  show ((Family.updateSeries (LabelSet.ofPairs labels) 0 (· + amount) series).map _).sum % _ = _
  induction series with
  | nil => simp [Family.updateSeries]
  | cons entry rest ih =>
      by_cases here : entry.1 = LabelSet.ofPairs labels
      · simp only [Family.updateSeries, here, if_true, List.map_cons, List.sum_cons,
          UInt64.toNat_add]
        omega
      · simp only [Family.updateSeries, here, if_false, List.map_cons, List.sum_cons] at ih ⊢
        omega

/-- **The total is over all calls.** -/
theorem toNat_total_after (calls : List Call) :
    (after calls).total.toNat = (calls.map (·.amount.toNat)).sum % 2 ^ 64 := by
  induction calls using List.reverseRecOn with
  | nil => rfl
  | append_singleton calls call ih =>
      have next : after (calls ++ [call]) = (after calls).add call.labels call.amount := by
        rw [after, List.foldl_append]
        exact call.apply_eq (after calls)
      rw [next, toNat_total_add, ih, Nat.mod_add_mod]
      simp

def touched (calls : List Call) : List LabelSet :=
  (calls.map fun call => LabelSet.ofPairs call.labels).dedup

theorem series_after (calls : List Call) :
    (after calls).series.Perm
      ((touched calls).map fun labels => (labels, (after calls).get labels.pairs)) := by
  have kept := Family.series_recorded 0 (· + ·)
    (calls.map fun call => (call.labels, call.amount))
  rw [← after_eq, Family.labelSets, List.map_map] at kept
  exact kept

/-- Calls in another order leave the same sums. -/
theorem series_after_of_perm (perm : calls.Perm others) :
    (after calls).series.Perm (after others).series := by
  rw [after_eq, after_eq]
  apply Family.series_recorded_of_perm
  · intro amounts amounts' same
    apply UInt64.toNat.inj
    rw [toNat_foldl, toNat_foldl, (same.map UInt64.toNat).sum_nat]
  · exact perm.map _

end Counter

/-! ## Histograms -/

/-- A duration in nanoseconds as whole microseconds, and no more than `2 ^ 64 - 1` of them. -/
def wholeMicros (nanoseconds : Nat) : Nat :=
  min (nanoseconds / 1000) (2 ^ 64 - 1)

/-- How many durations are at most the bound. -/
def upTo (bound : Nat) (durations : List Nat) : Nat :=
  durations.countP (· ≤ bound)

namespace Distribution

/-- The distribution of some durations in whole microseconds. -/
def of (durations : List Nat) : Distribution where
  count := UInt64.ofNat durations.length
  sum := UInt64.ofNat durations.sum
  buckets := Histogram.bounds.map fun bound => UInt64.ofNat (upTo bound.toNat durations)

theorem of_nil : of [] = Histogram.noObservation :=
  rfl

/-- **One more observation** makes the distribution of one duration more. -/
theorem add_of (durations : List Nat) (value : UInt64) :
    Histogram.add (of durations) value = of (durations ++ [value.toNat]) := by
  unfold Histogram.add of
  rw [List.zipWith_map_right, List.zipWith_self]
  congr 1
  · simp
  · simp
  · apply List.map_congr_left
    intro bound _
    by_cases within : value ≤ bound
    · simp [upTo, within, UInt64.le_iff_toNat_le.1 within]
    · simp [upTo, within, UInt64.le_iff_toNat_le.not.1 within]

theorem foldl_add_of (durations : List Nat) (values : List UInt64) :
    values.foldl Histogram.add (of durations) = of (durations ++ values.map UInt64.toNat) := by
  induction values generalizing durations with
  | nil => simp
  | cons value values ih =>
      rw [List.foldl_cons, add_of, ih]
      simp

theorem of_perm {durations others : List Nat} (perm : durations.Perm others) :
    of durations = of others := by
  simp only [of, upTo, perm.length_eq, perm.sum_nat, perm.countP_eq]

end Distribution

namespace Histogram

/-- A call that counts one duration, in nanoseconds, in one series. -/
structure Observation where
  labels : List (String × String)
  nanoseconds : Nat

def after (observations : List Observation) : Histogram :=
  observations.foldl (fun h o => h.observe o.labels o.nanoseconds) Family.empty

/-- The durations that were observed under some labels, in whole microseconds. -/
def durations (labels : List (String × String)) (observations : List Observation) : List Nat :=
  (observations.filter (·.labels.Perm labels)).map fun o => wholeMicros o.nanoseconds

variable {observations others : List Observation}

theorem toNat_micros (nanoseconds : Nat) :
    (micros nanoseconds).toNat = wholeMicros nanoseconds := by
  unfold micros wholeMicros
  apply UInt64.toNat_ofNat_of_lt'
  have size : UInt64.size = 2 ^ 64 := rfl
  omega

theorem after_eq (observations : List Observation) :
    after observations = Family.recorded noObservation add
      (observations.map fun o => (o.labels, micros o.nanoseconds)) := by
  rw [after, Family.recorded, List.foldl_map]
  rfl

def touched (observations : List Observation) : List LabelSet :=
  (observations.map fun o => LabelSet.ofPairs o.labels).dedup

theorem foldl_under (labels : List (String × String)) (observations : List Observation) :
    (Family.under (LabelSet.ofPairs labels)
      (observations.map fun o => (o.labels, micros o.nanoseconds))).foldl add noObservation =
        Distribution.of (durations labels observations) := by
  rw [Family.under_ofPairs, ← Distribution.of_nil, Distribution.foldl_add_of, List.filter_map]
  simp [durations, Function.comp_def, toNat_micros]

/-- **What is kept for some labels** is the distribution of their durations, in whatever order the
labels were given. -/
theorem getD_after (observations : List Observation) (labels : List (String × String)) :
    ((after observations).get? (LabelSet.ofPairs labels)).getD noObservation =
      Distribution.of (durations labels observations) := by
  rw [after_eq, Family.getD_recorded, foldl_under]

theorem series_after (observations : List Observation) :
    (after observations).series.Perm ((touched observations).map fun labels =>
      (labels, Distribution.of (durations labels.pairs observations))) := by
  have kept := Family.series_recorded noObservation add
    (observations.map fun o => (o.labels, micros o.nanoseconds))
  simp only [← after_eq, getD_after, Family.labelSets, List.map_map] at kept
  exact kept

theorem count_after (observations : List Observation) (labels : List (String × String)) :
    (after observations).count labels =
      (Distribution.of (durations labels observations)).count := by
  rw [← getD_after, count]
  cases (after observations).get? (LabelSet.ofPairs labels) <;> rfl

theorem length_durations_le (labels : List (String × String)) (observations : List Observation) :
    (durations labels observations).length ≤ observations.length := by
  rw [durations, List.length_map]
  exact List.length_filter_le _ _

/-- **Buckets grow with their bounds**, and none exceeds the count. -/
theorem upTo_mono {bound higher : Nat} (le : bound ≤ higher) (durations : List Nat) :
    upTo bound durations ≤ upTo higher durations := by
  apply List.countP_mono_left
  intro duration _ within
  have small := of_decide_eq_true within
  exact decide_eq_true (by omega)

theorem pairwise_upTo (durations : List Nat) :
    (bounds.map (fun bound => upTo bound.toNat durations) ++ [durations.length]).Pairwise
      (· ≤ ·) := by
  have ascending : bounds.Pairwise fun bound higher => bound.toNat ≤ higher.toNat := by decide
  rw [List.pairwise_append]
  refine ⟨?_, List.pairwise_singleton _ _, ?_⟩
  · apply List.Pairwise.map _ _ ascending
    intro bound higher le
    exact upTo_mono le durations
  · intro n among count same
    obtain ⟨bound, -, rfl⟩ := List.mem_map.1 among
    rw [List.mem_singleton.1 same]
    exact List.countP_le_length

/-- The lines of one series as its durations say: for each bound the number of durations up to it,
the number of all durations, their sum modulo `2 ^ 64` and their number again. -/
def block (name : String) (labels : LabelSet) (durations : List Nat) : List String :=
  let text := labels.render
  let line (name labels : String) (n : Nat) := name ++ "\x7b" ++ labels ++ "\x7d " ++ toString n
  let bucket (bound : String) := line (name ++ "_bucket") (withBound text bound)
  (bounds.map fun bound => bucket (toString bound) (upTo bound.toNat durations)) ++
    [bucket "+Inf" durations.length,
      line (name ++ "_sum") text (durations.sum % 2 ^ 64),
      line (name ++ "_count") text durations.length]

/-- **Fewer than `2 ^ 64` durations** are counted exactly on every line. -/
theorem lines_of (name : String) (labels : LabelSet) {durations : List Nat}
    (few : durations.length < 2 ^ 64) :
    lines name labels (Distribution.of durations) = block name labels durations := by
  have line (name labels : String) (n : Nat) :
      sampleLine name labels (UInt64.ofNat n) =
        name ++ "\x7b" ++ labels ++ "\x7d " ++ toString (n % 2 ^ 64) := by
    rw [← UInt64.toNat_ofNat']
    rfl
  have count : durations.length % 2 ^ 64 = durations.length := Nat.mod_eq_of_lt few
  have bucket (bound : Nat) : upTo bound durations % 2 ^ 64 = upTo bound durations :=
    Nat.mod_eq_of_lt (Nat.lt_of_le_of_lt List.countP_le_length few)
  have paired (f : UInt64 → UInt64) :
      bounds.zip (bounds.map f) = bounds.map fun bound => (bound, f bound) :=
    rfl
  simp only [lines, block, Distribution.of, paired, List.map_map, Function.comp_def, line, count,
    bucket]

/-- **The exposition of a histogram** is the block of each label set among the observations. -/
theorem exists_blocks (name : String) (few : observations.length < 2 ^ 64) :
    ∃ blocks : List (List String),
      (after observations).render name = ("# TYPE " ++ name ++ " histogram") :: blocks.flatten ∧
        blocks.Perm ((touched observations).map fun labels =>
          block name labels (durations labels.pairs observations)) := by
  rcases Family.renderSorted_perm (series_after observations) (lines name) with
    ⟨blocks, flat, perm⟩
  refine ⟨blocks, congrArg _ flat, perm.trans (List.Perm.of_eq (List.map_congr_left ?_))⟩
  intro labels _
  have fewer := length_durations_le labels.pairs observations
  exact lines_of name labels (by omega)

/-- Observations in another order leave the same distributions. -/
theorem series_after_of_perm (perm : observations.Perm others) :
    (after observations).series.Perm (after others).series := by
  rw [after_eq, after_eq]
  apply Family.series_recorded_of_perm
  · intro values values' same
    rw [← Distribution.of_nil, Distribution.foldl_add_of, Distribution.foldl_add_of]
    exact Distribution.of_perm (same.map UInt64.toNat)
  · exact perm.map _

end Histogram

/-! ## All calls -/

/-- **Calls add up, whatever the order** of their labels and of the calls.  A counter has under some
labels the sum of what was added under a permutation of them, and as its total the sum of all that
was added, modulo `2 ^ 64`; calls in another order leave the same sums and, in some order, the same
series.

A histogram that was called fewer than `2 ^ 64` times has under some labels the number of the
durations that were observed under a permutation of them, their sum modulo `2 ^ 64` and for each
bound the number of those up to it, so that no bucket exceeds a later one or the count.  Its
exposition has these numbers once for each label set, in some order.  Here too the order of the
calls decides on nothing but the order of the series. -/
theorem Metrics.calls_add_up (name : String) (calls : List Counter.Call)
    (observations : List Histogram.Observation) (few : observations.length < 2 ^ 64) :
    let c := Counter.after calls
    let h := Histogram.after observations
    ((∀ labels, (c.get labels).toNat =
        ((calls.filter (·.labels.Perm labels)).map (·.amount.toNat)).sum % 2 ^ 64) ∧
      c.total.toNat = (calls.map (·.amount.toNat)).sum % 2 ^ 64 ∧
      ∀ others, calls.Perm others →
        (∀ labels, (Counter.after others).get labels = c.get labels) ∧
          (Counter.after others).total = c.total ∧
          (Counter.after others).series.Perm c.series) ∧
    (∀ labels,
      let durations := Histogram.durations labels observations
      let d := (h.get? (LabelSet.ofPairs labels)).getD Histogram.noObservation
      (h.count labels).toNat = durations.length ∧ d.count = h.count labels ∧
        d.sum.toNat = durations.sum % 2 ^ 64 ∧
        d.buckets.map UInt64.toNat =
          Histogram.bounds.map (fun bound => upTo bound.toNat durations) ∧
        (d.buckets.map UInt64.toNat ++ [(h.count labels).toNat]).Pairwise (· ≤ ·)) ∧
    (∃ blocks : List (List String),
      h.render name = ("# TYPE " ++ name ++ " histogram") :: blocks.flatten ∧
        blocks.Perm ((Histogram.touched observations).map fun labels =>
          Histogram.block name labels (Histogram.durations labels.pairs observations))) ∧
    ∀ others, observations.Perm others →
      (∀ labels, (Histogram.after others).count labels = h.count labels) ∧
        (Histogram.after others).series.Perm h.series := by
  intro c h
  refine ⟨⟨Counter.toNat_get calls, Counter.toNat_total_after calls, ?_⟩, ?_,
    Histogram.exists_blocks name few, ?_⟩
  · intro others perm
    refine ⟨?_, ?_, (Counter.series_after_of_perm perm).symm⟩
    · intro labels
      apply UInt64.toNat.inj
      rw [Counter.toNat_get, Counter.toNat_get, ((perm.filter _).map _).sum_nat]
    · apply UInt64.toNat.inj
      rw [Counter.toNat_total_after, Counter.toNat_total_after, (perm.map _).sum_nat]
  · intro labels durations d
    have whole : d = Distribution.of durations := Histogram.getD_after observations labels
    have fewer : durations.length < 2 ^ 64 :=
      Nat.lt_of_le_of_lt (Histogram.length_durations_le labels observations) few
    have count : (h.count labels).toNat = durations.length := by
      rw [Histogram.count_after]
      exact UInt64.toNat_ofNat_of_lt' fewer
    have buckets : d.buckets.map UInt64.toNat =
        Histogram.bounds.map (fun bound => upTo bound.toNat durations) := by
      rw [whole, Distribution.of, List.map_map]
      apply List.map_congr_left
      intro bound _
      exact UInt64.toNat_ofNat_of_lt' (Nat.lt_of_le_of_lt List.countP_le_length fewer)
    refine ⟨count, ?_, ?_, buckets, ?_⟩
    · rw [whole, Histogram.count_after]
    · rw [whole]
      exact UInt64.toNat_ofNat'
    · rw [buckets, count]
      exact Histogram.pairwise_upTo durations
  · intro others perm
    refine ⟨?_, (Histogram.series_after_of_perm perm).symm⟩
    intro labels
    rw [Histogram.count_after, Histogram.count_after]
    exact congrArg _ (Distribution.of_perm ((perm.filter _).map _)).symm

namespace Metrics.Example

open Counter (Call)

def calls : List Call :=
  [.increment [("kind", "key"), ("pass", "fuzz")], .increment [("pass", "trace")],
    .add [("pass", "fuzz"), ("kind", "key")] 18446744073709551615]

/-- Just under six microseconds, a hundred and a minute. -/
def observations : List Histogram.Observation :=
  [⟨[("direction", "server")], 5999⟩, ⟨[("direction", "server")], 100000⟩,
    ⟨[("direction", "client")], 1000⟩, ⟨[("direction", "server")], 60000000000⟩]

/-- The two orders of the labels name one series, whose sum wraps to zero; the total counts on.  A
duration is counted up to its own bound. -/
theorem calls_added_up :
    observations.length < 2 ^ 64 ∧
      (Counter.after calls).get [("kind", "key"), ("pass", "fuzz")] = 0 ∧
      (Counter.after calls).total = 1 ∧
      ((Histogram.after observations).count [("direction", "server")]).toNat = 3 ∧
      (((Histogram.after observations).get? (LabelSet.ofPairs [("direction", "server")])).getD
        Histogram.noObservation).buckets.map UInt64.toNat = [0, 1, 1, 2, 2, 2, 2, 2] := by
  have few : observations.length < 2 ^ 64 := by decide
  obtain ⟨⟨sums, total, -⟩, server, -, -⟩ := calls_add_up "calls" calls observations few
  obtain ⟨count, -, -, buckets, -⟩ := server [("direction", "server")]
  refine ⟨few, ?_, ?_, ?_, ?_⟩
  · exact UInt64.toNat.inj ((sums _).trans (by decide))
  · exact UInt64.toNat.inj (total.trans (by decide))
  · exact count.trans (by decide)
  · exact buckets.trans (by decide)

end Metrics.Example

end WaylandProxy
