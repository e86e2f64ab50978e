/-
# Proofs.Input.Lookahead -- looking at random gestures leaves the stream alone

The source of random gestures draws an event when it is first asked for it, be it by a look or by
an advance that no look came before.  When that is makes no difference: a second look draws nothing
(`prepare_prepare`), and an advance consumes the event that a look shows, whether one came before it
or not (`advance_prepare`).

So after any calls the source is one that was advanced so many times, with looks in between
(`advanced_run`), and of such a source nothing but the number of advances can be seen
(`current_run`, `outputs_run`).  Two sequences of calls with as many advances consume the same
events and leave the same memory, and after one more look the same source, its generator included
(`stream_counts_advances_only`).
-/
import WaylandProxy.Input.Source
import WaylandProxy.Proofs.Input.Legality
import WaylandProxy.Proofs.Input.Stream

namespace WaylandProxy

set_option autoImplicit false

namespace Procedural

variable {γ : Type} [Draws γ]

open EventSource (Advanced skip)

/-! ## One look -/

/-- A second look shows what the first one showed, and draws nothing. -/
theorem prepare_prepare (s : Procedural γ) : s.prepare.2.prepare = s.prepare := by
  obtain ⟨draws, delayMin, delayMax, next, inside, keys, buttons⟩ := s
  cases next <;> rfl

theorem current_eq (s : Procedural γ) :
    EventSource.current s = (some s.prepare.1, s.prepare.2) := rfl

instance : LawfulSource (Procedural γ) where
  current_current s := by rw [current_eq, current_eq, prepare_prepare]

/-- An advance after a look leads where the advance alone leads. -/
theorem advance_prepare (s : Procedural γ) : s.prepare.2.advance = s.advance := by
  unfold advance
  rw [prepare_prepare]

theorem memory_of_current {s t : Procedural γ}
    (same : EventSource.current s = EventSource.current t) :
    s.inside = t.inside ∧ s.keysDown = t.keysDown ∧ s.buttonsDown = t.buttonsDown := by
  rw [current_eq, current_eq] at same
  obtain ⟨-, sources⟩ := Prod.mk.inj same
  rw [prepare_snd s, prepare_snd t] at sources
  obtain ⟨-, -, -, -, place, keys, buttons⟩ := Procedural.mk.inj sources
  exact ⟨place, keys, buttons⟩

/-- A source with an event drawn ahead is not changed by a look. -/
theorem current_of_drawn {s : Procedural γ} {event : Scheduled} (drawn : s.next = some event) :
    EventSource.current s = (some event, s) := by
  rw [current_eq]
  simp [prepare, drawn]

/-! ## Any calls -/

/-- Any calls are so many advances, with looks in between. -/
theorem advanced_run (s : Procedural γ) (calls : List Call) :
    Advanced s (calls.count .advance) ((machine γ).run s calls) := by
  induction calls using List.reverseRecOn with
  | nil => exact .start
  | append_singleton calls call ih =>
      rw [Machine.run_append, List.count_append]
      cases call with
      | current => exact ih.look
      | advance =>
          -- no look need come before it, so one is put in
          have stepped : (machine γ).run ((machine γ).run s calls) [.advance] =
              EventSource.advance (EventSource.current ((machine γ).run s calls)).2 :=
            (advance_prepare _).symm
          rw [stepped]
          exact ih.advance

/-- What a look shows and leaves depends on the number of advances alone. -/
theorem current_run (s : Procedural γ) (calls : List Call) :
    EventSource.current ((machine γ).run s calls) =
      EventSource.current (skip s (calls.count .advance)) :=
  (advanced_run s calls).current_eq

/-- What is consumed is what looks would have shown, one event for each advance. -/
theorem outputs_run (s : Procedural γ) (calls : List Call) :
    (machine γ).outputs s calls =
      (List.range (calls.count .advance)).map fun k => (skip s k).prepare.1 := by
  induction calls using List.reverseRecOn with
  | nil => rfl
  | append_singleton calls call ih =>
      rw [Machine.outputs_append, List.count_append, ih]
      cases call with
      | current => exact List.append_nil _
      | advance =>
          have shown := Option.some.inj (congrArg Prod.fst (current_run s calls))
          rw [List.count_singleton_self, List.range_succ, List.map_append, List.map_singleton]
          exact congrArg (fun event => _ ++ [event]) shown

/-- An event is drawn ahead exactly after a look. -/
theorem next_run (s : Procedural γ) (calls : List Call) (last : Call) :
    ((machine γ).run s (calls ++ [last])).next.isSome = decide (last = .current) := by
  rw [Machine.run_append]
  generalize (machine γ).run s calls = t
  cases last with
  | current =>
      show t.prepare.2.next.isSome = _
      rw [prepare_snd]
      rfl
  | advance =>
      show t.advance.next.isSome = _
      rw [advance_eq, apply_next]
      rfl

/-- **Of the calls only the advances count.**  Take any state of the source, of its generator and
of its bounds, and two sequences of calls with as many advances.

* They consume the same events in the same order, and the next look shows the same event.
* Inside and held are the same after both, and after one more look everything is; so it is already
  where both have looked since their last advance.
* Looks alone, however many, show one event.
* An advance consumes the event that a look shows, whether one came before it or not: it goes on
  from where the look leads, and remembers that event's gesture. -/
theorem stream_counts_advances_only (s : Procedural γ) {calls others : List Call}
    (same : calls.count .advance = others.count .advance) :
    let t := (machine γ).run s calls
    let u := (machine γ).run s others
    ((machine γ).outputs s calls = (machine γ).outputs s others ∧
      (EventSource.current t).1 = (EventSource.current u).1) ∧
    ((t.inside = u.inside ∧ t.keysDown = u.keysDown ∧ t.buttonsDown = u.buttonsDown) ∧
      (EventSource.current t).2 = (EventSource.current u).2 ∧
      (t.next.isSome → u.next.isSome → t = u)) ∧
    (∀ n, (EventSource.current ((machine γ).run t (List.replicate n .current))).1 =
      (EventSource.current t).1) ∧
    ∃ event, (EventSource.current t).1 = some event ∧ (machine γ).out t .advance = [event] ∧
      EventSource.advance t =
        { (EventSource.current t).2 with next := none }.apply event.gesture ∧
      EventSource.advance (EventSource.current t).2 = EventSource.advance t := by
  intro t u
  have looks : EventSource.current t = EventSource.current u := by
    rw [current_run, current_run, same]
  have consumed : (machine γ).outputs s calls = (machine γ).outputs s others := by
    rw [outputs_run, outputs_run, same]
  refine ⟨⟨consumed, congrArg Prod.fst looks⟩, ⟨memory_of_current looks, congrArg Prod.snd looks,
    fun tDrawn uDrawn => ?_⟩, fun n => ?_, t.prepare.1, rfl, rfl, rfl, advance_prepare t⟩
  · obtain ⟨event, tNext⟩ := Option.isSome_iff_exists.1 tDrawn
    obtain ⟨other, uNext⟩ := Option.isSome_iff_exists.1 uDrawn
    rw [current_of_drawn tNext, current_of_drawn uNext] at looks
    exact congrArg Prod.snd looks
  · have still : (List.replicate n Call.current).count .advance = 0 := by
      rw [List.count_replicate, if_neg (by decide)]
    rw [current_run, still]
    rfl

namespace Example

/-- A source that has drawn nothing yet. -/
def fresh : Procedural ChaCha :=
  between (ChaCha.ofSeed 15) 1500000 40000000

/-- Five advances, the last two after looks, and a look ahead. -/
def patient : List Call :=
  [.advance, .advance, .advance, .current, .advance, .current, .current, .advance, .current]

/-- The patient calls end with a look, so their source has drawn an event ahead and the other one
has not.  All the same both have consumed the same events and show the same next, and then their
generators have drawn as much. -/
theorem patient_calls_consume_the_same :
    calls.count .advance = 5 ∧ patient.count .advance = 5 ∧
      ((machine ChaCha).run fresh calls).next.isSome = false ∧
      ((machine ChaCha).run fresh patient).next.isSome = true ∧
      (machine ChaCha).outputs fresh calls = (machine ChaCha).outputs fresh patient ∧
      (EventSource.current ((machine ChaCha).run fresh calls)).1 =
        (EventSource.current ((machine ChaCha).run fresh patient)).1 ∧
      (EventSource.current ((machine ChaCha).run fresh calls)).2.draws =
        (EventSource.current ((machine ChaCha).run fresh patient)).2.draws := by
  have same : calls.count .advance = patient.count .advance := by decide
  obtain ⟨⟨consumed, shown⟩, ⟨-, after, -⟩, -⟩ := stream_counts_advances_only fresh same
  have last : calls = calls.dropLast ++ [.advance] := rfl
  have last' : patient = patient.dropLast ++ [.current] := rfl
  refine ⟨by decide, by decide, ?_, ?_, consumed, shown, congrArg draws after⟩
  · rw [last, next_run]
    rfl
  · rw [last', next_run]
    rfl

end Example

end Procedural

end WaylandProxy
