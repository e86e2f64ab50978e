/-
# Proofs.Input.Stream -- what an event source shows between two advances

A source promises that looking does not consume: however often it is looked at, it shows
the same event until it advances (`EventSource.Repeats`).  Looking may still change the
source, so its states are not counted by equations but by a relation: `Advanced s n t` says
that `s` became `t` by `n` advances, with any number of looks in between.  An event is the
one at `n` if it is shown after `n` advances (`ShownAt`).

Where the second of two looks changes nothing, what is shown after `n` advances is what is shown
after `n` advances with one look before each (`Advanced.current_eq`).
-/
import WaylandProxy.Input.Event

namespace WaylandProxy

set_option autoImplicit false

namespace EventSource

variable {σ : Type} [EventSource σ]

/-- Looking does not consume: the event shown is shown again. -/
def Repeats (σ : Type) [EventSource σ] : Prop :=
  ∀ s : σ, (current (current s).2).1 = (current s).1

theorem repeats_of_lawful [LawfulSource σ] : Repeats σ :=
  fun s => congrArg Prod.fst (LawfulSource.current_current s)

/-- `t` is `s` after this many advances, each after a look, and any number of looks. -/
inductive Advanced (s : σ) : Nat → σ → Prop where
  | start : Advanced s 0 s
  | look {n : Nat} {t : σ} (earlier : Advanced s n t) : Advanced s n (current t).2
  | advance {n : Nat} {t : σ} (earlier : Advanced s n t) :
      Advanced s (n + 1) (EventSource.advance (current t).2)

/-- The event at `n` is what the source shows after that many advances. -/
def ShownAt (s : σ) (n : Nat) (event : Scheduled) : Prop :=
  ∃ t, Advanced s n t ∧ (current t).1 = some event

/-- The source after this many advances, each after one look. -/
def skip (s : σ) : Nat → σ
  | 0 => s
  | n + 1 => EventSource.advance (current (skip s n)).2

/-- Before the next advance every look shows the same. -/
theorem Advanced.shown_of_none {s t : σ} (repeats : Repeats σ) (advanced : Advanced s 0 t) :
    (current t).1 = (current s).1 := by
  generalize none : 0 = n at advanced
  induction advanced with
  | start => rfl
  | look earlier ih => rw [repeats, ih none]
  | advance earlier ih => cases none

/-- With a source that a second look does not change, all looks show the same. -/
theorem Advanced.current_eq [LawfulSource σ] {s t : σ} {n : Nat} (advanced : Advanced s n t) :
    current t = current (skip s n) := by
  induction advanced with
  | start => rfl
  | look earlier ih => rw [LawfulSource.current_current, ih]
  | advance earlier ih => rw [ih, skip]

end EventSource

end WaylandProxy
