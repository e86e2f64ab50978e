/-
# Proofs.Machine -- runs of a part of the proxy

A tracker, a synthesizer and a router are driven by moves: each move leads to another
state and gives out a list of results.  A run takes moves one after the other, and its
outputs are the results of all of them in order.

What holds of a state together with the outputs so far, and survives one move, holds after
every run (`Machine.keeps`).  A log of a run grows at its end (`entry_of_concat`).
-/
import Mathlib.Data.List.Basic

namespace WaylandProxy

set_option autoImplicit false

/-- An entry of a log with one more at its end is that one, or it is in the log. -/
theorem entry_of_concat {α : Type} {log before after : List α} {last entry : α}
    (split : log ++ [last] = before ++ entry :: after) :
    (before = log ∧ entry = last ∧ after = []) ∨
      ∃ within, after = within ++ [last] ∧ log = before ++ entry :: within := by
  rcases List.eq_nil_or_concat after with rfl | ⟨within, other, rfl⟩
  · obtain ⟨rfl, same⟩ := List.append_inj' split rfl
    cases same
    exact .inl ⟨rfl, rfl, rfl⟩
  · have ends : log ++ [last] = (before ++ entry :: within) ++ [other] := by
      rw [split, List.concat_eq_append, List.append_assoc, List.cons_append]
    obtain ⟨inside, same⟩ := List.append_inj' ends rfl
    cases same
    exact .inr ⟨within, List.concat_eq_append, inside⟩

/-- Where no key occurs twice, a pair of the list is found under its key. -/
theorem lookup_of_mem {α β : Type} [BEq α] [LawfulBEq α] {entries : List (α × β)}
    (distinct : (entries.map Prod.fst).Nodup) {key : α} {value : β}
    (member : (key, value) ∈ entries) : entries.lookup key = some value := by
  obtain ⟨before, after, rfl⟩ := List.append_of_mem member
  refine List.lookup_eq_some_iff.2 ⟨before, after, rfl, ?_⟩
  intro entry earlier
  rw [List.map_append, List.nodup_append] at distinct
  have differs := distinct.2.2 entry.1 (List.mem_map_of_mem earlier) key (by simp)
  exact bne_iff_ne.2 (Ne.symm differs)

/-- A state that takes moves, and what each move gives out. -/
structure Machine (State Move Output : Type) where
  step : State → Move → State
  out : State → Move → List Output

namespace Machine

variable {State Move Output : Type} (machine : Machine State Move Output)

def run (s : State) (moves : List Move) : State :=
  moves.foldl machine.step s

/-- What a run gives out, in order. -/
def outputs : State → List Move → List Output
  | _, [] => []
  | s, move :: rest => machine.out s move ++ outputs (machine.step s move) rest

@[simp] theorem run_nil (s : State) : machine.run s [] = s := rfl

@[simp] theorem run_cons (s : State) (move : Move) (rest : List Move) :
    machine.run s (move :: rest) = machine.run (machine.step s move) rest := rfl

@[simp] theorem outputs_nil (s : State) : machine.outputs s [] = [] := rfl

@[simp] theorem outputs_cons (s : State) (move : Move) (rest : List Move) :
    machine.outputs s (move :: rest) =
      machine.out s move ++ machine.outputs (machine.step s move) rest := rfl

theorem run_append (s : State) (moves more : List Move) :
    machine.run s (moves ++ more) = machine.run (machine.run s moves) more :=
  List.foldl_append

theorem outputs_append (s : State) (moves more : List Move) :
    machine.outputs s (moves ++ more) =
      machine.outputs s moves ++ machine.outputs (machine.run s moves) more := by
  induction moves generalizing s with
  | nil => rfl
  | cons move rest ih => simp [ih]

/-- What one move preserves, every run preserves. -/
theorem keeps (invariant : State → List Output → Prop)
    (preserved : ∀ s given move, invariant s given →
      invariant (machine.step s move) (given ++ machine.out s move)) :
    ∀ (moves : List Move) (s : State) (given : List Output), invariant s given →
      invariant (machine.run s moves) (given ++ machine.outputs s moves)
  | [], s, given, holds => by simpa using holds
  | move :: rest, s, given, holds => by
      have next := keeps invariant preserved rest _ _ (preserved s given move holds)
      simpa [List.append_assoc] using next

/-- What holds at the start, with nothing given out, and is preserved by every move holds
after every run. -/
theorem holds_after (invariant : State → List Output → Prop) {s : State}
    (initial : invariant s [])
    (preserved : ∀ s given move, invariant s given →
      invariant (machine.step s move) (given ++ machine.out s move)) (moves : List Move) :
    invariant (machine.run s moves) (machine.outputs s moves) := by
  simpa using machine.keeps invariant preserved moves s [] initial

end Machine

end WaylandProxy
