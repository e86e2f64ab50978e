/-
# Proofs.Outcome -- computations that can fail

A computation that can fail either gives a value or the reason why there is none.  Going on with the
value, or putting the value or the reason in another way, keeps which of the two it is; these are
the ways to take such a computation apart.
-/

namespace WaylandProxy

set_option autoImplicit false

variable {ε ε' α β : Type} {x : Except ε α}

/-- A computation that goes on after another succeeds only if both do. -/
theorem bind_eq_ok {f : α → Except ε β} {b : β} :
    x >>= f = .ok b ↔ ∃ a, x = .ok a ∧ f a = .ok b := by
  cases x with
  | error e => simp [bind, Except.bind]
  | ok a => simp [bind, Except.bind]

theorem map_eq_ok_iff {f : α → β} {b : β} : x.map f = .ok b ↔ ∃ a, x = .ok a ∧ f a = b := by
  cases x <;> simp [Except.map]

theorem map_eq_error_iff {f : α → β} {e : ε} : x.map f = .error e ↔ x = .error e := by
  cases x <;> simp [Except.map]

/-- To word a flaw otherwise changes nothing about what is read. -/
theorem mapError_eq_ok_iff {f : ε → ε'} {a : α} : x.mapError f = .ok a ↔ x = .ok a := by
  cases x with
  | error e => exact ⟨nofun, nofun⟩
  | ok other =>
      show Except.ok other = Except.ok a ↔ _
      simp

theorem mapError_eq_error_iff {f : ε → ε'} {e' : ε'} :
    x.mapError f = .error e' ↔ ∃ e, x = .error e ∧ f e = e' := by
  cases x with
  | error e =>
      show Except.error (f e) = Except.error e' ↔ _
      simp
  | ok a =>
      show Except.ok a = Except.error e' ↔ _
      simp

end WaylandProxy
