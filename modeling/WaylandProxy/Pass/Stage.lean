/-
# Pass.Stage -- the passes that a configuration can name

A stage is one of the three built-in passes.  `make` gives the one of a name, not set up
yet, and no other names exist.
-/
import WaylandProxy.Pass.Fuzz
import WaylandProxy.Pass.Interactive
import WaylandProxy.Pass.Sum
import WaylandProxy.Pass.Trace

namespace WaylandProxy

set_option autoImplicit false

abbrev Stage := Trace ⊕ Fuzz Source ⊕ Interactive

namespace Stage

@[match_pattern]
def trace (p : Trace) : Stage := .inl p

@[match_pattern]
def fuzz (p : Fuzz Source) : Stage := .inr (.inl p)

@[match_pattern]
def interactive (p : Interactive) : Stage := .inr (.inr p)

/-- The pass of a name, made at a moment; `input` are the operator's lines. -/
def make (now : Nat) (input : List (List UInt8)) (name : String) : Except Fault Stage :=
  if name = "trace" then .ok (trace (.create ⟨none⟩))
  else if name = "fuzz" then .ok (fuzz (.create now))
  else if name = "interactive" then .ok (interactive (.create input ⟨none⟩))
  else .error (.configuration ("unknown pass " ++ name))

end Stage

end WaylandProxy
