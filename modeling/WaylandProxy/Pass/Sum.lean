/-
# Pass.Sum -- a pass that is one of two

Where passes of two kinds stand in one chain, each of them keeps its own behaviour: the
state of the chain's passes is a sum, and every operation goes to the side that is there.
-/
import WaylandProxy.Pass.Basic

namespace WaylandProxy

set_option autoImplicit false

variable {σ τ : Type}

def Handled.map (f : σ → τ) (h : Handled σ) : Handled τ :=
  ⟨f h.pass, h.transit, h.verdict⟩

instance [Pass σ] [Pass τ] : Pass (σ ⊕ τ) where
  name := Sum.elim Pass.name Pass.name
  usage := Sum.elim Pass.usage Pass.usage
  pinned := Sum.elim Pass.pinned Pass.pinned
  init storage args w
    | .inl p => let (ready, w) := Pass.init storage args w p; (ready.map .inl, w)
    | .inr p => let (ready, w) := Pass.init storage args w p; (ready.map .inr, w)
  onEvent ctx t
    | .inl p => (Pass.onEvent ctx t p).map .inl
    | .inr p => (Pass.onEvent ctx t p).map .inr
  onRequest ctx t
    | .inl p => (Pass.onRequest ctx t p).map .inl
    | .inr p => (Pass.onRequest ctx t p).map .inr
  idle now i
    | .inl p => (Pass.idle now i p).map .inl id
    | .inr p => (Pass.idle now i p).map .inr id
  finalize w
    | .inl p => (Pass.finalize w p).map .inl id
    | .inr p => (Pass.finalize w p).map .inr id

end WaylandProxy
