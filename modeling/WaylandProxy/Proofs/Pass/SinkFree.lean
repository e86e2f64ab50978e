/-
# Proofs.Pass.SinkFree -- what no handler can do to a message or to the sinks

A handler is shown a message and the objects and has no way to a peer, and there is none at the
end either: only an idle opportunity comes with a sink.  `SinkFree` says so of the passes of one
kind, and all built-in ones are.  In a chain of such passes a message goes through without a use
of either sink (`Router.sparesSinks_route`), and whatever the passes make of its words, it comes
out between the same peers (`Router.peers_route`).
-/
import WaylandProxy.Pass.Router
import WaylandProxy.Pass.Stage
import WaylandProxy.Proofs.Pass.SoleFuzz
import WaylandProxy.Proofs.Session.Sinks

namespace WaylandProxy

set_option autoImplicit false

open World (SparesSinks)

/-- Passes that do not use the sinks, but for the idle opportunities. -/
class SinkFree (σ : Type) [Pass σ] : Prop where
  onEvent (ctx : Context) (t : Transit) (p : σ) :
    SparesSinks t.world (Pass.onEvent ctx t p).transit.world
  onRequest (ctx : Context) (t : Transit) (p : σ) :
    SparesSinks t.world (Pass.onRequest ctx t p).transit.world
  finalize (w : World) (p : σ) : SparesSinks w (Pass.finalize w p).2

/-! ## The built-in passes -/

theorem Screen.sparesSinks_put (s : Screen) (line : String) (w : World) :
    SparesSinks w (s.put line w) := by
  unfold put
  cases s.fault with
  | none => exact .tell w _
  | some reason => exact .log w _ _ _ _

theorem World.SparesSinks.report (w : World) (report : Option Report) :
    SparesSinks w (w.report report) := by
  cases report with
  | none => exact .refl w
  | some r => exact (SparesSinks.count w _).trans (.note _ rfl)

theorem Trace.sparesSinks_observe (hidden : Bool) (ctx : Context) (t : Transit) (p : Trace) :
    SparesSinks t.world (observe hidden ctx t p).transit.world := by
  unfold observe
  split
  · exact .refl t.world
  · exact p.screen.sparesSinks_put _ _

instance : SinkFree Trace where
  onEvent ctx t p := p.sparesSinks_observe _ ctx t
  onRequest ctx t p := p.sparesSinks_observe _ ctx t
  finalize w _ := .refl w

namespace Fuzz

variable {σ : Type}

theorem sparesSinks_decideApplies (p : Fuzz σ) (m : Message) (w : World) :
    SparesSinks w (p.decideApplies m w).2.2 := by
  unfold decideApplies
  split
  · exact .refl w
  · simp only
    split
    · exact .refl w
    · exact .log w _ _ _ _

theorem sparesSinks_checkReadiness [EventSource σ] (p : Fuzz σ) (now : Nat) (w : World) :
    SparesSinks w (p.checkReadiness now w).2 := by
  unfold checkReadiness
  cases p.synth with
  | none => exact .refl w
  | some s =>
      show SparesSinks w (s.checkReadiness p.tracker now w).2
      unfold Synthesizer.checkReadiness
      split
      · exact .log w _ _ _ _
      · exact .refl w

theorem sparesSinks_handleEvent (ctx : Context) (t : Transit) (p : Fuzz σ) :
    SparesSinks t.world (p.handleEvent ctx t).transit.world := by
  have decided := p.sparesSinks_decideApplies t.message t.world
  unfold handleEvent
  simp only
  split
  · exact decided
  · split
    · exact decided
    · exact decided.trans (.report _ _)

theorem sparesSinks_handleRequest [EventSource σ] (ctx : Context) (t : Transit) (p : Fuzz σ) :
    SparesSinks t.world (p.handleRequest ctx t).transit.world := by
  have decided := p.sparesSinks_decideApplies t.message t.world
  unfold handleRequest
  simp only
  split
  · exact decided
  · exact (decided.trans (.report _ _)).trans (sparesSinks_checkReadiness _ _ _)

instance [EventSource σ] [LoadSource σ] : SinkFree (Fuzz σ) where
  onEvent := sparesSinks_handleEvent
  onRequest := sparesSinks_handleRequest
  finalize w _ := .refl w

end Fuzz

namespace Command

theorem sparesSinks_run (c : Command) (tally : Tally) (t : Transit) :
    SparesSinks t.world (c.run tally t).2.world := by
  cases c with
  | info | hex | help => exact .tell t.world _
  | resume | next | drop | quit => exact .refl t.world

theorem sparesSinks_runLine (line : String) (tally : Tally) (t : Transit) :
    SparesSinks t.world (runLine line tally t).2.world := by
  unfold runLine
  simp only
  split
  · exact .refl t.world
  · split
    · exact sparesSinks_run _ tally t
    · exact .refl t.world

end Command

namespace Interactive

theorem sparesSinks_answer (line : List UInt8) (tally : Tally) (t : Transit) :
    SparesSinks t.world (answer line tally t).2.world := by
  unfold answer
  split
  · exact .log t.world _ _ _ _
  · rename_i text decoded
    have ran := Command.sparesSinks_runLine text tally t
    split <;> rename_i turn <;> rw [turn] at ran
    · exact ran
    · exact ran
    · exact ran.trans (.tell _ _)

theorem sparesSinks_ask (t : Transit) : SparesSinks t.world (ask t).world := by
  unfold ask
  simp only
  split
  · exact ((SparesSinks.takeBreak t.world).trans (.tell _ _)).trans (.tell _ _)
  · exact (SparesSinks.takeBreak t.world).trans (.tell _ _)

theorem sparesSinks_query (tally : Tally) : ∀ (lines : List (List UInt8)) (t : Transit),
    SparesSinks t.world (query tally lines t).2.2.2.world
  | [], t => by
      unfold query
      split
      · exact .refl t.world
      · exact sparesSinks_ask t
  | line :: rest, t => by
      have answered := (sparesSinks_ask t).trans (sparesSinks_answer line tally (ask t))
      unfold query
      split
      · exact .refl t.world
      · split <;> rename_i turn <;> rw [turn] at answered
        · exact answered
        · exact answered.trans (sparesSinks_query tally rest _)

theorem sparesSinks_process (ctx : Context) (t : Transit) (p : Interactive) :
    SparesSinks t.world (process ctx t p).transit.world := by
  have looked (line : String) : SparesSinks t.world (p.screen.put line t.world.takeBreak.2) :=
    (SparesSinks.takeBreak t.world).trans (p.screen.sparesSinks_put line _)
  unfold process
  simp only
  split
  · exact looked _
  · exact SparesSinks.trans ((looked _).trans (.tell _ _)) (sparesSinks_query _ _ ⟨_, _, _, _⟩)

instance : SinkFree Interactive where
  onEvent ctx t p := p.sparesSinks_process ctx t
  onRequest ctx t p := p.sparesSinks_process ctx t
  finalize w _ := .refl w

end Interactive

instance {σ τ : Type} [Pass σ] [Pass τ] [SinkFree σ] [SinkFree τ] : SinkFree (σ ⊕ τ) where
  onEvent ctx t
    | .inl p => SinkFree.onEvent ctx t p
    | .inr p => SinkFree.onEvent ctx t p
  onRequest ctx t
    | .inl p => SinkFree.onRequest ctx t p
    | .inr p => SinkFree.onRequest ctx t p
  finalize w
    | .inl p => SinkFree.finalize w p
    | .inr p => SinkFree.finalize w p

/-! ## A message in the chain -/

/-- The message stays between its peers, and the sinks were not used. -/
structure Transit.Kept (before after : Transit) : Prop where
  direction : after.message.direction = before.message.direction
  connection : after.message.connection = before.message.connection
  sinks : SparesSinks before.world after.world

namespace Transit.Kept

theorem refl (t : Transit) : Kept t t :=
  ⟨rfl, rfl, .refl t.world⟩

theorem trans {t middle after : Transit} (first : Kept t middle) (second : Kept middle after) :
    Kept t after :=
  ⟨second.direction.trans first.direction, second.connection.trans first.connection,
    first.sinks.trans second.sinks⟩

end Transit.Kept

variable {σ : Type} [Pass σ] [SinkFree σ]

theorem Pass.handle_kept (direction : Direction) (ctx : Context) (t : Transit) (p : σ) :
    t.Kept (Pass.handle direction ctx t p).transit := by
  refine ⟨rfl, rfl, ?_⟩
  cases direction with
  | fromServer => exact (SinkFree.onEvent ctx { t with world := t.world.drained } p).shown
  | fromClient => exact (SinkFree.onRequest ctx { t with world := t.world.drained } p).shown

namespace Router

theorem through_kept (direction : Direction) (ctx : Context) : ∀ (passes : List σ) (t : Transit),
    t.Kept (through direction ctx passes t).2.1
  | [], t => .refl t
  | p :: rest, t => by
      have first := Pass.handle_kept direction ctx t p
      unfold through
      simp only
      split
      · exact first
      · exact first.trans (through_kept direction ctx rest _)

theorem throughPinned_kept (direction : Direction) (ctx : Context) (verdict : Verdict)
    (pinned : Option σ) (t : Transit) :
    t.Kept (throughPinned direction ctx verdict pinned t).2 := by
  unfold throughPinned
  split
  · exact Pass.handle_kept direction ctx t _
  · exact .refl t

theorem route_kept (r : Router σ) (m : Message) (now : Nat) :
    (⟨m, false, r.exit, r.world⟩ : Transit).Kept
      ⟨(r.route m now).message, false, r.exit, (r.route m now).router.world⟩ := by
  have first := through_kept m.direction ⟨r.objects, now⟩ r.passes ⟨m, false, r.exit, r.world⟩
  have all := first.trans (throughPinned_kept m.direction ⟨r.objects, now⟩
    (through m.direction ⟨r.objects, now⟩ r.passes ⟨m, false, r.exit, r.world⟩).2.2 r.pinned _)
  exact ⟨all.direction, all.connection, all.sinks.trans (.count _ _)⟩

/-- **A message goes through the chain without a use of the sinks.** -/
theorem sparesSinks_route (r : Router σ) (m : Message) (now : Nat) :
    SparesSinks r.world (r.route m now).router.world :=
  (r.route_kept m now).sinks

/-- **A message comes out of the chain between the peers between which it came.** -/
theorem peers_route (r : Router σ) (m : Message) (now : Nat) :
    (r.route m now).message.direction = m.direction ∧
      (r.route m now).message.connection = m.connection :=
  ⟨(r.route_kept m now).direction, (r.route_kept m now).connection⟩

theorem sparesSinks_cleanUp (w : World) (p : σ) : SparesSinks w (Pass.cleanUp w p).2 :=
  (SinkFree.finalize w.drained p).shown

theorem sparesSinks_finalizeAll : ∀ (passes : List σ) (w : World),
    SparesSinks w (finalizeAll passes w).2
  | [], w => .refl w
  | p :: rest, w => (sparesSinks_finalizeAll rest w).trans (sparesSinks_cleanUp _ p)

/-- **Passes are finalized without a use of the sinks.** -/
theorem sparesSinks_shutdown (r : Router σ) : SparesSinks r.world r.shutdown.world := by
  unfold shutdown
  split
  · exact .refl r.world
  · cases r.pinned with
    | none => exact sparesSinks_finalizeAll r.passes r.world
    | some p => exact (sparesSinks_cleanUp r.world p).trans (sparesSinks_finalizeAll r.passes _)

end Router

end WaylandProxy
