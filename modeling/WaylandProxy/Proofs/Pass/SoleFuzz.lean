/-
# Proofs.Pass.SoleFuzz -- one fuzz pass among passes that only look on

A trace pass shows a message and an interactive pass lets the operator hold it up or drop
it, but neither changes a word of it and neither writes to the client (`Untouched`); a trace
pass does not drop it either (`LetThrough`).  So in a chain with one fuzz pass, any trace
passes and perhaps an interactive one at the end (`Router.SoleFuzz`), a message and an idle
opportunity reach the fuzz pass as they came in, and what it leaves of the message is what
comes out (`route_sole`, `idle_sole`).
-/
import WaylandProxy.Pass.Router
import WaylandProxy.Pass.Stage
import WaylandProxy.Proofs.Traffic

namespace WaylandProxy

set_option autoImplicit false

/-- A built-in pass whose synthesized input comes from a source of any kind. -/
abbrev StageOver (σ : Type) := Trace ⊕ Fuzz σ ⊕ Interactive

namespace Transit

/-- The message and the traffic are as they were. -/
structure Untouched (before after : Transit) : Prop where
  message : after.message = before.message
  traffic : after.world.traffic = before.world.traffic

namespace Untouched

theorem refl (t : Transit) : Untouched t t :=
  ⟨rfl, rfl⟩

theorem trans {t middle after : Transit} (first : Untouched t middle)
    (second : Untouched middle after) : Untouched t after :=
  ⟨second.message.trans first.message, second.traffic.trans first.traffic⟩

/-- What a pass left untouched of what it was shown is untouched in the chain. -/
theorem shown {t after : Transit}
    (untouched : Untouched { t with world := t.world.drained } after) :
    Untouched t (t.after after) := by
  refine ⟨?_, ?_⟩
  · simp only [Transit.after, untouched.message]
  · simp only [Transit.after, World.traffic_after, untouched.traffic, World.traffic_drained,
      List.append_nil]

end Untouched

/-- Besides, nobody asked to skip the message. -/
structure LetThrough (before after : Transit) : Prop extends Untouched before after where
  skipped : after.skipped = before.skipped

namespace LetThrough

theorem refl (t : Transit) : LetThrough t t :=
  ⟨.refl t, rfl⟩

theorem trans {t middle after : Transit} (first : LetThrough t middle)
    (second : LetThrough middle after) : LetThrough t after :=
  ⟨first.toUntouched.trans second.toUntouched, second.skipped.trans first.skipped⟩

theorem shown {t after : Transit}
    (through : LetThrough { t with world := t.world.drained } after) :
    LetThrough t (t.after after) := by
  refine ⟨through.toUntouched.shown, ?_⟩
  simp only [Transit.after, through.skipped, Bool.or_self]

end LetThrough

end Transit

open Transit (LetThrough Untouched)

/-! ## Passes that only look on -/

theorem Screen.traffic_put (s : Screen) (line : String) (w : World) :
    (s.put line w).traffic = w.traffic := by
  unfold put
  cases s.fault with
  | none => exact w.traffic_tell _
  | some reason => exact w.traffic_log _ _ _ _

/-- A trace pass stays as it is and lets a message through. -/
theorem Trace.observe_letThrough (hidden : Bool) (ctx : Context) (t : Transit) (p : Trace) :
    ∃ after, observe hidden ctx t p = ⟨p, after, .proceed⟩ ∧ LetThrough t after := by
  unfold observe
  cases hidden with
  | true => exact ⟨t, rfl, .refl t⟩
  | false => exact ⟨_, rfl, ⟨rfl, p.screen.traffic_put _ _⟩, rfl⟩

namespace Command

theorem run_untouched (c : Command) (tally : Tally) (t : Transit) :
    Untouched t (c.run tally t).2 := by
  cases c with
  | info => exact ⟨rfl, t.world.traffic_tell _⟩
  | hex => exact ⟨rfl, t.world.traffic_tell _⟩
  | help => exact ⟨rfl, t.world.traffic_tell _⟩
  | _ => exact ⟨rfl, rfl⟩

theorem runLine_untouched (line : String) (tally : Tally) (t : Transit) :
    Untouched t (runLine line tally t).2 := by
  unfold runLine
  simp only
  split
  · exact .refl t
  · split
    · exact run_untouched _ tally t
    · exact .refl t

end Command

namespace Interactive

theorem answer_untouched (line : List UInt8) (tally : Tally) (t : Transit) :
    Untouched t (answer line tally t).2 := by
  unfold answer
  split
  · exact ⟨rfl, t.world.traffic_log _ _ _ _⟩
  · rename_i text decoded
    have ran := Command.runLine_untouched text tally t
    split
    · rename_i again left turn
      rw [turn] at ran
      exact ran
    · rename_i left turn
      rw [turn] at ran
      exact ran
    · rename_i left turn
      rw [turn] at ran
      exact ran.trans ⟨rfl, World.traffic_tell _ _⟩

theorem ask_untouched (t : Transit) : Untouched t (ask t) := by
  refine ⟨rfl, ?_⟩
  simp only [ask]
  split <;> simp

/-- The operator's turn leaves the message and the client alone. -/
theorem query_untouched (tally : Tally) :
    ∀ (lines : List (List UInt8)) (t : Transit), Untouched t (query tally lines t).2.2.2
  | [], t => by
      unfold query
      split
      · exact .refl t
      · exact ⟨rfl, (ask_untouched t).traffic⟩
  | line :: rest, t => by
      have answered := (ask_untouched t).trans (answer_untouched line tally (ask t))
      unfold query
      split
      · exact .refl t
      · split
        · rename_i again left turn
          rw [turn] at answered
          exact answered
        · rename_i left turn
          rw [turn] at answered
          exact answered.trans (query_untouched tally rest left)

/-- An interactive pass leaves the message and the client alone. -/
theorem process_untouched (ctx : Context) (t : Transit) (p : Interactive) :
    Untouched t (process ctx t p).transit := by
  unfold process
  simp only
  split
  · exact ⟨rfl, (p.screen.traffic_put _ _).trans t.world.traffic_takeBreak⟩
  · refine Untouched.trans ?_ (query_untouched _ _ _)
    refine ⟨rfl, ?_⟩
    simp [Screen.traffic_put]

end Interactive

/-! ## Passes of several kinds -/

namespace Pass

variable {σ τ : Type} [Pass σ] [Pass τ]

theorem handle_inl (direction : Direction) (ctx : Context) (t : Transit) (p : σ) :
    handle direction ctx t (.inl p : σ ⊕ τ) = (handle direction ctx t p).map .inl := by
  cases direction <;> rfl

theorem handle_inr (direction : Direction) (ctx : Context) (t : Transit) (p : τ) :
    handle direction ctx t (.inr p : σ ⊕ τ) = (handle direction ctx t p).map .inr := by
  cases direction <;> rfl

theorem rest_inl (now : Nat) (i : Idle) (p : σ) :
    rest now i (.inl p : σ ⊕ τ) = (rest now i p).map .inl id := rfl

theorem rest_inr (now : Nat) (i : Idle) (p : τ) :
    rest now i (.inr p : σ ⊕ τ) = (rest now i p).map .inr id := rfl

end Pass

/-- A trace pass lets a message through and stays as it is. -/
theorem Trace.handle_letThrough (direction : Direction) (ctx : Context) (t : Transit)
    (q : Trace) :
    ∃ after, Pass.handle direction ctx t q = ⟨q, after, .proceed⟩ ∧ LetThrough t after := by
  cases direction with
  | fromServer =>
      obtain ⟨after, observed, through⟩ :=
        observe_letThrough q.onlyClient ctx { t with world := t.world.drained } q
      refine ⟨t.after after, ?_, through.shown⟩
      let seen := observe q.onlyClient ctx { t with world := t.world.drained } q
      show ({ seen with transit := t.after seen.transit } : Handled Trace) = _
      rw [show seen = _ from observed]
  | fromClient =>
      obtain ⟨after, observed, through⟩ :=
        observe_letThrough q.onlyServer ctx { t with world := t.world.drained } q
      refine ⟨t.after after, ?_, through.shown⟩
      let seen := observe q.onlyServer ctx { t with world := t.world.drained } q
      show ({ seen with transit := t.after seen.transit } : Handled Trace) = _
      rw [show seen = _ from observed]

theorem Trace.rest_eq (now : Nat) (i : Idle) (q : Trace) : Pass.rest now i q = (q, i) := by
  show (q, (⟨i.exit || i.exit, i.world.after i.world.drained⟩ : Idle)) = (q, i)
  rw [Bool.or_self, World.after_drained]

theorem Interactive.rest_eq (now : Nat) (i : Idle) (q : Interactive) :
    Pass.rest now i q = (q, i) := by
  show (q, (⟨i.exit || i.exit, i.world.after i.world.drained⟩ : Idle)) = (q, i)
  rw [Bool.or_self, World.after_drained]

theorem Interactive.handle_untouched (direction : Direction) (ctx : Context) (t : Transit)
    (q : Interactive) : Untouched t (Pass.handle direction ctx t q).transit := by
  have processed := process_untouched ctx { t with world := t.world.drained } q
  cases direction <;> exact processed.shown

/-- A fuzz pass never stops the chain. -/
theorem Fuzz.handle_proceeds {σ : Type} [EventSource σ] [LoadSource σ] (direction : Direction)
    (ctx : Context) (t : Transit) (p : Fuzz σ) :
    (Pass.handle direction ctx t p).verdict = .proceed := by
  cases direction with
  | fromServer =>
      show (p.handleEvent ctx { t with world := t.world.drained }).verdict = .proceed
      simp only [handleEvent]
      split
      · rfl
      · split <;> rfl
  | fromClient =>
      show (p.handleRequest ctx { t with world := t.world.drained }).verdict = .proceed
      simp only [handleRequest]
      split <;> rfl

/-! ## The chain -/

namespace Router

variable {σ : Type}

def fuzz? (r : Router (StageOver σ)) : Option (Fuzz σ) :=
  r.passes.findSome? fun
    | .inr (.inl p) => some p
    | _ => none

/-- The passes of a chain with one fuzz pass, but for the pinned one. -/
def around (before after : List Trace) (p : Fuzz σ) : List (StageOver σ) :=
  before.map .inl ++ .inr (.inl p) :: after.map .inl

/-- The chain has one fuzz pass, any trace passes, and perhaps an interactive pass at the
end. -/
def SoleFuzz (r : Router (StageOver σ)) (p : Fuzz σ) : Prop :=
  ∃ (before after : List Trace) (last : Option Interactive),
    r.passes = around before after p ∧
      r.pinned = last.map fun q => .inr (.inr q)

theorem SoleFuzz.fuzz?_eq {r : Router (StageOver σ)} {p : Fuzz σ} (sole : r.SoleFuzz p) :
    r.fuzz? = some p := by
  obtain ⟨before, after, last, passes, -⟩ := sole
  unfold fuzz?
  rw [passes, around, List.findSome?_append]
  have none : (before.map Sum.inl : List (StageOver σ)).findSome?
      (fun | .inr (.inl p) => some p | _ => none) = none := by
    rw [List.findSome?_eq_none_iff]
    intro stage member
    obtain ⟨q, -, rfl⟩ := List.mem_map.1 member
    rfl
  rw [none]
  rfl

variable [EventSource σ] [LoadSource σ]

theorem through_traces (direction : Direction) (ctx : Context) (rest : List (StageOver σ)) :
    ∀ (traces : List Trace) (t : Transit), ∃ shown, LetThrough t shown ∧
      through direction ctx (traces.map .inl ++ rest) t =
        (traces.map .inl ++ (through direction ctx rest shown).1,
          (through direction ctx rest shown).2)
  | [], t => ⟨t, .refl t, rfl⟩
  | q :: traces, t => by
      obtain ⟨after, handled, first⟩ := q.handle_letThrough direction ctx t
      obtain ⟨shown, further, later⟩ := through_traces direction ctx rest traces after
      refine ⟨shown, first.trans further, ?_⟩
      simp only [List.map_cons, List.cons_append, through, Pass.handle_inl, handled, Handled.map,
        later]

/-- Through the passes of a chain with one fuzz pass, only that one has a say. -/
theorem through_sole (direction : Direction) (ctx : Context) (before after : List Trace)
    (p : Fuzz σ) (t : Transit) : ∃ shown done, LetThrough t shown ∧
      LetThrough (Pass.handle direction ctx shown p).transit done ∧
      through direction ctx (around before after p) t =
        (around before after (Pass.handle direction ctx shown p).pass, done, .proceed) := by
  obtain ⟨shown, came, first⟩ :=
    through_traces direction ctx (.inr (.inl p) :: after.map .inl : List (StageOver σ)) before t
  obtain ⟨done, went, second⟩ :=
    through_traces direction ctx ([] : List (StageOver σ)) after
      (Pass.handle direction ctx shown p).transit
  refine ⟨shown, done, came, went, ?_⟩
  rw [List.append_nil] at second
  unfold around
  rw [first]
  simp only [through, Pass.handle_inr, Pass.handle_inl, Handled.map, Fuzz.handle_proceeds, second,
    List.append_nil]

/-- At the end of the chain an interactive pass may look on. -/
theorem throughPinned_untouched (direction : Direction) (ctx : Context) (last : Option Interactive)
    (t : Transit) : ∃ (last' : Option Interactive) (done : Transit), Untouched t done ∧
      throughPinned direction ctx .proceed
          (last.map fun q => (.inr (.inr q) : StageOver σ)) t =
        (last'.map fun q => .inr (.inr q), done) := by
  cases last with
  | none => exact ⟨none, t, .refl t, rfl⟩
  | some q =>
      refine ⟨some (Pass.handle direction ctx t q).pass, _, q.handle_untouched direction ctx t, ?_⟩
      simp only [Option.map_some, throughPinned, Pass.handle_inr, Handled.map]

/-- **A message meets the fuzz pass alone.**  The pass is shown the message that came in, what
it leaves of the message comes out, and the traffic is what it makes it. -/
theorem route_sole {r : Router (StageOver σ)} {p : Fuzz σ} (sole : r.SoleFuzz p) (m : Message)
    (now : Nat) :
    ∃ shown : Transit, shown.message = m ∧ shown.world.traffic = r.world.traffic ∧
      let handled := Pass.handle m.direction ⟨r.objects, now⟩ shown p
      (r.route m now).router.SoleFuzz handled.pass ∧
        (r.route m now).message = handled.transit.message ∧
        (r.route m now).router.world.traffic = handled.transit.world.traffic := by
  obtain ⟨before, after, last, passes, pinned⟩ := sole
  obtain ⟨shown, middle, came, went, chain⟩ :=
    through_sole m.direction ⟨r.objects, now⟩ before after p ⟨m, false, r.exit, r.world⟩
  obtain ⟨last', done, looked, ending⟩ :=
    throughPinned_untouched (σ := σ) m.direction ⟨r.objects, now⟩ last middle
  have final := went.toUntouched.trans looked
  refine ⟨shown, came.message, came.traffic, ?_⟩
  unfold route
  simp only [passes, pinned, chain, ending]
  exact ⟨⟨before, after, last', rfl, rfl⟩, final.message, final.traffic⟩

/-- Trace passes have no use for an idle opportunity. -/
theorem idleAll_traces (now : Nat) (rest : List (StageOver σ)) :
    ∀ (traces : List Trace) (i : Idle),
      idleAll now (traces.map .inl ++ rest) i =
        (traces.map .inl ++ (idleAll now rest i).1, (idleAll now rest i).2)
  | [], i => rfl
  | q :: traces, i => by
      have later := idleAll_traces now rest traces i
      simp only [List.map_cons, List.cons_append, idleAll, Pass.rest_inl, q.rest_eq, Prod.map_apply,
        id, later]

/-- Of the passes of a chain with one fuzz pass, only that one uses an idle opportunity. -/
theorem idleAll_sole (now : Nat) (before after : List Trace) (p : Fuzz σ) (i : Idle) :
    let injected := p.inject now i.world.drained
    idleAll now (around before after p) i =
      (around before after injected.1, ⟨i.exit || i.exit, i.world.after injected.2⟩) := by
  intro injected
  have first := idleAll_traces now (.inr (.inl p) :: after.map .inl : List (StageOver σ)) before i
  have second := idleAll_traces now ([] : List (StageOver σ)) after
    ⟨i.exit || i.exit, i.world.after injected.2⟩
  simp only [List.append_nil, idleAll] at second
  have fuzzed : Pass.rest now i p =
      (injected.1, ⟨i.exit || i.exit, i.world.after injected.2⟩) := rfl
  unfold around
  rw [first]
  simp only [idleAll, Pass.rest_inr, Pass.rest_inl, fuzzed, Prod.map_apply, id, second]

/-- **An idle opportunity meets the fuzz pass alone.** -/
theorem idle_sole {r : Router (StageOver σ)} {p : Fuzz σ} (sole : r.SoleFuzz p) (now : Nat) :
    let injected := p.inject now r.world.drained
    (r.idle now).SoleFuzz injected.1 ∧ (r.idle now).world = r.world.after injected.2 := by
  obtain ⟨before, after, last, passes, pinned⟩ := sole
  intro injected
  unfold idle
  rw [passes, idleAll_sole, pinned]
  cases last with
  | none => exact ⟨⟨before, after, none, rfl, rfl⟩, rfl⟩
  | some q =>
      simp only [Option.map_some, Pass.rest_inr, q.rest_eq, Prod.map_apply, id]
      exact ⟨⟨before, after, some q, rfl, rfl⟩, rfl⟩

end Router

end WaylandProxy
