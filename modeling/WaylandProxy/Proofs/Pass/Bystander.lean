/-
# Proofs.Pass.Bystander -- passes that leave a connection alone

A bystander to the connections of a program lets their messages go by as they are: it changes no
word, holds none back, stops none, does not ask for the end, and has no use for an idle
opportunity.  It may talk to the operator.  `Bystanders` says so of the states of a pass that it
can come to, so a chain of bystanders stays one (`route_bystanders`, `idle_bystanders`).

Every trace pass is a bystander.  A fuzz pass that waits for another program is one too: it
decides at its first message that it does not apply, and until then the client is not ready.  All
that a message shows of it is one line of the log, for the first one (`Fuzz.handle_inapplicable`).
-/
import WaylandProxy.Proofs.Pass.Following

namespace WaylandProxy

set_option autoImplicit false

/-- The message goes on as it was, and nobody asked for anything. -/
structure Transit.Unhindered (before after : Transit) : Prop where
  message : after.message = before.message
  skipped : after.skipped = before.skipped
  exit : after.exit = before.exit

namespace Transit.Unhindered

theorem refl (t : Transit) : Unhindered t t :=
  ⟨rfl, rfl, rfl⟩

theorem trans {t middle after : Transit} (first : Unhindered t middle)
    (second : Unhindered middle after) : Unhindered t after :=
  ⟨second.message.trans first.message, second.skipped.trans first.skipped,
    second.exit.trans first.exit⟩

/-- What a pass let by of what it was shown it let by in the chain. -/
theorem shown {t after : Transit}
    (unhindered : Unhindered { t with world := t.world.drained } after) :
    Unhindered t (t.after after) where
  message := by simp only [Transit.after, unhindered.message]
  skipped := by simp only [Transit.after, unhindered.skipped, Bool.or_self]
  exit := by simp only [Transit.after, unhindered.exit, Bool.or_self]

end Transit.Unhindered

/-- Passes in these states leave the messages of a program's connections alone, make no use of an
idle opportunity, and stay in these states. -/
structure Bystanders {σ : Type} [Pass σ] (program : Option String) (among : σ → Prop) : Prop where
  handle {p : σ} (is : among p) (direction : Direction) (ctx : Context) {t : Transit}
    (same : t.message.connection.program = program) :
    t.Unhindered (Pass.handle direction ctx t p).transit ∧
      (Pass.handle direction ctx t p).verdict = .proceed ∧
      among (Pass.handle direction ctx t p).pass
  rest {p : σ} (is : among p) (now : Nat) (i : Idle) :
    (Pass.rest now i p).2 = i ∧ among (Pass.rest now i p).1

/-! ## A chain of bystanders -/

namespace Router

variable {σ : Type} [Pass σ] {program : Option String} {among : σ → Prop}

/-- All passes are in these states, and none is at the end. -/
structure Only (among : σ → Prop) (r : Router σ) : Prop where
  passes : ∀ p ∈ r.passes, among p
  pinned : r.pinned = none

theorem through_bystanders (bystanders : Bystanders program among) (direction : Direction)
    (ctx : Context) : ∀ (passes : List σ) (t : Transit), (∀ p ∈ passes, among p) →
      t.message.connection.program = program →
      t.Unhindered (through direction ctx passes t).2.1 ∧
        ∀ p ∈ (through direction ctx passes t).1, among p
  | [], t, _, _ => ⟨.refl t, nofun⟩
  | p :: rest, t, are, same => by
      obtain ⟨is, others⟩ := List.forall_mem_cons.1 are
      obtain ⟨here, proceeds, stays⟩ := bystanders.handle is direction ctx same
      obtain ⟨later, stay⟩ := through_bystanders bystanders direction ctx rest
        (Pass.handle direction ctx t p).transit others (by rw [here.message, same])
      unfold through
      simp only [proceeds]
      exact ⟨here.trans later, List.forall_mem_cons.2 ⟨stays, stay⟩⟩

/-- **A message goes by a chain of bystanders as it is.** -/
theorem route_bystanders (bystanders : Bystanders program among) {r : Router σ}
    (only : r.Only among) {m : Message} (same : m.connection.program = program) (now : Nat) :
    (r.route m now).message = m ∧ (r.route m now).forward = true ∧
      (r.route m now).router.exit = r.exit ∧ (r.route m now).router.Only among := by
  obtain ⟨unhindered, stay⟩ := through_bystanders bystanders m.direction ⟨r.objects, now⟩ r.passes
    ⟨m, false, r.exit, r.world⟩ only.passes same
  have last (verdict : Verdict) (t : Transit) :
      throughPinned m.direction ⟨r.objects, now⟩ verdict (none : Option σ) t = (none, t) := by
    cases verdict <;> rfl
  unfold route
  simp only [only.pinned, last]
  exact ⟨unhindered.message, by rw [unhindered.skipped]; rfl, unhindered.exit, stay, rfl⟩

theorem idleAll_bystanders (bystanders : Bystanders program among) (now : Nat) :
    ∀ (passes : List σ) (i : Idle), (∀ p ∈ passes, among p) →
      (idleAll now passes i).2 = i ∧ ∀ p ∈ (idleAll now passes i).1, among p
  | [], i, _ => ⟨rfl, nofun⟩
  | p :: rest, i, are => by
      obtain ⟨is, others⟩ := List.forall_mem_cons.1 are
      obtain ⟨here, stays⟩ := bystanders.rest is now i
      obtain ⟨later, stay⟩ := idleAll_bystanders bystanders now rest i others
      unfold idleAll
      simp only [here]
      exact ⟨later, List.forall_mem_cons.2 ⟨stays, stay⟩⟩

/-- **An idle opportunity passes a chain of bystanders without a trace.** -/
theorem idle_bystanders (bystanders : Bystanders program among) {r : Router σ}
    (only : r.Only among) (now : Nat) :
    (r.idle now).world = r.world ∧ (r.idle now).exit = r.exit ∧ (r.idle now).Only among := by
  obtain ⟨same, stay⟩ := idleAll_bystanders bystanders now r.passes ⟨r.exit, r.world⟩ only.passes
  unfold idle
  simp only [only.pinned, same]
  exact ⟨trivial, trivial, stay, rfl⟩

end Router

/-! ## Trace passes -/

theorem Trace.observe_unhindered (hidden : Bool) (ctx : Context) (t : Transit) (p : Trace) :
    t.Unhindered (observe hidden ctx t p).transit ∧
      (observe hidden ctx t p).verdict = .proceed := by
  unfold observe
  split
  · exact ⟨.refl t, rfl⟩
  · exact ⟨⟨rfl, rfl, rfl⟩, rfl⟩

theorem Trace.handle_unhindered (direction : Direction) (ctx : Context) (t : Transit)
    (p : Trace) :
    t.Unhindered (Pass.handle direction ctx t p).transit ∧
      (Pass.handle direction ctx t p).verdict = .proceed := by
  cases direction with
  | fromServer =>
      obtain ⟨unhindered, proceeds⟩ :=
        p.observe_unhindered p.onlyClient ctx { t with world := t.world.drained }
      exact ⟨unhindered.shown, proceeds⟩
  | fromClient =>
      obtain ⟨unhindered, proceeds⟩ :=
        p.observe_unhindered p.onlyServer ctx { t with world := t.world.drained }
      exact ⟨unhindered.shown, proceeds⟩

/-! ## Fuzz passes for other programs -/

namespace Fuzz

variable {σ : Type} {program : Option String} {p : Fuzz σ}

/-- The pass is not for the connections of the program, and it does not write. -/
structure Inert (program : Option String) (p : Fuzz σ) : Prop where
  refuses : p.wants program = false
  undecided : p.applies ≠ some true
  still : ∀ s ∈ p.synth, s.phase = .waiting ∧ s.isReady p.tracker = false

/-- A pass that waits for another program is inert until it has seen a message, and after it. -/
theorem inert_arm (made : Nat) {options : Options} (source : σ) {wanted : String}
    (filter : options.program = some wanted) (other : program ≠ some wanted) :
    ((create made).arm options source).Inert program where
  refuses := by
    unfold wants
    simp only [arm, Option.bind_some, filter]
    exact decide_eq_false other
  undecided := nofun
  still := by
    rintro s ⟨⟩
    exact ⟨rfl, rfl⟩

/-- What the log says of a pass that stays inert, by the first message that it got. -/
def inertNote (m : Message) : Note :=
  .logged ⟨.info, .fuzz, "connection does not match program filter, fuzz pass inert",
    [("connection", .plain (toString m.connection.id)),
      ("program", programField m.connection.program)]⟩

theorem Inert.inapplicable (inert : p.Inert program) {m : Message}
    (same : m.connection.program = program) : p.appliesTo m = false := by
  unfold appliesTo
  rw [same, inert.refuses]
  cases applies : p.applies with
  | none => rfl
  | some applied =>
      cases applied with
      | false => rfl
      | true => exact absurd applies inert.undecided

variable [EventSource σ] [LoadSource σ]

/-- **A message that a pass is not for goes by**; if it is the first one, the log says so. -/
theorem handle_inapplicable {t : Transit} (inapplicable : p.appliesTo t.message = false)
    (direction : Direction) (ctx : Context) :
    Pass.handle direction ctx t p =
      ⟨{ p with applies := some false },
        { t with
          world := if p.applies = none then t.world.note (inertNote t.message) else t.world },
        .proceed⟩ := by
  have left : t.world.after (p.decideApplies t.message t.world.drained).2.2 =
      if p.applies = none then t.world.note (inertNote t.message) else t.world := by
    unfold appliesTo at inapplicable
    unfold decideApplies
    cases applies : p.applies with
    | none =>
        rw [applies] at inapplicable
        have refuses : p.wants t.message.connection.program = false := inapplicable
        simp only [refuses, Bool.false_eq_true, if_false, if_true]
        rfl
    | some decision => rfl
  unfold Pass.handle
  cases direction with
  | fromServer =>
      simp only [Pass.onEvent, handleEvent_eq, inapplicable, Bool.false_eq_true, if_false,
        Transit.after, left, Bool.or_self]
  | fromClient =>
      simp only [Pass.onRequest, handleRequest_eq, inapplicable, Bool.false_eq_true, if_false,
        Transit.after, left, Bool.or_self]

/-- An inert pass lets a message by and stays inert. -/
theorem Inert.handle (inert : p.Inert program) (direction : Direction) (ctx : Context)
    {t : Transit} (same : t.message.connection.program = program) :
    t.Unhindered (Pass.handle direction ctx t p).transit ∧
      (Pass.handle direction ctx t p).verdict = .proceed ∧
      (Pass.handle direction ctx t p).pass.Inert program := by
  rw [handle_inapplicable (inert.inapplicable same)]
  exact ⟨⟨rfl, rfl, rfl⟩, rfl, inert.refuses, nofun, inert.still⟩

omit [LoadSource σ] in
/-- An inert pass has no use for an idle opportunity. -/
theorem Inert.inject (inert : p.Inert program) (now : Nat) (w : World) :
    ∃ after, p.inject now w = (after, w) ∧ after.Inert program := by
  unfold Fuzz.inject checkReadiness
  cases synth : p.synth with
  | none =>
      refine ⟨p, ?_, inert⟩
      simp only [synth]
  | some s =>
      obtain ⟨waiting, unready⟩ := inert.still s synth
      have asleep : s.checkReadiness p.tracker now w = (s, w) := by
        unfold Synthesizer.checkReadiness
        exact if_neg fun ready => Bool.false_ne_true (unready.symm.trans ready.2)
      have silent : s.tick now p.tracker w = ⟨s, p.tracker, w, .ok none⟩ := by
        unfold Synthesizer.tick
        exact if_pos (by rw [waiting]; decide)
      refine ⟨{ p with synth := some s, writeFailures := 0 }, ?_,
        inert.refuses, inert.undecided, ?_⟩
      · simp only [asleep, silent]
        rfl
      · rintro s' ⟨⟩
        exact ⟨waiting, unready⟩

end Fuzz

/-! ## The built-in passes -/

namespace StageOver

variable {σ : Type} {program : Option String}

/-- A trace pass, or a fuzz pass set up for another program. -/
inductive Unintrusive (program : Option String) : StageOver σ → Prop where
  | trace (p : Trace) : Unintrusive program (.inl p)
  | fuzz (made : Nat) {options : Options} (source : σ) {wanted : String}
    (filter : options.program = some wanted) (other : program ≠ some wanted) :
    Unintrusive program (.inr (.inl ((Fuzz.create made).arm options source)))

/-- A trace pass, or a fuzz pass that is inert. -/
def Bystander (program : Option String) : StageOver σ → Prop
  | .inl _ => True
  | .inr (.inl p) => p.Inert program
  | .inr (.inr _) => False

theorem Unintrusive.bystander {p : StageOver σ} (unintrusive : Unintrusive program p) :
    Bystander program p := by
  cases unintrusive with
  | trace p => trivial
  | fuzz made source filter other => exact Fuzz.inert_arm made source filter other

/-- Trace passes and inert fuzz passes are bystanders. -/
theorem bystanders [EventSource σ] [LoadSource σ] :
    Bystanders program (Bystander program : StageOver σ → Prop) where
  handle := by
    rintro (q | p | q) is direction ctx t same
    · obtain ⟨unhindered, proceeds⟩ := q.handle_unhindered direction ctx t
      rw [Pass.handle_inl]
      exact ⟨unhindered, proceeds, trivial⟩
    · obtain ⟨unhindered, proceeds, stays⟩ := is.handle direction ctx same
      rw [Pass.handle_inr, Pass.handle_inl]
      exact ⟨unhindered, proceeds, stays⟩
    · cases is
  rest := by
    rintro (q | p | q) is now i
    · rw [Pass.rest_inl, q.rest_eq]
      exact ⟨rfl, trivial⟩
    · obtain ⟨after, injected, stays⟩ := Fuzz.Inert.inject is now i.world.drained
      have rested : Pass.rest now i p = (after, i) := by
        show ((p.inject now i.world.drained).1,
          (⟨i.exit || i.exit, i.world.after (p.inject now i.world.drained).2⟩ : Idle)) = _
        rw [injected, Bool.or_self, World.after_drained]
      rw [Pass.rest_inr, Pass.rest_inl, rested]
      exact ⟨rfl, stays⟩
    · cases is

end StageOver

end WaylandProxy
