/-
# Proofs.Pass.Following -- how a fuzz pass follows its connection

What a fuzz pass makes of a message is what its tracker makes of it, if the pass is for the
connection and block mode does not keep the message back, and nothing otherwise
(`Fuzz.follow`).  All that the message changes of the pass besides is that the question whether
the pass applies is settled, and the synthesizer (`Fuzz.handle_follows`).  Once that is settled a
handler has one equation (`Fuzz.handleEvent_eq`, `Fuzz.handleRequest_eq`).  An idle opportunity
changes the synthesizer and at most the last serial of the tracker (`Fuzz.inject_rests`).

Both carry over to a chain with one fuzz pass (`Router.route_follows`, `Router.idle_rests`).
There the map of objects sees what the fuzz pass left of the message, which is the same to it as
the message that came in (`Router.objects_route`).
-/
import WaylandProxy.Proofs.Input.Tick
import WaylandProxy.Proofs.Object.Observation
import WaylandProxy.Proofs.Pass.SoleFuzz

namespace WaylandProxy

set_option autoImplicit false

open Message (SameBut)

namespace Fuzz

variable {σ : Type}

/-- The pass is for the connection of this message; the first message decides. -/
def appliesTo (p : Fuzz σ) (m : Message) : Bool :=
  p.applies.getD (p.wants m.connection.program)

/-- Block mode keeps the message from the client. -/
def drops (p : Fuzz σ) (resolved : Option Resolved) (m : Message) : Bool :=
  p.appliesTo m && m.direction = .fromServer && p.keepsBack resolved

/-- What the tracker makes of a message, if it gets to see it. -/
def follow (p : Fuzz σ) (resolved : Option Resolved) (m : Message) (now : Nat) : Observed :=
  if p.appliesTo m && !p.drops resolved m then p.tracker.observe resolved m now
  else p.tracker.pass m

structure Followed (p : Fuzz σ) (resolved : Option Resolved) (m : Message) (now : Nat)
    (after : Fuzz σ) : Prop where
  tracker : after.tracker = (p.follow resolved m now).tracker
  options : after.options = p.options
  applies : after.applies = some (p.appliesTo m)

/-- The pass after an idle opportunity: the tracker may have issued one more serial. -/
structure Rested (p after : Fuzz σ) : Prop where
  tracker : after.tracker = p.tracker ∨ after.tracker = p.tracker.issue p.tracker.nextSerial
  options : after.options = p.options
  applies : after.applies = p.applies

/-! ## Messages -/

variable {p : Fuzz σ} {resolved : Option Resolved} {m : Message} {now : Nat}

theorem follow_inert (inert : p.appliesTo m = false) : p.follow resolved m now = p.tracker.pass m :=
  if_neg (by simp [inert])

theorem follow_dropped (dropped : p.drops resolved m = true) :
    p.follow resolved m now = p.tracker.pass m :=
  if_neg (by simp [dropped])

theorem follow_seen (applies : p.appliesTo m = true) (kept : p.drops resolved m = false) :
    p.follow resolved m now = p.tracker.observe resolved m now :=
  if_pos (by simp [applies, kept])

/-- Of a message that the pass sees at most the serial changes. -/
theorem follow_sameBut (p : Fuzz σ) (resolved : Option Resolved) (m : Message) (now : Nat) :
    SameBut (p.tracker.serialWord? resolved m) m (p.follow resolved m now).message := by
  unfold follow
  split
  · exact p.tracker.observe_sameBut resolved m now
  · exact .refl _ m

theorem decideApplies_eq (p : Fuzz σ) (m : Message) (w : World) :
    (p.decideApplies m w).1 = p.appliesTo m ∧
      (p.decideApplies m w).2.1 = { p with applies := some (p.appliesTo m) } := by
  unfold decideApplies appliesTo
  cases decided : p.applies with
  | none => exact ⟨rfl, rfl⟩
  | some applies =>
      refine ⟨rfl, ?_⟩
      cases p
      cases decided
      rfl

/-- What becomes of an event, once it is settled whether the pass is for its connection. -/
theorem handleEvent_eq (p : Fuzz σ) (ctx : Context) (t : Transit) :
    let settled : Fuzz σ := { p with applies := some (p.appliesTo t.message) }
    let told := { t with world := (p.decideApplies t.message t.world).2.2 }
    let noted := settled.noteConnection t.message.connection
    let resolved := ctx.objects.resolve t.message
    let seen := p.tracker.observeServer resolved t.message ctx.now
    p.handleEvent ctx t =
      if p.appliesTo t.message then
        if p.keepsBack resolved then ⟨noted, { told with skipped := true }, .proceed⟩
        else
          ⟨{ noted with tracker := seen.tracker },
            { told with message := seen.message, world := told.world.report seen.report }, .proceed⟩
      else ⟨settled, told, .proceed⟩ := by
  obtain ⟨decided, settled⟩ := p.decideApplies_eq t.message t.world
  unfold handleEvent
  generalize p.decideApplies t.message t.world = decision at decided settled
  obtain ⟨applies, p', w'⟩ := decision
  simp only at decided settled
  subst decided settled
  cases p.appliesTo t.message <;> rfl

/-- What becomes of a request, once it is settled whether the pass is for its connection. -/
theorem handleRequest_eq [EventSource σ] (p : Fuzz σ) (ctx : Context) (t : Transit) :
    let settled : Fuzz σ := { p with applies := some (p.appliesTo t.message) }
    let told := { t with world := (p.decideApplies t.message t.world).2.2 }
    let seen := p.tracker.observeClient (ctx.objects.resolve t.message) t.message
    let noted := ({ settled with tracker := seen.tracker } : Fuzz σ).noteConnection
      t.message.connection
    let ready := noted.checkReadiness ctx.now (told.world.report seen.report)
    p.handleRequest ctx t =
      if p.appliesTo t.message then
        ⟨ready.1, { told with message := seen.message, world := ready.2 }, .proceed⟩
      else ⟨settled, told, .proceed⟩ := by
  obtain ⟨decided, settled⟩ := p.decideApplies_eq t.message t.world
  unfold handleRequest
  generalize p.decideApplies t.message t.world = decision at decided settled
  obtain ⟨applies, p', w'⟩ := decision
  simp only at decided settled
  subst decided settled
  cases p.appliesTo t.message <;> rfl

theorem checkReadiness_eq [EventSource σ] (p : Fuzz σ) (now : Nat) (w : World) :
    ∃ synth, (p.checkReadiness now w).1 = { p with synth := synth } := by
  unfold checkReadiness
  cases p.synth with
  | none => exact ⟨p.synth, rfl⟩
  | some s => exact ⟨_, rfl⟩

/-- What a handler made of a message: the pass followed it, left it as the tracker did, and
skipped it if it is one to drop. -/
structure Follows (p : Fuzz σ) (ctx : Context) (t : Transit) (handled : Handled (Fuzz σ)) :
    Prop where
  followed : p.Followed (ctx.objects.resolve t.message) t.message ctx.now handled.pass
  message : handled.transit.message =
    (p.follow (ctx.objects.resolve t.message) t.message ctx.now).message
  skipped : handled.transit.skipped =
    (t.skipped || p.drops (ctx.objects.resolve t.message) t.message)

/-- An event of the server is skipped where it is kept back, and followed otherwise. -/
theorem handleEvent_follows (ctx : Context) (t : Transit) (p : Fuzz σ)
    (server : t.message.direction = .fromServer) : p.Follows ctx t (p.handleEvent ctx t) := by
  have dropped : p.drops (ctx.objects.resolve t.message) t.message =
      (p.appliesTo t.message && p.keepsBack (ctx.objects.resolve t.message)) := by
    simp [drops, server]
  rw [handleEvent_eq]
  cases applies : p.appliesTo t.message with
  | false =>
      rw [applies, Bool.false_and] at dropped
      have same : p.follow (ctx.objects.resolve t.message) t.message ctx.now =
        p.tracker.pass t.message := follow_inert applies
      exact ⟨⟨by rw [same]; rfl, rfl, by rw [applies]; rfl⟩, by rw [same]; rfl,
        by rw [dropped, Bool.or_false]; rfl⟩
  | true =>
      rw [applies, Bool.true_and] at dropped
      cases back : p.keepsBack (ctx.objects.resolve t.message) with
      | true =>
          have same : p.follow (ctx.objects.resolve t.message) t.message ctx.now =
            p.tracker.pass t.message := follow_dropped (dropped.trans back)
          exact ⟨⟨by rw [same]; rfl, rfl, by rw [applies]; rfl⟩, by rw [same]; rfl,
            by rw [dropped, back, Bool.or_true]; rfl⟩
      | false =>
          have same : p.follow (ctx.objects.resolve t.message) t.message ctx.now =
              p.tracker.observeServer (ctx.objects.resolve t.message) t.message ctx.now := by
            rw [follow_seen applies (dropped.trans back)]
            unfold Tracker.observe
            rw [server]
          exact ⟨⟨by rw [same]; rfl, rfl, by rw [applies]; rfl⟩, by rw [same]; rfl,
            by rw [dropped, back, Bool.or_false]; rfl⟩

theorem handleRequest_follows [EventSource σ] (ctx : Context) (t : Transit) (p : Fuzz σ)
    (client : t.message.direction = .fromClient) : p.Follows ctx t (p.handleRequest ctx t) := by
  have kept : p.drops (ctx.objects.resolve t.message) t.message = false := by
    simp [drops, client]
  rw [handleRequest_eq]
  cases applies : p.appliesTo t.message with
  | false =>
      have same : p.follow (ctx.objects.resolve t.message) t.message ctx.now =
        p.tracker.pass t.message := follow_inert applies
      exact ⟨⟨by rw [same]; rfl, rfl, by rw [applies]; rfl⟩, by rw [same]; rfl,
        by rw [kept, Bool.or_false]; rfl⟩
  | true =>
      have same : p.follow (ctx.objects.resolve t.message) t.message ctx.now =
          p.tracker.observeClient (ctx.objects.resolve t.message) t.message := by
        rw [follow_seen applies kept]
        unfold Tracker.observe
        rw [client]
      let seen := p.tracker.observeClient (ctx.objects.resolve t.message) t.message
      let told : Fuzz σ := { p with tracker := seen.tracker, applies := some true }
      obtain ⟨synth, ready⟩ := (told.noteConnection t.message.connection).checkReadiness_eq ctx.now
        ((p.decideApplies t.message t.world).2.2.report seen.report)
      have tracker := congrArg Fuzz.tracker ready
      have options := congrArg Fuzz.options ready
      have settled := congrArg Fuzz.applies ready
      simp only [if_true]
      refine ⟨⟨?_, options, ?_⟩, by rw [same], by rw [kept, Bool.or_false]⟩
      · rw [same]
        exact tracker
      · rw [applies]
        exact settled

/-- What a pass made of what it was shown it made of the message in transit. -/
theorem Follows.shown {p : Fuzz σ} {ctx : Context} {t : Transit} {handled : Handled (Fuzz σ)}
    (follows : p.Follows ctx { t with world := t.world.drained } handled) :
    p.Follows ctx t { handled with transit := t.after handled.transit } where
  followed := follows.followed
  message := by
    have same := p.follow_sameBut (ctx.objects.resolve t.message) t.message ctx.now
    obtain ⟨-, message, -⟩ := follows
    simp only [Transit.after, message]
    rw [← same.direction, ← same.connection]
  skipped := by
    have skipped := follows.skipped
    simp only [Transit.after, skipped]
    rw [← Bool.or_assoc, Bool.or_self]

/-- **What a message does to a fuzz pass.**  The pass follows it. -/
theorem handle_follows [EventSource σ] [LoadSource σ] (ctx : Context) (t : Transit)
    (p : Fuzz σ) : p.Follows ctx t (Pass.handle t.message.direction ctx t p) := by
  cases direction : t.message.direction with
  | fromServer =>
      exact (p.handleEvent_follows ctx { t with world := t.world.drained } direction).shown
  | fromClient =>
      exact (p.handleRequest_follows ctx { t with world := t.world.drained } direction).shown

/-! ## Idle opportunities -/

theorem settle_eq (p : Fuzz σ) (outcome : Except Fault (Option Gesture)) (w : World) :
    ∃ failures, (p.settle outcome w).1 = { p with writeFailures := failures } := by
  unfold settle
  split
  · exact ⟨0, rfl⟩
  · exact ⟨p.writeFailures + 1, rfl⟩
  · exact ⟨p.writeFailures, rfl⟩

/-- The synthesizer after an idle opportunity is as its tick left it. -/
theorem inject_synth [EventSource σ] (p : Fuzz σ) (now : Nat) (w : World) {s : Synthesizer σ}
    (synth : (p.checkReadiness now w).1.synth = some s) :
    (p.inject now w).1.synth =
      some (s.tick now (p.checkReadiness now w).1.tracker (p.checkReadiness now w).2).synth := by
  unfold inject
  generalize p.checkReadiness now w = checked at synth
  obtain ⟨p', w'⟩ := checked
  simp only at synth
  simp only [synth]
  obtain ⟨failures, settled⟩ := settle_eq
    { p' with
      synth := some (s.tick now p'.tracker w').synth
      tracker := (s.tick now p'.tracker w').tracker }
    (s.tick now p'.tracker w').outcome (s.tick now p'.tracker w').world
  rw [settled]

/-- A tick leaves the tracker as it is, or takes its next serial. -/
theorem tick_tracker [EventSource σ] (s : Synthesizer σ) (now : Nat) (t : Tracker) (w : World) :
    (s.tick now t w).tracker = t ∨ (s.tick now t w).tracker = t.issue t.nextSerial := by
  have ticked := s.tick_ticked now t w
  generalize s.tick now t w = done at ticked
  cases ticked with
  | fired connection active bound middle begun after cleared due event shown action rest built
      written left fault settled =>
      unfold Synthesizer.issueFor
      cases event.gesture.carriesSerial with
      | true => exact .inr rfl
      | false => exact .inl rfl
  | _ => exact .inl rfl

/-- **What an idle opportunity does to a fuzz pass.**  The tracker may have issued one more
serial; whether and how the pass follows its connection stays. -/
theorem inject_rests [EventSource σ] (now : Nat) (p : Fuzz σ) (w : World) :
    p.Rested (p.inject now w).1 := by
  obtain ⟨synth, ready⟩ := p.checkReadiness_eq now w
  unfold inject
  generalize p.checkReadiness now w = checked at ready
  obtain ⟨p', w'⟩ := checked
  simp only at ready
  subst ready
  cases synth with
  | none => exact ⟨.inl rfl, rfl, rfl⟩
  | some s =>
      let ticked := s.tick now p.tracker w'
      let done : Fuzz σ := { p with synth := some ticked.synth, tracker := ticked.tracker }
      obtain ⟨failures, settled⟩ := done.settle_eq ticked.outcome ticked.world
      have tracker : (done.settle ticked.outcome ticked.world).1.tracker = ticked.tracker :=
        congrArg Fuzz.tracker settled
      have options := congrArg Fuzz.options settled
      have applies := congrArg Fuzz.applies settled
      refine ⟨?_, options, applies⟩
      obtain same | issued := tick_tracker s now p.tracker w'
      · exact .inl (tracker.trans same)
      · exact .inr (tracker.trans issued)

end Fuzz

/-! ## The chain -/

namespace Router

variable {σ : Type} [EventSource σ] [LoadSource σ]

/-- **A message and the one fuzz pass of a chain.**  The pass follows the message, and what
comes out is what it left of it. -/
theorem route_follows {r : Router (StageOver σ)} {p : Fuzz σ} (sole : r.SoleFuzz p) (m : Message)
    (now : Nat) :
    ∃ after, (r.route m now).router.SoleFuzz after ∧
      p.Followed (r.objects.resolve m) m now after ∧
      (r.route m now).message = (p.follow (r.objects.resolve m) m now).message := by
  obtain ⟨shown, message, -, sole', left, -⟩ := route_sole sole m now
  have follows := p.handle_follows ⟨r.objects, now⟩ shown
  rw [message] at follows
  have followed := follows.followed
  have made := follows.message
  simp only [message] at followed made
  exact ⟨_, sole', followed, left.trans made⟩

/-- **The map of objects after a message.**  It is the one that the message itself, as it came
in, leads to. -/
theorem objects_route {r : Router (StageOver σ)} {p : Fuzz σ} (sole : r.SoleFuzz p) (m : Message)
    (now : Nat) : (r.route m now).router.objects = r.objects.observe m := by
  obtain ⟨after, -, -, left⟩ := route_follows sole m now
  have observed : (r.route m now).router.objects = r.objects.observe (r.route m now).message := rfl
  rw [observed, left]
  exact ObjectMap.observe_sameBut (p.follow_sameBut _ m now)
    fun index treated => Tracker.isSerial_of_serialWord? treated

/-- An idle opportunity is none for the map of objects. -/
theorem objects_idle (r : Router (StageOver σ)) (now : Nat) :
    (r.idle now).objects = r.objects := by
  unfold idle
  cases r.pinned <;> rfl

/-- **An idle opportunity and the one fuzz pass of a chain.** -/
theorem idle_rests {r : Router (StageOver σ)} {p : Fuzz σ} (sole : r.SoleFuzz p) (now : Nat) :
    ∃ after, (r.idle now).SoleFuzz after ∧ p.Rested after :=
  ⟨_, (idle_sole sole now).1, p.inject_rests now r.world.drained⟩

end Router

end WaylandProxy
