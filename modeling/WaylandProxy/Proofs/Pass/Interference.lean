/-
# Proofs.Pass.Interference -- what is injected does not disturb what is genuine

Two fuzz passes run in parallel if they know the same of the genuine traffic, apply alike and
keep back alike (`Fuzz.Parallel`); their serials, their sources and what they have written may
differ in any way.  A message that both follow leaves them in parallel and comes out of both the
same, but for the word that both treat as a serial.  An idle opportunity of either one changes
nothing that the relation speaks of.

So two chains that are sent the same messages stay in parallel, however idle opportunities are
strewn between them and whatever becomes of the writes (`Router.Parallel.run`).
-/
import WaylandProxy.Proofs.Pass.SerialWord
import WaylandProxy.Proofs.Serial.Genuine

namespace WaylandProxy

set_option autoImplicit false

open Message (SameBut)

namespace Fuzz

variable {σ τ : Type}

/-- Whether a pass blocks is said by its options. -/
theorem blocks_of_options {p after : Fuzz σ} (same : after.options = p.options) :
    after.blocks = p.blocks :=
  congrArg (fun options => (options.map Options.block).getD false) same

/-- The passes know the same of the genuine traffic, and apply and keep back alike. -/
structure Parallel (p : Fuzz σ) (q : Fuzz τ) : Prop where
  tracker : q.tracker.genuine = p.tracker.genuine
  applies : q.applies = p.applies
  blocks : q.blocks = p.blocks
  program : q.options.bind Options.program = p.options.bind Options.program

namespace Parallel

variable {p : Fuzz σ} {q : Fuzz τ}

theorem symm (parallel : p.Parallel q) : q.Parallel p :=
  ⟨parallel.tracker.symm, parallel.applies.symm, parallel.blocks.symm, parallel.program.symm⟩

theorem appliesTo_eq (parallel : p.Parallel q) (m : Message) : q.appliesTo m = p.appliesTo m := by
  unfold appliesTo wants
  rw [parallel.applies, parallel.program]

theorem drops_eq (parallel : p.Parallel q) (resolved : Option Resolved) (m : Message) :
    q.drops resolved m = p.drops resolved m := by
  unfold drops keepsBack
  rw [parallel.appliesTo_eq m, parallel.blocks]

theorem serialWord?_eq (parallel : p.Parallel q) (resolved : Option Resolved) (m : Message) :
    q.tracker.serialWord? resolved m = p.tracker.serialWord? resolved m := by
  rw [← q.tracker.serialWord?_genuine, ← p.tracker.serialWord?_genuine, parallel.tracker]

theorem follow_genuine (parallel : p.Parallel q) (resolved : Option Resolved) (m : Message)
    (now : Nat) :
    (q.follow resolved m now).tracker.genuine = (p.follow resolved m now).tracker.genuine := by
  unfold follow
  rw [parallel.appliesTo_eq m, parallel.drops_eq resolved m]
  split
  · rw [← q.tracker.observe_genuine, ← p.tracker.observe_genuine, parallel.tracker]
  · exact parallel.tracker

/-- Of a message that both follow, both leave the same but for the serial. -/
theorem follow_message (parallel : p.Parallel q) (resolved : Option Resolved) (m : Message)
    (now : Nat) :
    SameBut (p.tracker.serialWord? resolved m) (p.follow resolved m now).message
      (q.follow resolved m now).message := by
  have left := p.follow_sameBut resolved m now
  have right := q.follow_sameBut resolved m now
  rw [parallel.serialWord?_eq resolved m] at right
  exact left.symm.trans right

theorem followed (parallel : p.Parallel q) {resolved : Option Resolved} {m : Message} {now : Nat}
    {p' : Fuzz σ} {q' : Fuzz τ} (left : p.Followed resolved m now p')
    (right : q.Followed resolved m now q') : p'.Parallel q' where
  tracker := by
    rw [left.tracker, right.tracker]
    exact parallel.follow_genuine resolved m now
  applies := by rw [left.applies, right.applies, parallel.appliesTo_eq m]
  blocks := by
    rw [blocks_of_options left.options, blocks_of_options right.options, parallel.blocks]
  program := by rw [left.options, right.options, parallel.program]

/-- An idle opportunity of one of them keeps passes in parallel. -/
theorem rested (parallel : p.Parallel q) {p' : Fuzz σ} (rested : p.Rested p') :
    p'.Parallel q where
  tracker := by
    obtain same | issued := rested.tracker
    · rw [same]
      exact parallel.tracker
    · rw [issued, Tracker.genuine_issue]
      exact parallel.tracker
  applies := by rw [rested.applies, parallel.applies]
  blocks := by rw [blocks_of_options rested.options, parallel.blocks]
  program := by rw [rested.options, parallel.program]

end Parallel

/-- Passes made at the same moment, of which both block or neither does and both wait for the
same program, are in parallel. -/
theorem parallel_arm (made : Nat) {options options' : Options} (source : σ) (source' : τ)
    (block : options'.block = options.block) (program : options'.program = options.program) :
    ((create made).arm options source).Parallel ((create made).arm options' source') :=
  ⟨rfl, rfl, block, program⟩

end Fuzz

namespace Router

variable {σ τ : Type}

/-- The chains have one fuzz pass each and nothing at the end, the passes are in parallel, and
the objects are the same. -/
structure Parallel (a : Router (StageOver σ)) (b : Router (StageOver τ)) : Prop where
  objects : b.objects = a.objects
  left : a.pinned = none
  right : b.pinned = none
  passes : ∃ p q, a.SoleFuzz p ∧ b.SoleFuzz q ∧ p.Parallel q

theorem Parallel.symm {a : Router (StageOver σ)} {b : Router (StageOver τ)}
    (parallel : a.Parallel b) : b.Parallel a := by
  obtain ⟨objects, left, right, p, q, soleA, soleB, passes⟩ := parallel
  exact ⟨objects.symm, right, left, q, p, soleB, soleA, passes.symm⟩

/-! ## A chain that nobody can hold up -/

variable [EventSource σ] [LoadSource σ]

theorem throughPinned_none (direction : Direction) (ctx : Context) (verdict : Verdict)
    (t : Transit) :
    throughPinned direction ctx verdict (none : Option (StageOver σ)) t = (none, t) := by
  cases verdict <;> rfl

theorem pinned_route {r : Router (StageOver σ)} (unpinned : r.pinned = none) (m : Message)
    (now : Nat) : (r.route m now).router.pinned = none := by
  unfold route
  simp only [unpinned, throughPinned_none]

theorem pinned_idle {r : Router (StageOver σ)} (unpinned : r.pinned = none) (now : Nat) :
    (r.idle now).pinned = none := by
  unfold idle
  rw [unpinned]

/-- Where no interactive pass is at the end, a message is forwarded unless the fuzz pass drops
it. -/
theorem forward_route {r : Router (StageOver σ)} {p : Fuzz σ} (sole : r.SoleFuzz p)
    (unpinned : r.pinned = none) (m : Message) (now : Nat) :
    (r.route m now).forward = !p.drops (r.objects.resolve m) m := by
  obtain ⟨before, after, last, passes, -⟩ := sole
  obtain ⟨shown, done, came, went, chain⟩ :=
    through_sole m.direction ⟨r.objects, now⟩ before after p ⟨m, false, r.exit, r.world⟩
  have message : shown.message = m := came.message
  have follows := p.handle_follows ⟨r.objects, now⟩ shown
  rw [message] at follows
  have skipped := follows.skipped
  rw [came.skipped, message, Bool.false_or] at skipped
  unfold route
  simp only [passes, chain, unpinned, throughPinned_none]
  rw [went.skipped, skipped]

/-! ## Two chains -/

namespace Parallel

variable {a : Router (StageOver σ)} {b : Router (StageOver τ)}

/-- An idle opportunity of one of them keeps chains in parallel. -/
theorem idle (parallel : a.Parallel b) (now : Nat) : (a.idle now).Parallel b := by
  obtain ⟨objects, left, right, p, q, soleA, soleB, passes⟩ := parallel
  obtain ⟨p', soleA', rested⟩ := idle_rests soleA now
  exact ⟨objects.trans (objects_idle a now).symm, pinned_idle left now, right, p', q, soleA', soleB,
    passes.rested rested⟩

variable [EventSource τ] [LoadSource τ]

theorem route (parallel : a.Parallel b) (m : Message) (now : Nat) :
    (a.route m now).router.Parallel (b.route m now).router := by
  obtain ⟨objects, left, right, p, q, soleA, soleB, passes⟩ := parallel
  obtain ⟨p', soleA', followedA, -⟩ := route_follows soleA m now
  obtain ⟨q', soleB', followedB, -⟩ := route_follows soleB m now
  rw [objects] at followedB
  refine ⟨?_, pinned_route left m now, pinned_route right m now, p', q', soleA', soleB',
    passes.followed followedA followedB⟩
  rw [objects_route soleA, objects_route soleB, objects]

/-- **The same messages keep chains in parallel**, whatever idle opportunities come between
them. -/
theorem run {a : Router (StageOver σ)} {b : Router (StageOver τ)} (parallel : a.Parallel b) :
    ∀ (moves moves' : List Move), routed moves' = routed moves →
      ((machine σ).run a moves).Parallel ((machine τ).run b moves')
  | .idle now :: rest, moves', same => (parallel.idle now).run rest moves' same
  | moves, .idle now :: rest, same => (parallel.symm.idle now).symm.run moves rest same
  | [], [], _ => parallel
  | .route m now :: rest, .route m' now' :: rest', same => by
      have first := List.head_eq_of_cons_eq same
      have others := List.tail_eq_of_cons_eq same
      cases first
      exact (parallel.route m now).run rest rest' others
  | .route m now :: rest, [], same => by cases same
  | [], .route m' now' :: rest', same => by cases same
termination_by moves moves' => moves.length + moves'.length

end Parallel

variable [EventSource τ] [LoadSource τ]

/-- **What is injected does not disturb what is genuine.**  Take two chains with one fuzz pass
each and nothing that holds messages up, over the same objects; the passes were made at the same
moment, and both block or neither does, and both wait for the same program.  Their sources,
their other options and the worlds they write to may differ in any way.  Send both the same
messages at the same moments, with any idle opportunities between them.  Then at every point the
objects and all that the trackers know but their books are the same.  The next message is
forwarded by both or by neither, and what comes out of both is the same but for the word that
both treat as a serial. -/
theorem synthesis_does_not_interfere (made : Nat) {options options' : Options} {source : σ}
    {source' : τ} (block : options'.block = options.block)
    (program : options'.program = options.program) {a : Router (StageOver σ)}
    {b : Router (StageOver τ)} (soleA : a.SoleFuzz ((Fuzz.create made).arm options source))
    (soleB : b.SoleFuzz ((Fuzz.create made).arm options' source')) (openA : a.pinned = none)
    (openB : b.pinned = none) (objects : b.objects = a.objects) (moves moves' : List Move)
    (same : routed moves' = routed moves) (m : Message) (now : Nat) :
    let before := (machine σ).run a moves
    let before' := (machine τ).run b moves'
    let done := before.route m now
    let done' := before'.route m now
    ∃ p p' q q', before.SoleFuzz p ∧ before'.SoleFuzz p' ∧
      done.router.SoleFuzz q ∧ done'.router.SoleFuzz q' ∧
      before'.objects = before.objects ∧ p.tracker.Alike p'.tracker ∧
      done'.forward = done.forward ∧
      p'.tracker.serialWord? (before'.objects.resolve m) m =
        p.tracker.serialWord? (before.objects.resolve m) m ∧
      SameBut (p.tracker.serialWord? (before.objects.resolve m) m) done.message done'.message ∧
      done'.router.objects = done.router.objects ∧ q.tracker.Alike q'.tracker := by
  intro before before' done done'
  have start : a.Parallel b :=
    ⟨objects, openA, openB, _, _, soleA, soleB,
      Fuzz.parallel_arm made source source' block program⟩
  have parallel : before.Parallel before' := start.run moves moves' same
  have routedAlike : done.router.Parallel done'.router := parallel.route m now
  obtain ⟨objectsNow, left, right, p, p', soleP, soleP', passes⟩ := parallel
  obtain ⟨q, soleQ, followedQ, messageQ⟩ := route_follows soleP m now
  obtain ⟨q', soleQ', followedQ', messageQ'⟩ := route_follows soleP' m now
  have forward : done.forward = _ := forward_route soleP left m now
  have forward' : done'.forward = _ := forward_route soleP' right m now
  rw [objectsNow] at followedQ' messageQ' forward'
  refine ⟨p, p', q, q', soleP, soleP', soleQ, soleQ', objectsNow,
    Tracker.alike_of_genuine passes.tracker, ?_, ?_, ?_, routedAlike.objects,
    Tracker.alike_of_genuine (passes.followed followedQ followedQ').tracker⟩
  · rw [forward, forward', passes.drops_eq]
  · rw [objectsNow]
    exact passes.serialWord?_eq _ m
  · rw [messageQ, messageQ']
    exact passes.follow_message _ m now

namespace Example

open Message.Example (message)

/-- The chain of the session without the interactive pass. -/
def unheld : Router Stage :=
  { chain with pinned := none }

/-- Other options, but for the block mode and the program. -/
def talkative : Options :=
  { options with verbose := true, delayMin := 5 }

/-- A chain over the same objects whose source has no events, whose pass tells all that it does
and whose client cannot be written to. -/
def silent : Router Stage where
  passes := [.inr (.inl ((Fuzz.create 0).arm talkative (.script ⟨[]⟩)))]
  pinned := none
  objects := chain.objects
  world := .start (.failing (fun _ => some "gone") fun _ => none) .reliable
  exit := false
  finalized := false

/-- The messages of the session without its idle opportunities. -/
def messages : List Move :=
  (routed session).map fun sent => .route sent.1 sent.2

/-- One chain has made the pointer leave and the other has not, so a key has the serial 44 in one
and 43 in the other, and is the same message otherwise. -/
theorem key_alike_but_for_its_serial :
    let key := message .fromServer 14 3 [200, 9, 30, 0]
    let before := (machine Source).run unheld session
    let before' := (machine Source).run silent messages
    unheld.SoleFuzz ((Fuzz.create 0).arm options leaving) ∧
      silent.SoleFuzz ((Fuzz.create 0).arm talkative (.script ⟨[]⟩)) ∧
      talkative.block = options.block ∧ talkative.program = options.program ∧
      routed messages = routed session ∧
      (before.route key (millis 70)).message = message .fromServer 14 3 [44, 9, 30, 0] ∧
      (before'.route key (millis 70)).message = message .fromServer 14 3 [43, 9, 30, 0] ∧
      (before'.route key (millis 70)).forward = (before.route key (millis 70)).forward ∧
      (before'.route key (millis 70)).router.objects =
        (before.route key (millis 70)).router.objects := by
  intro key before before'
  have noisy : unheld.SoleFuzz ((Fuzz.create 0).arm options leaving) :=
    ⟨[.create ⟨none⟩], [], none, rfl, rfl⟩
  have quiet : silent.SoleFuzz ((Fuzz.create 0).arm talkative (.script ⟨[]⟩)) :=
    ⟨[], [], none, rfl, rfl⟩
  have block : talkative.block = options.block := rfl
  have program : talkative.program = options.program := rfl
  obtain ⟨-, -, -, -, -, -, -, -, -, -, forward, -, -, objects, -⟩ :=
    synthesis_does_not_interfere 0 block program noisy quiet rfl rfl rfl session messages rfl key
      (millis 70)
  exact ⟨noisy, quiet, block, program, rfl, by decide, by decide, forward, objects⟩

end Example

end Router

end WaylandProxy
