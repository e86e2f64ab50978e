/-
# Proofs.Pass.SerialSequence -- one sequence of serials for the client

Serials reach the client in two ways: in the messages of the server, where the fuzz pass
renumbers them on their way through the chain, and in the events that it writes itself when
it gets an idle opportunity.  Both take from one tracker.  In a chain with one fuzz pass
every move gives out at most one serial, and the tracker's books follow (`step_issued`); so
over any run of messages and idle opportunities, with whatever writes and flushes failing,
the serials given out are consecutive (`one_serial_sequence`).
-/
import WaylandProxy.Proofs.Input.Serials
import WaylandProxy.Proofs.Machine
import WaylandProxy.Proofs.Pass.SoleFuzz

namespace WaylandProxy

set_option autoImplicit false

namespace Fuzz

variable {σ : Type}

/-! ## The pass and its tracker -/

/-- The tracker gets to see this event of the server: the connection is one the pass is for,
and the event is not kept back. -/
def watches (p : Fuzz σ) (resolved : Option Resolved) (m : Message) : Bool :=
  p.applies.getD (p.wants m.connection.program) && !p.keepsBack resolved

/-- The issue that a message is, if its serial is renumbered into what `left` holds. -/
def issueIn? (p : Fuzz σ) (resolved : Option Resolved) (m left : Message) : Option Issue :=
  if m.direction = .fromServer ∧ p.watches resolved m then p.tracker.issueIn? resolved m left
  else none

/-- All that the synthesizer has pending are frames. -/
def PendingFrames (p : Fuzz σ) : Prop :=
  ∀ s, p.synth = some s → Frames s.pending

/-- The pass did nothing with its tracker and its pending events, and wrote nothing. -/
structure Idled (p after : Fuzz σ) (w world : World) : Prop where
  tracker : after.tracker = p.tracker
  options : after.options = p.options
  frames : p.PendingFrames → after.PendingFrames
  traffic : world.traffic = w.traffic

theorem decideApplies_idled (p : Fuzz σ) (m : Message) (w : World) :
    (p.decideApplies m w).1 = p.applies.getD (p.wants m.connection.program) ∧
      Idled p (p.decideApplies m w).2.1 w (p.decideApplies m w).2.2 := by
  unfold decideApplies
  cases p.applies with
  | some applies => exact ⟨rfl, rfl, rfl, id, rfl⟩
  | none =>
      refine ⟨rfl, rfl, rfl, id, ?_⟩
      simp only
      split
      · rfl
      · exact w.traffic_log _ _ _ _

theorem noteConnection_frames {p : Fuzz σ} (frames : p.PendingFrames) (connection : Connection) :
    (p.noteConnection connection).PendingFrames := by
  intro s' synth
  obtain ⟨s, inside, rfl⟩ := Option.map_eq_some_iff.1 synth
  exact frames s inside

theorem checkReadiness_idled [EventSource σ] (p : Fuzz σ) (now : Nat) (w : World) :
    Idled p (p.checkReadiness now w).1 w (p.checkReadiness now w).2 := by
  unfold checkReadiness
  cases synth : p.synth with
  | none => exact ⟨rfl, rfl, id, rfl⟩
  | some s =>
      simp only
      unfold Synthesizer.checkReadiness
      split
      · refine ⟨rfl, rfl, fun frames s' same => ?_, w.traffic_log _ _ _ _⟩
        cases same
        exact frames s synth
      · refine ⟨rfl, rfl, fun frames s' same => ?_, rfl⟩
        cases same
        exact frames s synth

/-! ## What one move gives out -/

/-- What a message did: the books follow the issue that it is, a message counted as malformed
is none, and nothing was written to the client. -/
structure Took (p after : Fuzz σ) (issue : Option Issue) (w world : World) : Prop where
  issued : p.tracker.Issued issue after.tracker
  malformed : after.tracker.formatErrors ≠ p.tracker.formatErrors → issue = none
  traffic : world.traffic = w.traffic
  frames : p.PendingFrames → after.PendingFrames

theorem Idled.took {p after : Fuzz σ} {w world : World} (idled : Idled p after w world) :
    Took p after none w world where
  issued := .nothing _ (by rw [idled.tracker]) (by rw [idled.tracker])
  malformed := fun _ => rfl
  traffic := idled.traffic
  frames := idled.frames

theorem Took.idled {p middle after : Fuzz σ} {issue : Option Issue} {w between world : World}
    (took : Took p middle issue w between) (idled : Idled middle after between world) :
    Took p after issue w world where
  issued := by
    rw [idled.tracker]
    exact took.issued
  malformed := by
    rw [idled.tracker]
    exact took.malformed
  traffic := idled.traffic.trans took.traffic
  frames := fun frames => idled.frames (took.frames frames)

/-- What a pass did to what it was shown of the world it did to the world. -/
theorem Took.shown {p after : Fuzz σ} {issue : Option Issue} {w world : World}
    (took : Took p after issue w.drained world) : Took p after issue w (w.after world) where
  issued := took.issued
  malformed := took.malformed
  traffic := by rw [World.traffic_after, took.traffic, World.traffic_drained, List.append_nil]
  frames := took.frames

/-- An event of the server gives out the serial left in it, if the tracker gets to see it. -/
theorem handleEvent_took (ctx : Context) (t : Transit) (p : Fuzz σ) :
    let handled := p.handleEvent ctx t
    let resolved := ctx.objects.resolve t.message
    Took p handled.pass
      (if p.watches resolved t.message then
        p.tracker.issueIn? resolved t.message handled.transit.message
      else none) t.world handled.transit.world := by
  have decided := p.decideApplies_idled t.message t.world
  unfold handleEvent watches
  generalize p.decideApplies t.message t.world = decision at decided
  obtain ⟨applies, p', w'⟩ := decision
  obtain ⟨rfl, idled⟩ := decided
  have keeps : (p'.noteConnection t.message.connection).keepsBack (ctx.objects.resolve t.message) =
      p.keepsBack (ctx.objects.resolve t.message) := by
    unfold keepsBack blocks
    rw [show (p'.noteConnection t.message.connection).options = p.options from idled.options]
  have tracker : (p'.noteConnection t.message.connection).tracker = p.tracker := idled.tracker
  simp only [keeps, tracker]
  cases p.applies.getD (p.wants t.message.connection.program) with
  | false => exact idled.took
  | true =>
      cases p.keepsBack (ctx.objects.resolve t.message) with
      | true =>
          refine ⟨.nothing _ (by rw [← tracker]; rfl) (by rw [← tracker]; rfl), fun _ => rfl,
            idled.traffic, fun frames => ?_⟩
          exact noteConnection_frames (idled.frames frames) _
      | false =>
          obtain ⟨issued, -⟩ := p.tracker.observeServer_issued
            (ctx.objects.resolve t.message) t.message ctx.now
          refine ⟨issued, fun malformed => ?_, ?_, fun frames => ?_⟩
          · have nowhere := p.tracker.renumberedWord?_of_errors _ _ _ malformed
            simp [Tracker.issueIn?, nowhere]
          · exact (World.traffic_report _ _).trans idled.traffic
          · exact noteConnection_frames (idled.frames frames) _

theorem handleRequest_took [EventSource σ] (ctx : Context) (t : Transit) (p : Fuzz σ) :
    Took p (p.handleRequest ctx t).pass none t.world (p.handleRequest ctx t).transit.world := by
  have decided := p.decideApplies_idled t.message t.world
  unfold handleRequest
  generalize p.decideApplies t.message t.world = decision at decided
  obtain ⟨applies, p', w'⟩ := decision
  obtain ⟨-, idled⟩ := decided
  cases applies with
  | false => exact idled.took
  | true =>
      let seen := p'.tracker.observeClient (ctx.objects.resolve t.message) t.message
      let told : Fuzz σ := { p' with tracker := seen.tracker }
      let noted := told.noteConnection t.message.connection
      have observed : Took p noted none t.world (w'.report seen.report) := by
        refine ⟨?_, fun _ => rfl, (World.traffic_report _ _).trans idled.traffic, fun frames => ?_⟩
        · rw [← idled.tracker]
          exact p'.tracker.observeClient_issued _ _
        · have framesTold : told.PendingFrames := idled.frames frames
          exact noteConnection_frames framesTold _
      exact observed.idled (noted.checkReadiness_idled ctx.now (w'.report seen.report))

/-- **What a message gives out.**  An event that the tracker gets to see gives out the serial
left in it, if it carries one, and nothing else gives out anything. -/
theorem handle_took [EventSource σ] [LoadSource σ] (ctx : Context) (t : Transit) (p : Fuzz σ) :
    let handled := Pass.handle t.message.direction ctx t p
    Took p handled.pass
      (p.issueIn? (ctx.objects.resolve t.message) t.message handled.transit.message) t.world
      handled.transit.world := by
  cases direction : t.message.direction with
  | fromClient =>
      have took := p.handleRequest_took ctx { t with world := t.world.drained }
      have none : ∀ left, p.issueIn? (ctx.objects.resolve t.message) t.message left = none := by
        intro left
        simp [issueIn?, direction]
      intro handled
      rw [none]
      exact took.shown
  | fromServer =>
      have took := p.handleEvent_took ctx { t with world := t.world.drained }
      intro handled
      have same : p.issueIn? (ctx.objects.resolve t.message) t.message handled.transit.message =
        if p.watches (ctx.objects.resolve t.message) t.message then
          p.tracker.issueIn? (ctx.objects.resolve t.message) t.message
            (p.handleEvent ctx { t with world := t.world.drained }).transit.message
        else none := by
        unfold issueIn?
        simp only [direction, true_and]
        rfl
      rw [same]
      exact took.shown

theorem settle_idled (p : Fuzz σ) (outcome : Except Fault (Option Gesture)) (w : World) :
    Idled p (p.settle outcome w).1 w (p.settle outcome w).2 := by
  unfold settle
  split
  · exact ⟨rfl, rfl, id, rfl⟩
  · refine ⟨rfl, rfl, id, ?_⟩
    simp only
    split <;> simp
  · exact ⟨rfl, rfl, id, w.traffic_log _ _ _ _⟩

theorem issueIn?_of_keepsBack {p : Fuzz σ} {resolved : Option Resolved} {m left : Message}
    (back : p.keepsBack resolved) : p.issueIn? resolved m left = none := by
  simp [issueIn?, watches, back]

theorem issueIn?_of_flaw {p : Fuzz σ} {resolved : Option Resolved} {m left : Message}
    (flawed : m.flaw? ≠ none) : p.issueIn? resolved m left = none := by
  have nowhere : p.tracker.renumberedWord? resolved m = none :=
    if_pos (Option.isSome_iff_ne_none.2 flawed)
  simp [issueIn?, Tracker.issueIn?, nowhere]

/-- **What an idle opportunity gives out.**  It is the serial of the event that was written,
and the books follow. -/
theorem inject_issued [EventSource σ] (now : Nat) (p : Fuzz σ) (w : World)
    (frames : p.PendingFrames) :
    ∃ issue : Option Issue, World.Gave w (p.inject now w).2 issue.toList ∧
      p.tracker.Issued issue (p.inject now w).1.tracker ∧ (p.inject now w).1.PendingFrames := by
  have ready := p.checkReadiness_idled now w
  unfold inject
  generalize p.checkReadiness now w = checked at ready
  obtain ⟨p', w'⟩ := checked
  have framesThen := ready.frames frames
  simp only
  cases synth : p'.synth with
  | none => exact ⟨none, .of_traffic_eq ready.traffic, ready.took.issued, framesThen⟩
  | some s =>
      obtain ⟨issue, gave, issued, framesLeft⟩ :=
        (s.tick_ticked now p'.tracker w').issued (framesThen s synth)
      let ticked := s.tick now p'.tracker w'
      let done : Fuzz σ := { p' with synth := some ticked.synth, tracker := ticked.tracker }
      have settled := done.settle_idled ticked.outcome ticked.world
      refine ⟨issue, ?_, ?_, settled.frames ?_⟩
      · have all := (World.Gave.of_traffic_eq ready.traffic).trans
          (gave.trans (.of_traffic_eq settled.traffic))
        simpa using all
      · rw [show ((done.settle ticked.outcome ticked.world).1).tracker = ticked.tracker from
          settled.tracker, ← ready.tracker]
        exact issued
      · intro s' same
        cases same
        exact framesLeft

end Fuzz

/-! ## Runs of a router -/

namespace Router

variable {σ : Type}

/-- A router with one fuzz pass whose tracker has a ledger of what was given out. -/
def Booked (r : Router (StageOver σ)) (issues : List Issue) : Prop :=
  ∃ p, r.SoleFuzz p ∧ p.PendingFrames ∧ p.tracker.Ledger issues

theorem booked_start {r : Router (StageOver σ)} {made : Nat} {options : Options} {source : σ}
    (sole : r.SoleFuzz ((Fuzz.create made).arm options source)) : Booked r [] := by
  refine ⟨_, sole, ?_, Tracker.ledger_start made⟩
  intro s synth
  cases synth
  intro m member
  cases member

variable [EventSource σ] [LoadSource σ]

inductive Move where
  /-- Let a message through the chain. -/
  | route (m : Message) (now : Nat)
  /-- Give every pass its idle opportunity. -/
  | idle (now : Nat)

def step (r : Router (StageOver σ)) : Move → Router (StageOver σ)
  | .route m now => (r.route m now).router
  | .idle now => r.idle now

/-- The attempts to write to the client and to flush it during a move. -/
def trafficOf (r : Router (StageOver σ)) (move : Move) : List Note :=
  (r.step move).world.traffic.drop r.world.traffic.length

/-- The issue that a message is, by the serial left in it, if the fuzz pass renumbers it. -/
def renumbered? (r : Router (StageOver σ)) : Move → Option Issue
  | .route m now =>
    r.fuzz?.bind fun p => p.issueIn? (r.objects.resolve m) m (r.route m now).message
  | .idle _ => none

/-- The router as a machine that gives out serials: in messages of the server, and in events
that were written to the client. -/
def machine (σ : Type) [EventSource σ] [LoadSource σ] :
    Machine (Router (StageOver σ)) Move Issue where
  step := step
  out r move := (r.renumbered? move).toList ++ (r.trafficOf move).filterMap Note.issue?

/-- A message gives out what the fuzz pass renumbers in it, and nothing is written to the
client. -/
theorem route_took {r : Router (StageOver σ)} {p : Fuzz σ} (sole : r.SoleFuzz p) (m : Message)
    (now : Nat) :
    let issue := p.issueIn? (r.objects.resolve m) m (r.route m now).message
    (machine σ).out r (.route m now) = issue.toList ∧
      ∃ after, (r.route m now).router.SoleFuzz after ∧
        Fuzz.Took p after issue r.world (r.route m now).router.world := by
  obtain ⟨shown, message, before, sole', left, traffic⟩ := route_sole sole m now
  have took := p.handle_took ⟨r.objects, now⟩ shown
  rw [message] at took
  rw [left]
  have still : (r.route m now).router.world.traffic = r.world.traffic :=
    traffic.trans (took.traffic.trans before)
  refine ⟨?_, _, sole', took.issued, took.malformed, still, took.frames⟩
  have none : r.trafficOf (.route m now) = [] := by
    unfold trafficOf step
    simp [still]
  show (r.fuzz?.bind fun p => p.issueIn? (r.objects.resolve m) m (r.route m now).message).toList ++
    (r.trafficOf (.route m now)).filterMap Note.issue? = _
  rw [none, sole.fuzz?_eq, left]
  simp

/-- An idle opportunity gives out the serial of the event that was written. -/
theorem idle_issued {r : Router (StageOver σ)} {p : Fuzz σ} (sole : r.SoleFuzz p)
    (frames : p.PendingFrames) (now : Nat) :
    ∃ (after : Fuzz σ) (issue : Option Issue), (r.idle now).SoleFuzz after ∧
      after.PendingFrames ∧ (machine σ).out r (.idle now) = issue.toList ∧
      p.tracker.Issued issue after.tracker := by
  obtain ⟨sole', world⟩ := idle_sole sole now
  obtain ⟨issue, ⟨new, traffic, given⟩, issued, framesLeft⟩ :=
    p.inject_issued now r.world.drained frames
  refine ⟨_, issue, sole', framesLeft, ?_, issued⟩
  -- the pass was shown an empty journal, so all its traffic is new
  rw [World.traffic_drained, List.nil_append] at traffic
  have during : r.trafficOf (.idle now) = new := by
    unfold trafficOf step
    rw [world, World.traffic_after, traffic, List.drop_left]
  show [] ++ (r.trafficOf (.idle now)).filterMap Note.issue? = _
  rw [during, given, List.nil_append]

/-- **What one move gives out.**  At most one serial is given out, and the books of the one fuzz
pass follow. -/
theorem step_issued {r : Router (StageOver σ)} {p : Fuzz σ} (sole : r.SoleFuzz p)
    (frames : p.PendingFrames) (move : Move) :
    ∃ (after : Fuzz σ) (issue : Option Issue), (r.step move).SoleFuzz after ∧
      after.PendingFrames ∧ (machine σ).out r move = issue.toList ∧
      p.tracker.Issued issue after.tracker := by
  cases move with
  | route m now =>
      obtain ⟨given, after, sole', took⟩ := route_took sole m now
      exact ⟨after, _, sole', took.frames frames, given, took.issued⟩
  | idle now => exact idle_issued sole frames now

theorem Booked.after {r : Router (StageOver σ)} {issues : List Issue} (booked : Booked r issues)
    (move : Move) : Booked (r.step move) (issues ++ (machine σ).out r move) := by
  obtain ⟨p, sole, frames, ledger⟩ := booked
  obtain ⟨after, issue, sole', frames', given, issued⟩ := step_issued sole frames move
  exact ⟨after, sole', frames', given ▸ ledger.after issued⟩

theorem booked_run {r : Router (StageOver σ)} {made : Nat} {options : Options} {source : σ}
    (sole : r.SoleFuzz ((Fuzz.create made).arm options source)) (moves : List Move) :
    Booked ((machine σ).run r moves) ((machine σ).outputs r moves) :=
  (machine σ).holds_after Booked (booked_start sole) (fun _ _ move booked => booked.after move)
    moves

/-- A write of a motion or a frame gives out nothing, and neither does anything but a write. -/
theorem issues_of_silent {notes : List Note}
    (silent : ∀ connection bytes now, Note.wrote .client connection bytes now ∈ notes →
      (Message.ofBytes connection bytes).opcode = Synthesizer.pointerMotion ∨
        (Message.ofBytes connection bytes).opcode = Synthesizer.pointerFrame) :
    notes.filterMap Note.issue? = [] := by
  rw [List.filterMap_eq_nil_iff]
  intro n member
  unfold Note.issue?
  split
  · rename_i connection bytes now
    have opcode := silent connection bytes now member
    have absent : (Message.ofBytes connection bytes).opcode ∉ Synthesizer.serialOpcodes := by
      obtain motion | frame := opcode
      · rw [motion]
        decide
      · rw [frame]
        decide
    exact if_neg absent
  · rfl

/-- **One sequence of serials for the client.**  Whatever messages and idle opportunities come
in whatever order, and whatever writes and flushes fail, the serials given out are
consecutive from the first one on, which is the server's own if it came in a message and 1 if
it came in an event of our own; so none comes again within `2 ^ 32` of them.  The tracker's
serial is always the last one.  A message that is kept back or malformed gives out nothing, nor
does an idle opportunity in which no write but of a motion or a frame succeeded; and
where nothing is given out the serial stays. -/
theorem one_serial_sequence (made : Nat) (options : Options) (source : σ)
    (r : Router (StageOver σ)) (sole : r.SoleFuzz ((Fuzz.create made).arm options source))
    (moves : List Move) :
    let after := (machine σ).run r moves
    let issues := (machine σ).outputs r moves
    ∃ p, after.SoleFuzz p ∧ p.tracker.serial = issues.getLast?.map Issue.serial ∧
      (∀ first, issues[0]? = some first → first.serial = first.origin.getD 1 ∧
        ∀ (k : Nat) i, issues[k]? = some i → i.serial = first.serial + UInt32.ofNat k) ∧
      (∀ (j k : Nat) earlier later, issues[j]? = some earlier → issues[k]? = some later → j < k →
        k - j < 2 ^ 32 → earlier.serial ≠ later.serial) ∧
      (∀ m now, p.keepsBack (after.objects.resolve m) ∨ m.flaw? ≠ none ∨
          (∃ next, (after.route m now).router.SoleFuzz next ∧
            next.tracker.formatErrors ≠ p.tracker.formatErrors) →
        (machine σ).out after (.route m now) = []) ∧
      (∀ now, (∀ connection bytes moment,
          Note.wrote .client connection bytes moment ∈ after.trafficOf (.idle now) →
          (Message.ofBytes connection bytes).opcode = Synthesizer.pointerMotion ∨
            (Message.ofBytes connection bytes).opcode = Synthesizer.pointerFrame) →
        (machine σ).out after (.idle now) = []) ∧
      ∀ move next, (machine σ).out after move = [] → (after.step move).SoleFuzz next →
        next.tracker.serial = p.tracker.serial := by
  intro after issues
  obtain ⟨p, soleNow, frames, ledger⟩ : Booked after issues := booked_run sole moves
  refine ⟨p, soleNow, ledger.last, ?_, ?_, ?_, ?_, ?_⟩
  · intro first isFirst
    refine ⟨ledger.consecutive.first first ?_, fun k i isAt => ?_⟩
    · rw [Option.mem_def, List.head?_eq_getElem?]
      exact isFirst
    · exact ledger.consecutive.serial_eq isFirst isAt
  · intro j k earlier later isEarlier isLater before near
    exact ledger.consecutive.serial_ne isEarlier isLater before near
  · intro m now silent
    obtain ⟨given, next, soleNext, took⟩ := route_took soleNow m now
    rw [given]
    obtain back | flawed | ⟨other, soleOther, malformed⟩ := silent
    · rw [Fuzz.issueIn?_of_keepsBack back]
      rfl
    · rw [Fuzz.issueIn?_of_flaw flawed]
      rfl
    · have same : other = next := Option.some.inj (soleOther.fuzz?_eq.symm.trans soleNext.fuzz?_eq)
      rw [took.malformed (same ▸ malformed)]
      rfl
  · intro now silent
    exact issues_of_silent silent
  · intro move next nothing soleNext
    obtain ⟨other, issue, soleOther, -, given, issued⟩ := step_issued soleNow frames move
    have same : next = other := Option.some.inj (soleNext.fuzz?_eq.symm.trans soleOther.fuzz?_eq)
    rw [nothing] at given
    cases issue with
    | some issue => cases given
    | none =>
        cases issued with
        | nothing _ serial origins => exact same ▸ serial

namespace Example

open Message.Example (message)

def options : Options :=
  { block := false, verbose := false, program := none, delayMin := 10, delayMax := 1000,
    mode := .seed 0 }

def leaving : Source :=
  .script ⟨[⟨.leave, 0⟩]⟩

/-- A trace pass, a fuzz pass and an interactive pass that does not stop, for a client that has
bound its globals. -/
def chain : Router Stage where
  passes := [.inl (.create ⟨none⟩), .inr (.inl ((Fuzz.create 0).arm options leaving))]
  pinned := some (.inr (.inr { Interactive.create [] ⟨none⟩ with stop := false }))
  objects := ⟨[(7, "wl_seat"), (4, "wl_compositor"), (12, "wl_surface"), (13, "wl_pointer"),
    (14, "wl_keyboard")]⟩
  world := .start .reliable .reliable
  exit := false
  finalized := false

/-- The client gets ready, the keyboard enters with the serial 41, the pointer is made to
leave, and a key comes with the serial 100. -/
def session : List Move :=
  [.route (message .fromClient 7 0 [13]) 0, .route (message .fromClient 7 1 [14]) 0,
    .route (message .fromClient 4 0 [12]) 0, .route (message .fromClient 12 2 [0, 0, 64, 64]) 0,
    .route (message .fromClient 12 6 []) 0, .route (message .fromServer 14 1 [41, 12, 0]) 0,
    .idle 0, .idle (millis 50), .route (message .fromServer 14 3 [100, 7, 30, 1]) (millis 60)]

theorem serials_continue_after_injection :
    chain.SoleFuzz ((Fuzz.create 0).arm options leaving) ∧
      (machine Source).outputs chain session = [⟨41, some 41⟩, ⟨42, none⟩, ⟨43, some 100⟩] ∧
      ∃ p, ((machine Source).run chain session).SoleFuzz p ∧ p.tracker.serial = some 43 := by
  have sole : chain.SoleFuzz ((Fuzz.create 0).arm options leaving) :=
    ⟨[.create ⟨none⟩], [], some { Interactive.create [] ⟨none⟩ with stop := false }, rfl, rfl⟩
  have given : (machine Source).outputs chain session =
      [⟨41, some 41⟩, ⟨42, none⟩, ⟨43, some 100⟩] := by decide
  obtain ⟨p, soleNow, last, -⟩ := one_serial_sequence 0 options leaving chain sole session
  rw [given] at last
  exact ⟨sole, given, p, soleNow, last⟩

end Example

end Router

end WaylandProxy
