/-
# Proofs.Pass.Equipped -- an active synthesizer lacks nothing

A synthesizer could fail for reasons of its own: it might have no pointer, keyboard or surface to
address, no connection to write to, nothing to write, or a message that the length field cannot
count.  In a fuzz pass none of this happens.  Readiness asks for the pointer and the keyboard, and
for a commit with damage, which only a surface that is known can have (`Seen.Ready.surface`).  It
does not ask for a connection, but the request that makes a pointer known shows one as well
(`Fuzz.Equipped`).  With the objects known every gesture is made into messages that are well formed
(`materialize_complete`), so the only thing left to fail is the way to the client.

The hooks of the pass are taken in any order and with any message, also with one that does not
come from the peer that the hook is for.
-/
import WaylandProxy.Proofs.Pass.Block
import WaylandProxy.Proofs.Pass.Bystander

namespace WaylandProxy

set_option autoImplicit false

open Seen

/-- All that synthesized input is addressed to is known. -/
structure Discovered.Complete (found : Discovered) (surface pointer keyboard : UInt32) : Prop where
  surface : found.surface = some surface
  pointer : found.pointer = some pointer
  keyboard : found.keyboard = some keyboard

/-- Once the client is ready all of it is known. -/
theorem Tracker.Records.complete {t : Tracker} {log : List Seen} (records : t.Records log)
    (ready : Ready log) :
    ∃ surface pointer keyboard, t.found.Complete surface pointer keyboard := by
  obtain ⟨surface, hasSurface⟩ := Option.isSome_iff_exists.1 ready.surface
  obtain ⟨pointer, hasPointer⟩ := Option.isSome_iff_exists.1 ready.1
  obtain ⟨keyboard, hasKeyboard⟩ := Option.isSome_iff_exists.1 ready.2.1
  exact ⟨surface, pointer, keyboard, records.surface.trans hasSurface,
    records.pointer.trans hasPointer, records.keyboard.trans hasKeyboard⟩

namespace Synthesizer

variable {σ : Type}

/-! ## One gesture -/

/-- The message can be written to the client as an event of an object. -/
structure Fit (object : UInt32) (m : Message) : Prop where
  wellFormed : m.flaw? = none
  server : m.direction = .fromServer
  object : m.object = object

def target (gesture : Gesture) (pointer keyboard : UInt32) : UInt32 :=
  if gesture.isPointer then pointer else keyboard

/-- What is built for an object can be written as an event of it. -/
theorem fit_of_build {connection : Connection} {object : UInt32} {opcode : UInt16}
    {arguments : List Argument} {m : Message}
    (built : Message.build .fromServer connection object opcode arguments = .ok m) :
    Fit object m := by
  obtain ⟨direction, addressed, -, -⟩ := Message.build_spec built
  exact ⟨Message.flaw?_build built, direction, addressed⟩

/-- Few arguments make an event that can be written: no gesture has more than four words. -/
theorem exists_fit (connection : Connection) (object : UInt32) (opcode : UInt16)
    (arguments : List Argument) (few : (arguments.flatMap Argument.toWords).length ≤ 4) :
    ∃ m, Message.build .fromServer connection object opcode arguments = .ok m ∧ Fit object m := by
  have fits : Message.headerBytes + (arguments.flatMap Argument.toWords).length * 4 ≤
      Message.largestLength := by
    unfold Message.headerBytes Message.largestLength
    omega
  obtain ⟨m, built⟩ := Message.exists_build fits .fromServer connection object opcode
  exact ⟨m, built, fit_of_build built⟩

/-- **With the objects known every gesture is made into events** that can be written. -/
theorem materialize_complete {t : Tracker} {surface pointer keyboard : UInt32}
    (complete : t.found.Complete surface pointer keyboard) (gesture : Gesture)
    (connection : Connection) (serial : UInt32) (now : Nat) :
    ∃ action rest, materialize gesture connection t serial now = .ok (action :: rest) ∧
      ∀ m ∈ action :: rest, Fit (target gesture pointer keyboard) m := by
  obtain ⟨knownSurface, knownPointer, knownKeyboard⟩ := complete
  obtain ⟨frame, builtFrame, fitFrame⟩ :=
    exists_fit connection pointer pointerFrame [] (Nat.zero_le 4)
  have both {action : Message} (fit : Fit pointer action) : ∀ m ∈ [action, frame], Fit pointer m :=
    List.forall_mem_cons.2 ⟨fit, List.forall_mem_singleton.2 fitFrame⟩
  cases gesture with
  | key code pressed =>
      obtain ⟨key, built, fit⟩ := exists_fit connection keyboard keyboardKey
        [.uint serial, .uint (t.clock.stampAt now), .uint code, .uint (if pressed then 1 else 0)]
        (Nat.le_refl 4)
      refine ⟨key, [], ?_, List.forall_mem_singleton.2 fit⟩
      simp [materialize, knownKeyboard, built, bind, Except.bind, pure, Except.pure]
  | enter x y =>
      let size := t.bufferSize.getD (0, 0)
      obtain ⟨enter, built, fit⟩ := exists_fit connection pointer pointerEnter
        [.uint serial, .object surface, .fixed (.ofNormalized x size.1),
          .fixed (.ofNormalized y size.2)] (Nat.le_refl 4)
      refine ⟨enter, [frame], ?_, both fit⟩
      simp [materialize, knownPointer, knownSurface, built, size, builtFrame, bind, Except.bind,
        pure, Except.pure]
  | leave =>
      obtain ⟨leave, built, fit⟩ := exists_fit connection pointer pointerLeave
        [.uint serial, .object surface] (show 2 ≤ 4 by decide)
      refine ⟨leave, [frame], ?_, both fit⟩
      simp [materialize, knownPointer, knownSurface, built, builtFrame, bind, Except.bind, pure,
        Except.pure]
  | button code pressed =>
      obtain ⟨button, built, fit⟩ := exists_fit connection pointer pointerButton
        [.uint serial, .uint (t.clock.stampAt now), .uint code, .uint (if pressed then 1 else 0)]
        (Nat.le_refl 4)
      refine ⟨button, [frame], ?_, both fit⟩
      simp [materialize, knownPointer, built, builtFrame, bind, Except.bind, pure, Except.pure]
  | motion x y =>
      let size := t.bufferSize.getD (0, 0)
      obtain ⟨motion, built, fit⟩ := exists_fit connection pointer pointerMotion
        [.uint (t.clock.stampAt now), .fixed (.ofNormalized x size.1),
          .fixed (.ofNormalized y size.2)] (show 3 ≤ 4 by decide)
      refine ⟨motion, [frame], ?_, both fit⟩
      simp [materialize, knownPointer, built, size, builtFrame, bind, Except.bind,
        pure, Except.pure]

/-! ## Readiness and ticks -/

/-- A synthesizer that was shown a connection is bound to one. -/
theorem bound_noteConnection (s : Synthesizer σ) (connection : Connection) :
    (s.noteConnection connection).connection.isSome = true := by
  cases known : s.connection <;> simp [noteConnection, known]

variable {s : Synthesizer σ} {t : Tracker} [EventSource σ]

/-- Looking at readiness starts a synthesizer only if the client is ready, and leaves its
connection. -/
theorem checkReadiness_starts (s : Synthesizer σ) (t : Tracker) (now : Nat) (w : World) :
    (s.checkReadiness t now w).1.connection = s.connection ∧
      ((s.checkReadiness t now w).1.phase = .active → s.phase = .active ∨ s.isReady t = true) := by
  unfold checkReadiness
  split
  · rename_i ready
    exact ⟨rfl, fun _ => .inr ready.2⟩
  · exact ⟨rfl, .inl⟩

/-- If an active synthesizer can make every gesture into events, a tick fails only on the way to
the client. -/
theorem tick_transport
    (buildable : s.phase = .active → ∀ connection ∈ s.connection, ∀ gesture serial now,
      ∃ messages, materialize gesture connection t serial now = .ok messages)
    {now : Nat} {w : World} {fault : Fault} (failed : (s.tick now t w).outcome = .error fault) :
    ∃ reason, fault = .transport reason := by
  have ticked := s.tick_ticked now t w
  generalize s.tick now t w = done at ticked failed
  have onlySettled {pending left : List Message} {c : Connection} {before after : World}
      {failure : Option Fault} (settled : Settled c now pending before after left failure)
      (is : failure = some fault) : ∃ reason, fault = .transport reason := by
    cases settled with
    | flushed => cases is
    | unflushed reason => exact ⟨reason, (Option.some.inj is).symm⟩
    | refused _ _ _ reason => exact ⟨reason, (Option.some.inj is).symm⟩
  cases ticked with
  | asleep | early | dry => cases failed
  | stalled _ _ _ _ _ _ _ settled =>
      cases failed
      exact onlySettled settled rfl
  | unbuildable connection active bound _ _ _ event _ _ unbuilt =>
      obtain ⟨messages, built⟩ := buildable active connection bound event.gesture t.nextSerial now
      cases unbuilt.symm.trans built
  | refused _ _ _ _ _ _ _ _ _ _ _ _ _ written =>
      cases failed
      cases written with
      | refused reason => exact ⟨reason, rfl⟩
  | fired _ _ _ _ _ _ _ _ _ _ _ _ _ _ _ failure settled =>
      cases failure with
      | none => cases failed
      | some other =>
          cases failed
          exact onlySettled settled rfl

end Synthesizer

namespace Fuzz

variable {σ : Type} {p : Fuzz σ} {log : List Seen}

/-! ## One hook -/

/-- A synthesizer that is active has seen the requests that make the client ready, and one that
could address a pointer is bound to a connection. -/
structure Equipped (log : List Seen) (p : Fuzz σ) : Prop where
  records : p.tracker.Records log
  synth : ∃ s, p.synth = some s ∧ (s.phase = .active → Ready log) ∧
    (p.tracker.found.pointer.isSome → s.connection.isSome)

theorem Equipped.start (made : Nat) (options : Options) (source : σ) :
    Equipped [] ((create made).arm options source) where
  records := .start made
  synth := ⟨_, rfl, nofun, nofun⟩

/-- An event of the server teaches a pass nothing that readiness asks for. -/
theorem handleEvent_records (ctx : Context) (t : Transit)
    (applies : p.appliesTo t.message = true) :
    p.tracker.SameRecords (p.handleEvent ctx t).pass.tracker := by
  rw [handleEvent_eq]
  simp only [applies, if_true]
  split
  · exact .refl _
  · exact p.tracker.observeServer_records _ _ _

theorem Equipped.event (equipped : p.Equipped log) (ctx : Context) (t : Transit)
    (applies : p.appliesTo t.message = true) : Equipped log (p.handleEvent ctx t).pass := by
  obtain ⟨records, s, synth, active, -⟩ := equipped
  refine ⟨records.of_same (handleEvent_records ctx t applies), _,
    handleEvent_synth synth ctx t applies, active, fun _ => s.bound_noteConnection _⟩

/-- **An active synthesizer lacks nothing.** -/
theorem Equipped.complete {s : Synthesizer σ} (equipped : p.Equipped log)
    (synth : p.synth = some s) (active : s.phase = .active) :
    ∃ connection surface pointer keyboard, s.connection = some connection ∧
      p.tracker.found.Complete surface pointer keyboard := by
  obtain ⟨records, s, synth', ready, bound⟩ := equipped
  cases synth.symm.trans synth'
  obtain ⟨surface, pointer, keyboard, complete⟩ := records.complete (ready active)
  obtain ⟨connection, is⟩ := Option.isSome_iff_exists.1 (bound (by rw [complete.pointer]; rfl))
  exact ⟨connection, surface, pointer, keyboard, is, complete⟩

variable [EventSource σ]

/-- A request that a pass is for is shown to its tracker as it is. -/
theorem handleRequest_tracker (ctx : Context) (t : Transit)
    (applies : p.appliesTo t.message = true) :
    (p.handleRequest ctx t).pass.tracker =
      (p.tracker.observeClient (ctx.objects.resolve t.message) t.message).tracker := by
  rw [handleRequest_eq]
  simp only [applies, if_true]
  obtain ⟨synth, ready⟩ := checkReadiness_eq
    (({ p with
        applies := some true
        tracker := (p.tracker.observeClient (ctx.objects.resolve t.message) t.message).tracker } :
      Fuzz σ).noteConnection t.message.connection) ctx.now _
  rw [ready]
  rfl

theorem Equipped.checkReadiness (equipped : p.Equipped log) (now : Nat) (w : World) :
    Equipped log (p.checkReadiness now w).1 := by
  obtain ⟨records, s, synth, active, bound⟩ := equipped
  obtain ⟨connection, starts⟩ := s.checkReadiness_starts p.tracker now w
  unfold Fuzz.checkReadiness
  rw [synth]
  refine ⟨records, _, rfl, fun is => ?_, fun known => ?_⟩
  · exact (starts is).elim active (Synthesizer.ready_of_isReady records)
  · show (s.checkReadiness p.tracker now w).1.connection.isSome = true
    rw [connection]
    exact bound known

/-- A request of the client teaches a pass more, and shows its connection. -/
theorem Equipped.request (equipped : p.Equipped log) (ctx : Context) (t : Transit)
    (applies : p.appliesTo t.message = true) :
    Equipped (log ++ [⟨ctx.objects.resolve t.message, t.message⟩])
      (p.handleRequest ctx t).pass := by
  obtain ⟨records, s, synth, active, -⟩ := equipped
  have learned : (p.handleRequest ctx t).pass.tracker.Records
      (log ++ [⟨ctx.objects.resolve t.message, t.message⟩]) := by
    rw [handleRequest_tracker ctx t applies]
    exact records.learns (p.tracker.observeClient_learns ⟨_, t.message⟩)
  obtain ⟨w, looked⟩ := handleRequest_synth synth ctx t applies
  obtain ⟨connection, starts⟩ := (s.noteConnection t.message.connection).checkReadiness_starts
    (p.handleRequest ctx t).pass.tracker ctx.now w
  refine ⟨learned, _, looked, fun is => ?_, fun _ => ?_⟩
  · exact (starts is).elim (fun earlier => (active earlier).append _)
      (Synthesizer.ready_of_isReady learned)
  · rw [connection]
    exact s.bound_noteConnection _

theorem Equipped.idle (equipped : p.Equipped log) (now : Nat) (w : World) :
    Equipped log (p.inject now w).1 := by
  have same := (p.inject_rests now w).records
  have tracker : (p.checkReadiness now w).1.tracker = p.tracker := by
    obtain ⟨_, looked⟩ := p.checkReadiness_eq now w
    rw [looked]
  obtain ⟨-, s, synth, active, bound⟩ := equipped.checkReadiness now w
  obtain ⟨phase, -, connection⟩ := s.tick_keeps now (p.checkReadiness now w).1.tracker
    (p.checkReadiness now w).2
  refine ⟨equipped.records.of_same same, _, p.inject_synth now w synth,
    fun is => active (phase ▸ is), fun known => ?_⟩
  rw [connection]
  rw [tracker] at bound
  exact bound (same.found ▸ known)

/-- The tick at an idle opportunity fails only on the way to the client. -/
theorem Equipped.tick (equipped : p.Equipped log) (now : Nat) (w : World) :
    ∃ tick, p.tick? now w = some tick ∧
      ∀ fault, tick.outcome = .error fault → ∃ reason, fault = .transport reason := by
  have looked := equipped.checkReadiness now w
  unfold tick?
  generalize p.checkReadiness now w = checked at looked
  obtain ⟨p', w'⟩ := checked
  obtain ⟨s, synth, -⟩ := looked.synth
  simp only at synth
  simp only [synth]
  refine ⟨_, rfl, fun fault failed =>
    Synthesizer.tick_transport (fun active connection bound gesture serial now => ?_) failed⟩
  obtain ⟨_, surface, pointer, keyboard, -, complete⟩ := looked.complete synth active
  obtain ⟨action, rest, built, -⟩ :=
    Synthesizer.materialize_complete complete gesture connection serial now
  exact ⟨_, built⟩

/-! ## Runs -/

variable [LoadSource σ]

inductive Hook where
  /-- The handler for one peer's messages, whichever peer the message is from. -/
  | handler (peer : Direction) (ctx : Context) (t : Transit)
  /-- The use of an idle opportunity. -/
  | idle (now : Nat) (i : Idle)

/-- What a hook shows of the client: a request that the pass is for, through the handler of
requests. -/
def shown? (p : Fuzz σ) : Hook → Option Seen
  | .handler .fromClient ctx t =>
    if p.appliesTo t.message then some ⟨ctx.objects.resolve t.message, t.message⟩ else none
  | _ => none

def hooked (σ : Type) [EventSource σ] [LoadSource σ] : Machine (Fuzz σ) Hook Seen where
  step
    | p, .handler peer ctx t => (Pass.handle peer ctx t p).pass
    | p, .idle now i => (Pass.rest now i p).1
  out p hook := (p.shown? hook).toList

/-- **One hook.** -/
theorem Equipped.step (equipped : p.Equipped log) (hook : Hook) :
    Equipped (log ++ (hooked σ).out p hook) ((hooked σ).step p hook) := by
  cases hook with
  | idle now i =>
      show Equipped (log ++ []) (p.inject now i.world.drained).1
      rw [List.append_nil]
      exact equipped.idle now i.world.drained
  | handler peer ctx t =>
      show Equipped (log ++ (p.shown? (.handler peer ctx t)).toList) (Pass.handle peer ctx t p).pass
      by_cases applies : p.appliesTo t.message = true
      · cases peer with
        | fromServer =>
            show Equipped (log ++ []) _
            rw [List.append_nil]
            exact equipped.event ctx { t with world := t.world.drained } applies
        | fromClient =>
            simp only [shown?, applies, if_true, Option.toList_some]
            exact equipped.request ctx { t with world := t.world.drained } applies
      · have nothing : p.shown? (.handler peer ctx t) = none := by
          cases peer <;> simp [shown?, applies]
        rw [nothing, handle_inapplicable (Bool.eq_false_iff.2 applies), Option.toList_none,
          List.append_nil]
        exact ⟨equipped.records, equipped.synth⟩

/-- **Only the way to the client makes synthesis fail.**  Take a pass with its options and any
source, and its hooks in any order, with any messages and any failures of the channels.

* If the synthesizer is active it is bound to a connection, and a surface, a pointer and a keyboard
  are known.  Then whatever gesture comes is made, at any moment and with any serial, into at least
  one message, each one well formed, from the server, and addressed to the pointer or the keyboard.
* The tick at an idle opportunity fails, if it does, on a write or a flush. -/
theorem only_transport_fails (made : Nat) (options : Options) (source : σ) (hooks : List Hook) :
    let p := (hooked σ).run ((create made).arm options source) hooks
    (p.phase = .active → ∃ s connection surface pointer keyboard, p.synth = some s ∧
      s.connection = some connection ∧ p.tracker.found.Complete surface pointer keyboard ∧
      ∀ gesture serial now, ∃ action rest,
        Synthesizer.materialize gesture connection p.tracker serial now = .ok (action :: rest) ∧
        ∀ m ∈ action :: rest, Synthesizer.Fit (Synthesizer.target gesture pointer keyboard) m) ∧
    ∀ now w, ∃ tick, p.tick? now w = some tick ∧
      ∀ fault, tick.outcome = .error fault → ∃ reason, fault = .transport reason := by
  intro p
  have equipped : Equipped _ p := (hooked σ).holds_after (fun p log => p.Equipped log)
    (.start made options source) (fun _ _ hook equipped => equipped.step hook) hooks
  refine ⟨fun active => ?_, equipped.tick⟩
  obtain ⟨s, synth, -⟩ := equipped.synth
  have active : s.phase = .active := by
    unfold phase at active
    rwa [synth] at active
  obtain ⟨connection, surface, pointer, keyboard, bound, complete⟩ := equipped.complete synth active
  exact ⟨s, connection, surface, pointer, keyboard, synth, bound, complete,
    fun gesture serial now =>
      Synthesizer.materialize_complete complete gesture connection serial now⟩

namespace Example

open Router.Example (leaving)

def hookOf : Call → Hook
  | .message ctx t => .handler t.message.direction ctx t
  | .idle now i => .idle now i

/-- The world of a client that nothing can be written to. -/
def broken : World :=
  .start (.failing (fun _ => some "broken pipe") fun _ => none) .reliable

/-- The client is ready when its first surface is committed; 50 ms later the pointer is to leave
that surface.  The leave is made into events for the first pointer, and when the client cannot be
written to, that is what the tick fails on. -/
theorem leave_fails_on_the_way :
    let p := (hooked Source).run waiting (committed.map hookOf)
    p.phase = .active ∧
      (∃ connection action rest,
        Synthesizer.materialize .leave connection p.tracker 1 50 = .ok (action :: rest) ∧
        ∀ m ∈ action :: rest, Synthesizer.Fit 13 m) ∧
      ∃ tick reason, p.tick? Synthesizer.settleDelay broken = some tick ∧
        tick.outcome = .error (.transport reason) := by
  intro p
  have active : p.phase = .active := by decide
  have found : p.tracker.found.pointer = some 13 := by decide
  have fails : (p.tick? Synthesizer.settleDelay broken).map (fun tick => tick.outcome.isOk) =
      some false := by decide
  obtain ⟨lacksNothing, ticks⟩ := only_transport_fails 0 demo leaving (committed.map hookOf)
  obtain ⟨s, connection, surface, pointer, keyboard, -, -, complete, materializes⟩ :=
    lacksNothing active
  obtain ⟨action, rest, built, fit⟩ := materializes .leave 1 50
  obtain ⟨tick, ticked, transport⟩ := ticks Synthesizer.settleDelay broken
  refine ⟨active, ⟨connection, action, rest, built, ?_⟩, tick, ?_⟩
  · cases complete.pointer.symm.trans found
    exact fit
  · rw [show p.tick? Synthesizer.settleDelay broken = some tick from ticked] at fails
    have fails : tick.outcome.isOk = false := Option.some.inj fails
    cases outcome : tick.outcome with
    | ok gesture =>
        rw [outcome] at fails
        cases fails
    | error fault =>
        obtain ⟨reason, rfl⟩ := transport fault outcome
        exact ⟨reason, ticked, rfl⟩

end Example

end Fuzz

end WaylandProxy
