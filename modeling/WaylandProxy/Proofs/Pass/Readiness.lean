/-
# Proofs.Pass.Readiness -- synthesis starts exactly when the client is ready

The requests that a fuzz pass has seen decide whether the client is ready (`Seen.Ready`): it has
a pointer and a keyboard, and its first surface is drawn.  A pass that is for its connection keeps
three things in step with those requests (`Fuzz.Attends`): what its tracker knows, the connection
that its synthesizer is bound to, and the synthesizer's phase.

Readiness is looked at after every request and at every idle opportunity.  A request that makes
the client ready is looked at right away, so no idle opportunity ever finds it ready and still
waiting (`Fuzz.Attends.checkReadiness_eq`), and a synthesizer that waits does nothing at all.
-/
import WaylandProxy.Proofs.Pass.LostCallback
import WaylandProxy.Proofs.Pass.SerialSequence
import WaylandProxy.Proofs.Serial.Discovery

namespace WaylandProxy

set_option autoImplicit false

open Seen

/-- The client has a pointer, a keyboard and a first surface that is drawn. -/
def Seen.Ready (log : List Seen) : Prop :=
  (first? "wl_seat" 0 log).isSome ∧ (first? "wl_seat" 1 log).isSome ∧ ∃ s, Drawn s log

/-- An id that is known stays, whatever is asked for later. -/
theorem Seen.first?_append_of_isSome {interface : String} {opcode : UInt16} {log : List Seen}
    (known : (first? interface opcode log).isSome) (more : List Seen) :
    first? interface opcode (log ++ more) = first? interface opcode log := by
  obtain ⟨id, is⟩ := Option.isSome_iff_exists.1 known
  rw [first?_append, is]
  rfl

theorem Seen.Ready.surface {log : List Seen} (ready : Ready log) :
    (first? "wl_compositor" 0 log).isSome := by
  obtain ⟨-, -, s, before, r, after, rfl, damaged, -⟩ := ready
  have known : (first? "wl_compositor" 0 before).isSome := by simp [damaged.first]
  rw [first?_append_of_isSome known]
  exact known

/-- A client that is ready stays so. -/
theorem Seen.Ready.append {log : List Seen} (ready : Ready log) (more : List Seen) :
    Ready (log ++ more) := by
  obtain ⟨pointer, keyboard, s, before, r, after, split, damaged, commits⟩ := ready
  refine ⟨?_, ?_, s, before, r, after ++ more, by simp [split], damaged, commits⟩
  · rwa [first?_append_of_isSome pointer]
  · rwa [first?_append_of_isSome keyboard]

/-- A connection that options are for. -/
def Options.Admits (options : Options) (connection : Connection) : Prop :=
  ∀ wanted ∈ options.program, connection.program = some wanted

namespace Synthesizer

variable {σ : Type} {s : Synthesizer σ} {options : Options} {log : List Seen}

/-- The synthesizer is bound to a connection that the options are for. -/
def Bound (s : Synthesizer σ) (options : Options) : Prop :=
  ∃ connection, s.connection = some connection ∧ options.Admits connection

theorem programMatches_of_bound (program : s.program = options.program) (bound : s.Bound options) :
    s.programMatches = true := by
  obtain ⟨connection, is, admits⟩ := bound
  unfold programMatches
  rw [is, program]
  cases wanted : options.program with
  | none => rfl
  | some name => exact decide_eq_true (admits name wanted)

/-- A synthesizer for options that is as far as the requests seen. -/
structure Poised (s : Synthesizer σ) (options : Options) (log : List Seen) : Prop where
  program : s.program = options.program
  armed : s.phase ≠ .notReady
  active : s.phase = .active ↔ Ready log

theorem ready_of_isReady {t : Tracker} (records : t.Records log) (ready : s.isReady t = true) :
    Ready log := by
  simp only [isReady, Bool.and_eq_true, records.pointer, records.keyboard, records.committed]
    at ready
  obtain ⟨⟨⟨pointer, keyboard⟩, drawn⟩, -⟩ := ready
  exact ⟨pointer, keyboard, drawn⟩

/-- A synthesizer that is bound finds all that the requests say. -/
theorem isReady_of_ready {t : Tracker} (program : s.program = options.program)
    (bound : s.Bound options) (records : t.Records log) (ready : Ready log) :
    s.isReady t = true := by
  obtain ⟨pointer, keyboard, drawn⟩ := ready
  simp only [isReady, Bool.and_eq_true, records.pointer, records.keyboard, records.committed]
  exact ⟨⟨⟨pointer, keyboard⟩, drawn⟩, programMatches_of_bound program bound⟩

/-- **Looking at readiness** brings a synthesizer that is bound as far as the tracker. -/
theorem checkReadiness_poised [EventSource σ] {t : Tracker} (program : s.program = options.program)
    (armed : s.phase ≠ .notReady) (earlier : s.phase = .active → Ready log)
    (bound : s.Bound options) (records : t.Records log) (now : Nat) (w : World) :
    (s.checkReadiness t now w).1.Poised options log ∧
      (s.checkReadiness t now w).1.Bound options := by
  unfold checkReadiness
  split
  · rename_i waits
    exact ⟨⟨program, nofun, fun _ => ready_of_isReady records waits.2, fun _ => rfl⟩, bound⟩
  · rename_i other
    refine ⟨⟨program, armed, earlier, fun ready => ?_⟩, bound⟩
    cases phase : s.phase with
    | notReady => exact absurd phase armed
    | waiting => exact absurd ⟨phase, isReady_of_ready program bound records ready⟩ other
    | active => rfl

/-- A synthesizer that is as far as the tracker has nothing to look at. -/
theorem Poised.checkReadiness_eq [EventSource σ] {t : Tracker} (poised : s.Poised options log)
    (records : t.Records log) (now : Nat) (w : World) : s.checkReadiness t now w = (s, w) := by
  refine if_neg fun both => ?_
  have active := poised.active.2 (ready_of_isReady records both.2)
  cases both.1.symm.trans active

theorem tick_keeps [EventSource σ] (s : Synthesizer σ) (now : Nat) (t : Tracker) (w : World) :
    (s.tick now t w).synth.phase = s.phase ∧ (s.tick now t w).synth.program = s.program ∧
      (s.tick now t w).synth.connection = s.connection := by
  have ticked := s.tick_ticked now t w
  generalize s.tick now t w = done at ticked
  cases ticked <;> exact ⟨rfl, rfl, rfl⟩

end Synthesizer

namespace Fuzz

variable {σ : Type} {p : Fuzz σ} {options : Options} {log : List Seen}

/-- A pass for options that is as far as the requests seen: so is its tracker, and so is its
synthesizer, which is bound to a connection once the first message has decided. -/
structure Attends (options : Options) (log : List Seen) (p : Fuzz σ) : Prop where
  configured : p.options = some options
  records : p.tracker.Records log
  synth : ∃ s, p.synth = some s ∧ s.Poised options log ∧
    (p.applies = none ∧ s.connection = none ∧ log = [] ∨
      p.applies = some true ∧ s.Bound options)

theorem Attends.start (made : Nat) (options : Options) (source : σ) :
    Attends options [] ((create made).arm options source) where
  configured := rfl
  records := .start made
  synth := ⟨_, rfl, ⟨rfl, nofun, nofun, fun ready => nomatch ready.1⟩, .inl ⟨rfl, rfl, rfl⟩⟩

/-! ## One call -/

theorem Attends.phase_iff (attends : p.Attends options log) : p.phase = .active ↔ Ready log := by
  obtain ⟨-, -, s, synth, poised, -⟩ := attends
  rw [← poised.active]
  unfold phase
  rw [synth]
  rfl

theorem follow_request {resolved : Option Resolved} {m : Message} (applies : p.appliesTo m = true)
    (client : m.direction = .fromClient) (now : Nat) :
    p.follow resolved m now = p.tracker.observeClient resolved m := by
  have kept : p.drops resolved m = false := by simp [drops, client]
  rw [follow_seen applies kept]
  unfold Tracker.observe
  rw [client]

/-- An event is seen by the tracker as it is, or it is kept back. -/
theorem follow_event {resolved : Option Resolved} {m : Message} (applies : p.appliesTo m = true)
    (server : m.direction = .fromServer) (now : Nat) :
    p.follow resolved m now =
      if p.keepsBack resolved then p.tracker.pass m
      else p.tracker.observeServer resolved m now := by
  have drops : p.drops resolved m = p.keepsBack resolved := by simp [Fuzz.drops, applies, server]
  split
  · rename_i back
    exact follow_dropped (drops.trans back)
  · rename_i open_
    rw [follow_seen applies (drops.trans (Bool.eq_false_iff.2 open_))]
    unfold Tracker.observe
    rw [server]

/-- An event shows the connection to the synthesizer. -/
theorem handleEvent_synth {s : Synthesizer σ} (synth : p.synth = some s) (ctx : Context)
    (t : Transit) (applies : p.appliesTo t.message = true) :
    (p.handleEvent ctx t).pass.synth = some (s.noteConnection t.message.connection) := by
  rw [handleEvent_eq]
  simp only [applies, if_true]
  split <;> simp [noteConnection, synth]

/-- A request shows the connection to the synthesizer, which then looks at what the tracker
knows. -/
theorem handleRequest_synth [EventSource σ] {s : Synthesizer σ} (synth : p.synth = some s)
    (ctx : Context) (t : Transit) (applies : p.appliesTo t.message = true) :
    ∃ w, (p.handleRequest ctx t).pass.synth =
      some ((s.noteConnection t.message.connection).checkReadiness
        (p.handleRequest ctx t).pass.tracker ctx.now w).1 := by
  rw [handleRequest_eq]
  simp only [applies, if_true, noteConnection, synth, Option.map_some, checkReadiness]
  exact ⟨_, rfl⟩

/-- The pass applies to a message, and binds its synthesizer to a connection that the options
are for, if the connection of the first message is one. -/
theorem Attends.bound (attends : p.Attends options log) {m : Message}
    (meant : p.applies = none → options.Admits m.connection) :
    p.appliesTo m = true ∧ ∃ s, p.synth = some s ∧
      (s.noteConnection m.connection).Poised options log ∧
      (s.noteConnection m.connection).Bound options := by
  obtain ⟨configured, -, s, synth, ⟨program, armed, active⟩, stands⟩ := attends
  have poised : (s.noteConnection m.connection).Poised options log := ⟨program, armed, active⟩
  unfold Synthesizer.Bound
  obtain ⟨undecided, unbound, -⟩ | ⟨decided, connection, is, admits⟩ := stands
  · exact ⟨appliesTo_of_program configured undecided (meant undecided), s, synth, poised, _,
      by simp [Synthesizer.noteConnection, unbound], meant undecided⟩
  · refine ⟨?_, s, synth, poised, connection, by simp [Synthesizer.noteConnection, is], admits⟩
    unfold appliesTo
    rw [decided]
    rfl

/-- An event of the server leaves the pass where the requests have brought it. -/
theorem Attends.event (attends : p.Attends options log) (ctx : Context) (t : Transit)
    (meant : p.applies = none → options.Admits t.message.connection)
    (server : t.message.direction = .fromServer) :
    Attends options log (p.handleEvent ctx t).pass := by
  obtain ⟨applies, s, synth, poised, bound⟩ := attends.bound meant
  obtain ⟨tracker, options', decided⟩ := (p.handleEvent_follows ctx t server).followed
  have same : p.tracker.SameRecords (p.handleEvent ctx t).pass.tracker := by
    rw [tracker, follow_event applies server]
    split
    · exact .refl _
    · exact p.tracker.observeServer_records _ _ _
  exact ⟨options'.trans attends.configured, attends.records.of_same same, _,
    handleEvent_synth synth ctx t applies, poised, .inr ⟨applies ▸ decided, bound⟩⟩

theorem Attends.request [EventSource σ] (attends : p.Attends options log) (ctx : Context)
    (t : Transit) (meant : p.applies = none → options.Admits t.message.connection)
    (client : t.message.direction = .fromClient) :
    Attends options (log ++ [⟨ctx.objects.resolve t.message, t.message⟩])
      (p.handleRequest ctx t).pass := by
  obtain ⟨applies, s, synth, poised, bound⟩ := attends.bound meant
  obtain ⟨tracker, options', decided⟩ := (p.handleRequest_follows ctx t client).followed
  have learns : p.tracker.Learns ⟨ctx.objects.resolve t.message, t.message⟩
      (p.handleRequest ctx t).pass.tracker := by
    rw [tracker, follow_request applies client]
    exact p.tracker.observeClient_learns ⟨ctx.objects.resolve t.message, t.message⟩
  have records := attends.records.learns learns
  obtain ⟨w, looked⟩ := handleRequest_synth synth ctx t applies
  obtain ⟨poised', bound'⟩ := Synthesizer.checkReadiness_poised poised.program poised.armed
    (fun active => (poised.active.1 active).append _) bound records ctx.now w
  exact ⟨options'.trans attends.configured, records, _, looked, poised',
    .inr ⟨applies ▸ decided, bound'⟩⟩

/-- A pass that attends has nothing to look at. -/
theorem Attends.checkReadiness_eq [EventSource σ] (attends : p.Attends options log) (now : Nat)
    (w : World) : p.checkReadiness now w = (p, w) := by
  obtain ⟨-, records, s, synth, poised, -⟩ := attends
  obtain ⟨_, _, _, _, _⟩ := p
  cases synth
  unfold checkReadiness
  simp only [poised.checkReadiness_eq records]

/-- An idle opportunity teaches a pass nothing that readiness asks for. -/
theorem Rested.records {after : Fuzz σ} (rested : p.Rested after) :
    p.tracker.SameRecords after.tracker := by
  obtain same | issued := rested.tracker
  · rw [same]
    exact .refl _
  · rw [issued]
    exact ⟨rfl, rfl, rfl⟩

/-- **An idle opportunity** changes nothing that the requests decide, and while the synthesizer
waits neither the tracker nor the world. -/
theorem Attends.idle [EventSource σ] (attends : p.Attends options log) (now : Nat) (w : World) :
    Attends options log (p.inject now w).1 ∧
      (p.phase ≠ .active → (p.inject now w).1.tracker = p.tracker ∧ (p.inject now w).2 = w) := by
  have nothing := attends.checkReadiness_eq now w
  have rested := p.inject_rests now w
  obtain ⟨configured, records, s, synth, ⟨program, armed, active⟩, stands⟩ := attends
  obtain ⟨phase, program', connection⟩ := s.tick_keeps now p.tracker w
  have ticked := p.inject_synth now w (by rw [nothing]; exact synth)
  rw [nothing] at ticked
  refine ⟨⟨rested.options.trans configured, records.of_same rested.records, _, ticked,
    ⟨program'.trans program, phase ▸ armed, phase ▸ active⟩, ?_⟩, fun waits => ?_⟩
  · unfold Synthesizer.Bound
    rw [rested.applies, connection]
    exact stands
  · have asleep : s.tick now p.tracker w = ⟨s, p.tracker, w, .ok none⟩ := by
      refine if_pos fun is => waits ?_
      unfold Fuzz.phase
      rw [synth]
      exact is
    unfold inject
    simp [nothing, synth, asleep, settle]

/-! ## Runs -/

variable [EventSource σ] [LoadSource σ]

inductive Call where
  /-- Handle a message of the peer that it comes from. -/
  | message (ctx : Context) (t : Transit)
  /-- Use an idle opportunity. -/
  | idle (now : Nat) (i : Idle)

def request? (ctx : Context) (t : Transit) : Option Seen :=
  if t.message.direction = .fromClient then some ⟨ctx.objects.resolve t.message, t.message⟩
  else none

/-- A pass under calls, and the requests that it sees, each with what its object was then. -/
def machine (σ : Type) [EventSource σ] [LoadSource σ] : Machine (Fuzz σ) Call Seen where
  step
    | p, .message ctx t => (Pass.handle t.message.direction ctx t p).pass
    | p, .idle now i => (Pass.rest now i p).1
  out
    | _, .message ctx t => (request? ctx t).toList
    | _, .idle .. => []

def messages : List Call → List Message
  | [] => []
  | .message _ t :: rest => t.message :: messages rest
  | .idle .. :: rest => messages rest

/-- **One call.**  If it brings the first message, its connection is one that the options are
for. -/
theorem Attends.step (attends : p.Attends options log) (call : Call)
    (meant : p.applies = none →
      ∀ first ∈ (messages [call]).head?, options.Admits first.connection) :
    Attends options (log ++ (machine σ).out p call) ((machine σ).step p call) := by
  cases call with
  | idle now i =>
      show Attends options (log ++ []) (p.inject now i.world.drained).1
      rw [List.append_nil]
      exact (attends.idle now i.world.drained).1
  | message ctx t =>
      have meant' : p.applies = none → options.Admits t.message.connection :=
        fun undecided => meant undecided _ rfl
      show Attends options (log ++ (request? ctx t).toList)
        (Pass.handle t.message.direction ctx t p).pass
      cases direction : t.message.direction with
      | fromServer =>
          have none : (request? ctx t).toList = [] := by simp [request?, direction]
          rw [none, List.append_nil]
          exact attends.event ctx { t with world := t.world.drained } meant' direction
      | fromClient =>
          have one : (request? ctx t).toList = [⟨ctx.objects.resolve t.message, t.message⟩] := by
            simp [request?, direction]
          rw [one]
          exact attends.request ctx { t with world := t.world.drained } meant' direction

/-- **A whole run.** -/
theorem Attends.run (attends : p.Attends options log) (calls : List Call)
    (meant : p.applies = none → ∀ first ∈ (messages calls).head?, options.Admits first.connection) :
    Attends options (log ++ (machine σ).outputs p calls) ((machine σ).run p calls) := by
  induction calls generalizing p log with
  | nil => simpa using attends
  | cons call rest ih =>
      cases call with
      | idle now i =>
          have next := attends.step (.idle now i) (fun _ first none => nomatch none)
          have same : ((machine σ).step p (.idle now i)).applies = p.applies :=
            (p.inject_rests now i.world.drained).applies
          simpa [List.append_assoc] using ih next (same ▸ meant)
      | message ctx t =>
          have next := attends.step (.message ctx t)
            (fun undecided first is => meant undecided first is)
          -- the first message decides for whom the pass is, so nothing is asked of the later ones
          have decided : ((machine σ).step p (.message ctx t)).applies ≠ none := by
            rw [show ((machine σ).step p (.message ctx t)).applies = _ from
              (p.handle_follows ctx t).followed.applies]
            nofun
          simpa [List.append_assoc] using ih next (fun undecided => absurd undecided decided)

/-- **Synthesis starts exactly when the client is ready.**  Take a pass with its options and a
source, and any calls whose first message, if there is one, is of a connection that the options
are for.

* The synthesizer is active exactly if the requests seen so far make the client ready.
* The objects found are those of the first requests that carried an id.
* Once active, it is active after any more calls, and the objects found are the same.
* As long as it is not, no message makes an attempt to write to the client or to flush it, and it
  does to the tracker what observing it does; and an idle opportunity leaves the world and the
  tracker, and with it the next serial, as they were. -/
theorem active_iff_ready (made : Nat) (options : Options) (source : σ) (calls : List Call)
    (meant : ∀ first ∈ (messages calls).head?, options.Admits first.connection) :
    let start := (create made).arm options source
    let p := (machine σ).run start calls
    let log := (machine σ).outputs start calls
    (p.phase = .active ↔ Ready log) ∧
    p.tracker.found =
      ⟨first? "wl_compositor" 0 log, first? "wl_seat" 0 log, first? "wl_seat" 1 log⟩ ∧
    (p.phase = .active → ∀ more, ((machine σ).run p more).phase = .active ∧
      ((machine σ).run p more).tracker.found = p.tracker.found) ∧
    (p.phase ≠ .active →
      (∀ ctx t, (Pass.handle t.message.direction ctx t p).transit.world.traffic = t.world.traffic ∧
        (Pass.handle t.message.direction ctx t p).pass.tracker =
          (p.follow (ctx.objects.resolve t.message) t.message ctx.now).tracker) ∧
      ∀ now i, (Pass.rest now i p).2.world = i.world ∧
        (Pass.rest now i p).1.tracker = p.tracker) := by
  intro start p log
  have attends : Attends options log p := by
    have kept := (Attends.start made options source).run calls (fun _ => meant)
    simpa using kept
  have found {p : Fuzz σ} {log : List Seen} (attends : p.Attends options log) : p.tracker.found =
      ⟨first? "wl_compositor" 0 log, first? "wl_seat" 0 log, first? "wl_seat" 1 log⟩ := by
    obtain ⟨surface, pointer, keyboard, -, -⟩ := attends.records
    rw [← surface, ← pointer, ← keyboard]
  refine ⟨attends.phase_iff, found attends, fun active more => ?_, fun waits => ⟨?_, ?_⟩⟩
  · have ready := attends.phase_iff.1 active
    have decided : p.applies ≠ none := by
      obtain ⟨-, -, s, -, -, ⟨-, -, empty⟩ | ⟨decided, -⟩⟩ := attends
      · rw [empty] at ready
        cases ready.1
      · rw [decided]
        nofun
    have later := attends.run more (fun undecided => absurd undecided decided)
    refine ⟨later.phase_iff.2 (ready.append _), ?_⟩
    rw [found later, found attends, first?_append_of_isSome ready.surface,
      first?_append_of_isSome ready.1, first?_append_of_isSome ready.2.1]
  · intro ctx t
    exact ⟨(p.handle_took ctx t).traffic, (p.handle_follows ctx t).followed.tracker⟩
  · intro now i
    obtain ⟨tracker, world⟩ := (attends.idle now i.world.drained).2 waits
    refine ⟨?_, tracker⟩
    show i.world.after (p.inject now i.world.drained).2 = i.world
    rw [world, World.after_drained]

namespace Example

open Router.Example (leaving)

/-- A pass for the program that the connection below is of. -/
def demo : Options :=
  { Router.Example.options with program := some "demo-client" }

/-- A request of the program, to a compositor, a seat and two surfaces. -/
def ask (object opcode : UInt32) (args : List UInt32) : Call :=
  .message ⟨⟨[(4, "wl_compositor"), (7, "wl_seat"), (12, "wl_surface"), (21, "wl_surface")]⟩, 0⟩
    ⟨{ Message.Example.message .fromClient object opcode args with
        connection := ⟨1, some "demo-client"⟩ },
      false, false, .start .reliable .reliable⟩

/-- The second surface is drawn; the first one is committed before it is damaged, and then its
buffer is damaged. -/
def almost : List Call :=
  [ask 4 0 [12], ask 4 0 [21], ask 21 2 [0, 0, 64, 64], ask 21 6 [], ask 12 6 [],
    ask 12 9 [0, 0, 64, 64], ask 7 1 [14], .idle 0 ⟨false, .start .reliable .reliable⟩,
    ask 7 0 [13], ask 7 0 [22]]

/-- The commit of the first surface that was missing. -/
def committed : List Call :=
  almost ++ [ask 12 6 []]

abbrev waiting : Fuzz Source :=
  (create 0).arm demo leaving

/-- Only the commit of the first surface was missing; with it the synthesizer starts, for the
first surface and the first pointer. -/
theorem commit_starts_synthesis :
    (∀ first ∈ (messages committed).head?, demo.Admits first.connection) ∧
      ((machine Source).run waiting almost).phase = .waiting ∧
      ((machine Source).run waiting committed).phase = .active ∧
      Ready ((machine Source).outputs waiting committed) ∧
      first? "wl_seat" 0 ((machine Source).outputs waiting committed) = some 13 ∧
      ((machine Source).run waiting committed).tracker.found = ⟨some 12, some 13, some 14⟩ ∧
      ∀ more, ((machine Source).run ((machine Source).run waiting committed) more).phase =
        .active := by
  have meant : ∀ first ∈ (messages committed).head?, demo.Admits first.connection := by
    intro first is wanted program
    cases is
    cases program
    rfl
  have active : ((machine Source).run waiting committed).phase = .active := by decide
  have found : ((machine Source).run waiting committed).tracker.found =
      ⟨some 12, some 13, some 14⟩ := by decide
  obtain ⟨ready, firsts, stays, -⟩ := active_iff_ready 0 demo leaving committed meant
  have pointer := (Discovered.mk.inj (firsts.symm.trans found)).2.1
  exact ⟨meant, by decide, active, ready.1 active, pointer, found,
    fun more => (stays active more).1⟩

end Example

end Fuzz

end WaylandProxy
