/-
# Proofs.Input.Injector -- a synthesizer at work on one connection

An injector is a synthesizer with the tracker whose serials it takes and the world it
writes to.  It is driven by observations of both peers and by ticks at any time, over
channels that fail in any pattern.

A tick that got more through to the client than was pending began a gesture; the `Firing`
says which, and at which tracker and time, and is what the machine gives out.  `Emits` is what
a move does to all that was written and all that is pending: nothing but moving the line
between the two, or putting one more group at the end (`step_emits`).  Every move but a tick is
`Quiet` and does neither.
-/
import WaylandProxy.Proofs.Input.Stream
import WaylandProxy.Proofs.Input.Tick
import WaylandProxy.Proofs.Machine

namespace WaylandProxy

set_option autoImplicit false

/-- A synthesizer, the tracker it takes serials from, and the world it writes to. -/
structure Injector (σ : Type) where
  synth : Synthesizer σ
  tracker : Tracker
  world : World

/-- A gesture whose action was written, with the tracker and the time of the tick that
wrote it. -/
structure Firing where
  event : Scheduled
  connection : Connection
  tracker : Tracker
  now : Nat

namespace Firing

def serial (f : Firing) : UInt32 :=
  f.tracker.nextSerial

def built (f : Firing) : Except Fault (List Message) :=
  Synthesizer.materialize f.event.gesture f.connection f.tracker f.serial f.now

def messages (f : Firing) : List Message :=
  f.built.toOption.getD []

theorem messages_of_built {f : Firing} {messages : List Message} (built : f.built = .ok messages) :
    f.messages = messages := by
  simp [Firing.messages, built, Except.toOption]

end Firing

namespace Injector

variable {σ : Type}

inductive Move where
  /-- Observe a message of the server. -/
  | server (resolved : Option Resolved) (m : Message) (now : Nat)
  /-- Observe a message of the client. -/
  | client (resolved : Option Resolved) (m : Message)
  /-- Start watching for the client to be ready. -/
  | arm
  /-- Bind to a connection. -/
  | bind (connection : Connection)
  /-- Become active if the client is ready. -/
  | check (now : Nat)
  /-- Do what is due. -/
  | tick (now : Nat)

def start (source : σ) (program : Option String) (verbose : Bool) (made : Nat)
    (client server : Channel) : Injector σ :=
  ⟨.create source program verbose, .start made, .start client server⟩

def pendingBytes (i : Injector σ) : List (List UInt8) :=
  i.synth.pending.map Message.toBytes

/-- The bytes that reached the client. -/
def written (i : Injector σ) : List (List UInt8) :=
  delivered i.world.traffic

/-- Take what an observation leaves of the tracker, and its report. -/
def observed (i : Injector σ) (seen : Observed) : Injector σ :=
  { i with tracker := seen.tracker, world := i.world.report seen.report }

variable [EventSource σ]

def step (i : Injector σ) : Move → Injector σ
  | .server resolved m now => i.observed (i.tracker.observeServer resolved m now)
  | .client resolved m => i.observed (i.tracker.observeClient resolved m)
  | .arm => { i with synth := i.synth.arm }
  | .bind connection => { i with synth := i.synth.noteConnection connection }
  | .check now =>
    let (synth, world) := i.synth.checkReadiness i.tracker now i.world
    { i with synth := synth, world := world }
  | .tick now =>
    let ticked := i.synth.tick now i.tracker i.world
    ⟨ticked.synth, ticked.tracker, ticked.world⟩

def outcome (i : Injector σ) (now : Nat) : Except Fault (Option Gesture) :=
  (i.synth.tick now i.tracker i.world).outcome

/-- The gesture that a tick began which left the world like this: the one shown, if more got
through than was pending. -/
def begun? (i : Injector σ) (now : Nat) (after : World) : Option Firing :=
  if i.written.length + i.synth.pending.length < (delivered after.traffic).length then
    (EventSource.current i.synth.source).1.bind fun event =>
      i.synth.connection.map fun connection => ⟨event, connection, i.tracker, now⟩
  else none

/-- The gesture that a move began. -/
def firing? (i : Injector σ) : Move → Option Firing
  | .tick now => i.begun? now (i.step (.tick now)).world
  | _ => none

/-- The injector as a machine that gives out the gestures it began. -/
def machine (σ : Type) [EventSource σ] : Machine (Injector σ) Move Firing where
  step := step
  out i move := (i.firing? move).toList

end Injector

/-! ## What a tick emits -/

namespace Synthesizer

theorem Written.delivered_eq {connection : Connection} {now : Nat} {m : Message}
    {before after : World} {fault : Option Fault}
    (written : Written connection now m before after fault) :
    delivered after.traffic =
      delivered before.traffic ++ (if fault.isSome then [] else [m.toBytes]) ∧
      after.metrics = before.metrics := by
  cases written with
  | sent traffic metrics =>
      refine ⟨?_, metrics⟩
      simp [traffic, Message.sent, Note.delivered?]
  | refused reason traffic metrics =>
      refine ⟨?_, metrics⟩
      simp [traffic, Note.delivered?]

/-- Settling moves the line between what was written and what is pending. -/
theorem Settled.delivered_append {connection : Connection} {now : Nat}
    {pending left : List Message} {before after : World} {fault : Option Fault}
    (settled : Settled connection now pending before after left fault) :
    delivered after.traffic ++ left.map Message.toBytes =
      delivered before.traffic ++ pending.map Message.toBytes ∧
      left <:+ pending ∧ after.metrics = before.metrics := by
  cases settled with
  | flushed traffic metrics =>
      refine ⟨?_, List.nil_suffix, metrics⟩
      simp [traffic, delivered_sent, Note.delivered?]
  | unflushed reason traffic metrics =>
      refine ⟨?_, List.nil_suffix, metrics⟩
      simp [traffic, delivered_sent, Note.delivered?]
  | refused sent m rest reason split traffic metrics =>
      refine ⟨?_, ⟨sent, split.symm⟩, metrics⟩
      simp [traffic, delivered_sent, split, Note.delivered?]

/-- What was pending is delivered once it is out of the way. -/
theorem Cleared.delivered_eq {connection : Connection} {now : Nat} {pending : List Message}
    {before after : World} (cleared : Cleared connection now pending before after) :
    delivered after.traffic = delivered before.traffic ++ pending.map Message.toBytes ∧
      after.metrics = before.metrics := by
  cases cleared with
  | nothing empty => simp [empty]
  | settled _ some settled =>
      obtain ⟨written, -, metrics⟩ := settled.delivered_append
      exact ⟨by simpa using written, metrics⟩

/-- With a gesture begun more got through than was pending, whatever became of the rest of
it. -/
theorem delivered_more {connection : Connection} {now : Nat} {pending rest left : List Message}
    {action : Message} {change : Metrics → Metrics} {before middle begun after : World}
    {fault : Option Fault} (cleared : Cleared connection now pending before middle)
    (written : Written connection now action middle begun none)
    (settled : Settled connection now rest (begun.count change) after left fault) :
    delivered after.traffic ++ left.map Message.toBytes =
        delivered before.traffic ++ pending.map Message.toBytes ++
          (action :: rest).map Message.toBytes ∧
      (delivered before.traffic).length + pending.length < (delivered after.traffic).length := by
  obtain ⟨first, -⟩ := cleared.delivered_eq
  obtain ⟨second, -⟩ := written.delivered_eq
  obtain ⟨others, suffix, -⟩ := settled.delivered_append
  simp only [Option.isSome_none, Bool.false_eq_true, if_false] at second
  rw [World.traffic_count, second, first] at others
  refine ⟨others.trans (by simp), ?_⟩
  have lengths := congrArg List.length others
  have kept := suffix.length_le
  simp only [List.length_append, List.length_map, List.length_cons, List.length_nil] at lengths
  omega

end Synthesizer

namespace Injector

variable {σ : Type} [EventSource σ]

/-- What a move does to all that was written and is pending. -/
inductive Emits (before after : Injector σ) : Option Firing → Prop where
  /-- Of what was pending some may have been written, and the source may have been looked at. -/
  | nothing
      (written : after.written ++ after.pendingBytes = before.written ++ before.pendingBytes)
      (pending : after.synth.pending <:+ before.synth.pending)
      (source : after.synth.source = before.synth.source ∨
        after.synth.source = (EventSource.current before.synth.source).2)
      (counts : after.world.metrics.synthesized = before.world.metrics.synthesized) :
      Emits before after none
  /-- All that was pending was written, and then the action of the gesture shown. -/
  | fired (f : Firing)
      (shown : (EventSource.current before.synth.source).1 = some f.event)
      (connection : before.synth.connection = some f.connection)
      (tracker : before.tracker = f.tracker) (action : Message) (rest : List Message)
      (built : f.built = .ok (action :: rest))
      (written : after.written ++ after.pendingBytes =
        before.written ++ before.pendingBytes ++ f.messages.map Message.toBytes)
      (pending : after.synth.pending <:+ rest)
      (source : after.synth.source = (EventSource.current
        (EventSource.advance (EventSource.current before.synth.source).2)).2)
      (counts : after.world.metrics.synthesized =
        before.world.metrics.synthesized.increment [("kind", f.event.gesture.label)]) :
      Emits before after (some f)

/-- Where no more got through than was pending, no gesture began. -/
theorem emits_nothing {i after : Injector σ} {now : Nat}
    (written : after.written ++ after.pendingBytes = i.written ++ i.pendingBytes)
    (pending : after.synth.pending <:+ i.synth.pending)
    (source : after.synth.source = i.synth.source ∨
      after.synth.source = (EventSource.current i.synth.source).2)
    (counts : after.world.metrics.synthesized = i.world.metrics.synthesized) :
    Emits i after (i.begun? now after.world) := by
  have lengths := congrArg List.length written
  simp only [List.length_append, pendingBytes, List.length_map] at lengths
  have none : i.begun? now after.world = none := by
    refine if_neg ?_
    show ¬ i.written.length + i.synth.pending.length < after.written.length
    omega
  rw [none]
  exact .nothing written pending source counts

/-- A tick that wrote the action of the gesture shown began that gesture. -/
theorem begun?_of_fired (i : Injector σ) {now : Nat} {connection : Connection} {event : Scheduled}
    {action : Message} {rest left : List Message} {middle begun after : World}
    {change : Metrics → Metrics} {fault : Option Fault}
    (cleared : Synthesizer.Cleared connection now i.synth.pending i.world middle)
    (shown : (EventSource.current i.synth.source).1 = some event)
    (bound : i.synth.connection = some connection)
    (written : Synthesizer.Written connection now action middle begun none)
    (settled : Synthesizer.Settled connection now rest (begun.count change) after left fault) :
    i.begun? now after = some ⟨event, connection, i.tracker, now⟩ := by
  obtain ⟨-, more⟩ := Synthesizer.delivered_more cleared written settled
  refine (if_pos more).trans ?_
  rw [shown, bound]
  rfl

/-- What a tick emits: it moves the line between what was written and what is pending, and
the gesture that it began, if any, is put at the end. -/
theorem tick_emits (i : Injector σ) (now : Nat) :
    Emits i (i.step (.tick now)) (i.firing? (.tick now)) := by
  have ticked := i.synth.tick_ticked now i.tracker i.world
  show Emits i
    ⟨(i.synth.tick now i.tracker i.world).synth, (i.synth.tick now i.tracker i.world).tracker,
      (i.synth.tick now i.tracker i.world).world⟩
    (i.begun? now (i.synth.tick now i.tracker i.world).world)
  generalize i.synth.tick now i.tracker i.world = done at ticked ⊢
  cases ticked with
  | asleep unable => exact emits_nothing rfl List.suffix_rfl (.inl rfl) rfl
  | stalled connection active bound waiting left fault after settled =>
      obtain ⟨written, rest, metrics⟩ := settled.delivered_append
      exact emits_nothing written rest (.inl rfl) (congrArg Metrics.synthesized metrics)
  | early connection active bound after cleared due next before =>
      obtain ⟨written, metrics⟩ := cleared.delivered_eq
      exact emits_nothing ((List.append_nil _).trans written) List.nil_suffix (.inl rfl)
        (congrArg Metrics.synthesized metrics)
  | dry connection active bound middle after cleared due empty traffic metrics =>
      obtain ⟨written, metrics'⟩ := cleared.delivered_eq
      rw [← traffic] at written
      exact emits_nothing ((List.append_nil _).trans written) List.nil_suffix (.inr rfl)
        (congrArg Metrics.synthesized (metrics.trans metrics'))
  | unbuildable connection active bound after cleared due event shown fault failed =>
      obtain ⟨written, metrics⟩ := cleared.delivered_eq
      exact emits_nothing ((List.append_nil _).trans written) List.nil_suffix (.inr rfl)
        (congrArg Metrics.synthesized metrics)
  | refused connection active bound middle after cleared due event shown action rest built fault
      attempt =>
      obtain ⟨written, metrics⟩ := cleared.delivered_eq
      obtain ⟨nothing, metrics'⟩ := attempt.delivered_eq
      simp only [Option.isSome_some, if_true, List.append_nil] at nothing
      rw [← nothing] at written
      exact emits_nothing ((List.append_nil _).trans written) List.nil_suffix (.inr rfl)
        (congrArg Metrics.synthesized (metrics'.trans metrics))
  | fired connection active bound middle begun after cleared due event shown action rest built
      attempt left fault settled =>
      obtain ⟨-, metrics⟩ := cleared.delivered_eq
      obtain ⟨-, metrics'⟩ := attempt.delivered_eq
      obtain ⟨-, suffix, metrics''⟩ := settled.delivered_append
      obtain ⟨written, -⟩ := Synthesizer.delivered_more cleared attempt settled
      let f : Firing := ⟨event, connection, i.tracker, now⟩
      have messages : f.messages = action :: rest := Firing.messages_of_built built
      rw [i.begun?_of_fired cleared shown bound attempt settled]
      refine .fired f shown bound rfl action rest built ?_ suffix rfl ?_
      · rw [messages]
        exact written
      · rw [metrics'', ← metrics, ← metrics']
        rfl

/-- What a move leaves alone that is no tick: what was written and is pending, and the
readiness of the synthesizer once it is there. -/
structure Quiet (before after : Injector σ) : Prop where
  traffic : after.world.traffic = before.world.traffic
  pending : after.synth.pending = before.synth.pending
  source : after.synth.source = before.synth.source ∨
    after.synth.source = (EventSource.current before.synth.source).2
  counts : after.world.metrics.synthesized = before.world.metrics.synthesized
  active : before.synth.phase = .active → after.synth.phase = .active
  bound : before.synth.connection.isSome → after.synth.connection.isSome

theorem observed_quiet (i : Injector σ) (seen : Observed) : Quiet i (i.observed seen) where
  traffic := World.traffic_report _ _
  pending := rfl
  source := .inl rfl
  counts := by
    unfold observed World.report
    cases seen.report with
    | none => rfl
    | some report => cases report <;> rfl
  active := id
  bound := id

/-- Every move but a tick is quiet. -/
theorem step_quiet (i : Injector σ) (move : Move) (other : ∀ now, move ≠ .tick now) :
    Quiet i (i.step move) := by
  cases move with
  | server resolved m now => exact observed_quiet i _
  | client resolved m => exact observed_quiet i _
  | arm =>
      have armed : i.synth.arm = i.synth ∨
          i.synth.phase = .notReady ∧ i.synth.arm = { i.synth with phase := .waiting } := by
        unfold Synthesizer.arm
        split
        · rename_i notReady
          exact .inr ⟨notReady, rfl⟩
        · exact .inl rfl
      show Quiet i { i with synth := i.synth.arm }
      obtain same | ⟨notReady, waits⟩ := armed
      · rw [same]
        exact ⟨rfl, rfl, .inl rfl, rfl, id, id⟩
      · rw [waits]
        have never : i.synth.phase ≠ .active := by simp [notReady]
        exact ⟨rfl, rfl, .inl rfl, rfl, fun active => absurd active never, id⟩
  | bind connection =>
      refine ⟨rfl, rfl, .inl rfl, rfl, id, fun bound => ?_⟩
      obtain ⟨first, already⟩ := Option.isSome_iff_exists.1 bound
      simp [step, Synthesizer.noteConnection, already]
  | check now =>
      show Quiet i { i with
        synth := (i.synth.checkReadiness i.tracker now i.world).1
        world := (i.synth.checkReadiness i.tracker now i.world).2 }
      unfold Synthesizer.checkReadiness
      split
      · exact ⟨World.traffic_log _ _ _ _ _, rfl, .inr rfl, rfl, fun _ => rfl, id⟩
      · exact ⟨rfl, rfl, .inl rfl, rfl, id, id⟩
  | tick now => exact absurd rfl (other now)

theorem Quiet.emits {i after : Injector σ} (quiet : Quiet i after) : Emits i after none := by
  refine .nothing ?_ (quiet.pending ▸ List.suffix_rfl) quiet.source quiet.counts
  unfold written pendingBytes
  rw [quiet.traffic, quiet.pending]

/-- **What a move emits.**  Only a tick puts a gesture at the end of what was written and is
pending; any other move leaves both as they are. -/
theorem step_emits (i : Injector σ) (move : Move) : Emits i (i.step move) (i.firing? move) := by
  cases move with
  | tick now => exact i.tick_emits now
  | _ => exact (i.step_quiet _ (fun _ same => by cases same)).emits

namespace Example

open Message.Example (message)

/-- A client with the pointer 13, the keyboard 14 and the drawn surface 12, and a synthesizer
that has been active since the start. -/
def ready : List Move :=
  [.client (some ⟨"wl_seat", none⟩) (message .fromClient 7 0 [13]),
    .client (some ⟨"wl_seat", none⟩) (message .fromClient 7 1 [14]),
    .client (some ⟨"wl_compositor", none⟩) (message .fromClient 4 0 [12]),
    .client (some ⟨"wl_surface", none⟩) (message .fromClient 12 2 [0, 0, 64, 64]),
    .client (some ⟨"wl_surface", none⟩) (message .fromClient 12 6 []),
    .bind ⟨1, none⟩, .arm, .check 0]

/-- The pointer leaves, and leaves again after a second. -/
def leaves : Script :=
  ⟨[⟨.leave, 0⟩, ⟨.leave, millis 1000⟩]⟩

/-- Only the attempt of this number is refused. -/
def refusedAt (number attempt : Nat) : Option String :=
  if attempt = number then some "refused" else none

end Example

end Injector

end WaylandProxy
