/-
# Proofs.Input.Timing -- never early, and at the first chance

The first gesture waits for its delay after the client was given time to settle, and each later
one for its delay after the tick that began the one before (`waitsFrom`).  A synthesizer at work
keeps that time for the gesture that its source shows (`Timed`): ticks that begin nothing leave it,
and so do failed attempts, looks at the source and moves that are no ticks.  Hence no gesture is
begun early, whatever the times of the ticks and whatever fails.

Conversely a tick at which no write and no flush fails begins the gesture shown if its time has
come (`smooth_tick`).  Nothing else can stand in the way: what the gesture is addressed to is known
as soon as the synthesizer is active (`Informed`).
-/
import WaylandProxy.Proofs.Input.Attempt
import WaylandProxy.Proofs.Pass.Equipped

namespace WaylandProxy

set_option autoImplicit false

/-! ## Ticks at which nothing fails -/

/-- An attempt to write to the client or to flush it that failed. -/
def Note.isFailure : Note → Bool
  | .writeFailed .client => true
  | .flushFailed .client => true
  | _ => false

namespace World

/-- Between two states of the world no write to the client failed, and no flush. -/
def Smooth (before after : World) : Prop :=
  ∃ new, after.traffic = before.traffic ++ new ∧ ∀ n ∈ new, n.isFailure = false

/-- The last attempt between two states of the world failed. -/
def Fails (before after : World) : Prop :=
  ∃ new n, after.traffic = before.traffic ++ (new ++ [n]) ∧ n.isFailure = true

variable {before middle after : World}

theorem Fails.not_smooth (fails : Fails before after) : ¬ Smooth before after := by
  rintro ⟨new, traffic, smooth⟩
  obtain ⟨earlier, n, traffic', failure⟩ := fails
  rw [traffic'] at traffic
  have same := List.append_cancel_left traffic
  have well := smooth n (same ▸ by simp)
  rw [failure] at well
  cases well

theorem Fails.later (fails : Fails middle after)
    (first : ∃ new, middle.traffic = before.traffic ++ new) : Fails before after := by
  obtain ⟨new, n, traffic, failure⟩ := fails
  obtain ⟨earlier, traffic'⟩ := first
  exact ⟨earlier ++ new, n, by simp [traffic, traffic'], failure⟩

end World

namespace Synthesizer

variable {σ : Type} {connection : Connection} {now : Nat} {pending left : List Message}
  {before after : World} {fault : Fault}

open World (Fails)

theorem Settled.fails (settled : Settled connection now pending before after left (some fault)) :
    Fails before after := by
  cases settled with
  | unflushed reason traffic metrics =>
      exact ⟨_, _, traffic.trans (List.append_assoc _ _ _), rfl⟩
  | refused sent m rest reason split traffic metrics =>
      exact ⟨_, _, traffic.trans (List.append_assoc _ _ _), rfl⟩

theorem Written.fails {m : Message}
    (written : Written connection now m before after (some fault)) : Fails before after := by
  cases written with
  | refused reason traffic metrics => exact ⟨[], _, traffic, rfl⟩

/-- A tick fails on the way to the client, or on a gesture that cannot be made into messages. -/
theorem Ticked.fails [EventSource σ] {s : Synthesizer σ} {t : Tracker} {w : World} {done : Tick σ}
    (ticked : Ticked s now t w done) (failed : done.outcome = .error fault)
    (buildable : ∀ connection, s.connection = some connection → s.phase = .active →
      ∀ gesture serial, ∃ messages, materialize gesture connection t serial now = .ok messages) :
    Fails w done.world := by
  have traffic {connection : Connection} {middle : World}
      (cleared : Cleared connection now s.pending w middle) :
      ∃ new, middle.traffic = w.traffic ++ new := by
    obtain ⟨new, traffic, -⟩ := cleared.sends
    exact ⟨new, traffic⟩
  cases ticked with
  | asleep unable => cases failed
  | early connection active bound after cleared due next before => cases failed
  | dry connection active bound middle after cleared due empty same metrics => cases failed
  | stalled connection active bound waiting left fault after settled => exact settled.fails
  | unbuildable connection active bound after cleared due event shown fault unbuilt =>
      obtain ⟨messages, built⟩ := buildable connection bound active event.gesture t.nextSerial
      cases unbuilt.symm.trans built
  | refused connection active bound middle after cleared due event shown action rest built fault
      written =>
      exact written.fails.later (traffic cleared)
  | fired connection active bound middle begun after cleared due event shown action rest built
      written left failure settled =>
      cases failure with
      | none => cases failed
      | some fault =>
          obtain ⟨new, sent⟩ := traffic cleared
          cases written with
          | sent more metrics =>
              exact settled.fails.later ⟨new ++ [_], by
                rw [World.traffic_count, more, sent, List.append_assoc]⟩

end Synthesizer

namespace Injector

variable {σ : Type} [EventSource σ] {i : Injector σ}

/-! ## What an active synthesizer knows -/

/-- The tracker knows what the requests say that it has seen, and they made the client ready if the
synthesizer is active. -/
structure Informed (log : List Seen) (i : Injector σ) : Prop where
  records : i.tracker.Records log
  ready : i.synth.phase = .active → Seen.Ready log

theorem Informed.step {log : List Seen} (informed : Informed log i) (move : Move) :
    ∃ log', Informed log' (i.step move) := by
  obtain ⟨records, ready⟩ := informed
  cases move with
  | server resolved m now =>
      exact ⟨log, records.of_same (i.tracker.observeServer_records resolved m now), ready⟩
  | client resolved m =>
      exact ⟨log ++ [⟨resolved, m⟩], records.learns (i.tracker.observeClient_learns ⟨resolved, m⟩),
        fun active => (ready active).append _⟩
  | arm =>
      refine ⟨log, records, fun active => ready ?_⟩
      change i.synth.arm.phase = .active at active
      unfold Synthesizer.arm at active
      split at active
      · cases active
      · exact active
  | bind connection => exact ⟨log, records, ready⟩
  | check now =>
      obtain ⟨-, starts⟩ := i.synth.checkReadiness_starts i.tracker now i.world
      exact ⟨log, records, fun active =>
        (starts active).elim ready (Synthesizer.ready_of_isReady records)⟩
  | tick now =>
      obtain ⟨phase, -, -⟩ := i.synth.tick_keeps now i.tracker i.world
      have same : i.tracker.SameRecords (i.synth.tick now i.tracker i.world).tracker := by
        obtain same | issued := Fuzz.tick_tracker i.synth now i.tracker i.world
        · rw [same]
          exact .refl _
        · rw [issued]
          exact ⟨rfl, rfl, rfl⟩
      exact ⟨log, records.of_same same, fun active => ready (phase.symm.trans active)⟩

theorem informed_run (source : σ) (program : Option String) (verbose : Bool) (made : Nat)
    (client server : Channel) (moves : List Move) :
    ∃ log, Informed log
      ((machine σ).run (start source program verbose made client server) moves) := by
  have initial : Informed [] (start source program verbose made client server) :=
    ⟨.start made, nofun⟩
  exact (machine σ).holds_after (fun i _ => ∃ log, Informed log i) ⟨[], initial⟩
    (fun _ _ move ⟨_, informed⟩ => informed.step move) moves

omit [EventSource σ] in
theorem Informed.buildable {log : List Seen} (informed : Informed log i)
    (active : i.synth.phase = .active) (gesture : Gesture) (connection : Connection)
    (serial : UInt32) (now : Nat) :
    ∃ messages, Synthesizer.materialize gesture connection i.tracker serial now = .ok messages := by
  obtain ⟨surface, pointer, keyboard, complete⟩ := informed.records.complete (informed.ready active)
  obtain ⟨action, rest, built, -⟩ :=
    Synthesizer.materialize_complete complete gesture connection serial now
  exact ⟨action :: rest, built⟩

/-! ## One tick -/

/-- **A tick at which nothing fails** begins the gesture shown exactly if its time has come. -/
theorem smooth_tick {log : List Seen} (informed : Informed log i) {event : Scheduled}
    {connection : Connection} {due now : Nat} (active : i.synth.phase = .active)
    (bound : i.synth.connection = some connection) (next : i.synth.nextFire = some due)
    (shown : (EventSource.current i.synth.source).1 = some event)
    (smooth : World.Smooth i.world (i.step (.tick now)).world) :
    i.firing? (.tick now) =
        (if due ≤ now then some ⟨event, connection, i.tracker, now⟩ else none) ∧
      i.outcome now = .ok (if due ≤ now then some event.gesture else none) := by
  have ticked := i.synth.tick_ticked now i.tracker i.world
  have well (fault : Fault) : i.outcome now ≠ .error fault := fun failed =>
    (ticked.fails failed fun connection _ active gesture serial =>
      informed.buildable active gesture connection serial now).not_smooth smooth
  by_cases ready : due ≤ now
  · rw [if_pos ready, if_pos ready]
    let f : Firing := ⟨event, connection, i.tracker, now⟩
    have built : f.built = .ok f.messages := by
      obtain ⟨messages, built⟩ :=
        informed.buildable active event.gesture connection i.tracker.nextSerial now
      have built : f.built = .ok messages := built
      rw [Firing.messages_of_built built]
      exact built
    have isDue : ∀ time, i.synth.nextFire = some time → time ≤ f.now := by
      intro time is
      cases next.symm.trans is
      exact ready
    obtain ⟨reason, failed⟩ | ⟨outcome, begun⟩ :=
      i.due_gesture_begins f active bound rfl isDue shown built
    · exact absurd failed (well _)
    · exact ⟨begun, outcome⟩
  · rw [if_neg ready, if_neg ready]
    constructor
    · obtain ⟨other, connection', -, began⟩ | ⟨none, -⟩ := i.tick_begins_or_waits now
      · exact absurd (began.due due next) ready
      · exact none
    · change ∀ fault, (i.synth.tick now i.tracker i.world).outcome ≠ .error fault at well
      show (i.synth.tick now i.tracker i.world).outcome = .ok none
      generalize i.synth.tick now i.tracker i.world = done at ticked well ⊢
      cases ticked with
      | asleep unable => rfl
      | stalled other _ bound' waiting left fault after settled => exact absurd rfl (well fault)
      | early other _ bound' after cleared later next' before => rfl
      | dry other _ bound' middle after cleared isDue empty traffic metrics => rfl
      | unbuildable other _ bound' after cleared isDue event' shown' fault failed =>
          exact absurd (isDue due next) ready
      | refused other _ bound' middle after cleared isDue event' shown' action rest built fault
          written => exact absurd (isDue due next) ready
      | fired other _ bound' middle begun after cleared isDue event' shown' action rest built
          written left fault settled => exact absurd (isDue due next) ready

/-! ## Runs -/

/-- When the wait for the next gesture begins, after these: with the last of them, or once the
client that was ready at a time has settled. -/
def waitsFrom (ready : Nat) (fired : List Firing) : Nat :=
  (fired.getLast?.map Firing.now).getD (ready + Synthesizer.settleDelay)

def delayShown (i : Injector σ) : Nat :=
  ((EventSource.current i.synth.source).1.map Scheduled.delay).getD 0

/-- A synthesizer that is active since a time and has begun these gestures: the one shown waits for
its delay from the last one, and so did each of them. -/
structure Timed (ready : Nat) (i : Injector σ) (fired : List Firing) : Prop where
  active : i.synth.phase = .active
  due : i.synth.nextFire = some (waitsFrom ready fired + i.delayShown)
  waited : ∀ (k : Nat) f, fired[k]? = some f →
    waitsFrom ready (fired.take k) + f.event.delay ≤ f.now

/-- Only ticks change a synthesizer that is active, but for its connection. -/
theorem synth_of_active (active : i.synth.phase = .active) {move : Move}
    (noTick : ∀ now, move ≠ .tick now) :
    ∃ connection, (i.step move).synth = { i.synth with connection := connection } := by
  have same : i.synth = { i.synth with connection := i.synth.connection } := rfl
  cases move with
  | server resolved m now => exact ⟨_, same⟩
  | client resolved m => exact ⟨_, same⟩
  | arm => exact ⟨_, if_neg (by simp [active])⟩
  | bind connection => exact ⟨_, rfl⟩
  | check now =>
      refine ⟨i.synth.connection, congrArg Prod.fst (if_neg ?_ : i.synth.checkReadiness _ _ _ = _)⟩
      simp [active]
  | tick now => exact absurd rfl (noTick now)

theorem Timed.step (repeats : EventSource.Repeats σ) {ready : Nat} {fired : List Firing}
    (timed : Timed ready i fired) (move : Move) :
    Timed ready (i.step move) (fired ++ (i.firing? move).toList) := by
  obtain ⟨active, due, waited⟩ := timed
  by_cases noTick : ∀ now, move ≠ .tick now
  · obtain ⟨connection, same⟩ := synth_of_active active noTick
    have none : i.firing? move = none := by
      cases move with
      | tick now => exact absurd rfl (noTick now)
      | _ => rfl
    rw [none, Option.toList_none, List.append_nil]
    exact ⟨by rw [same, active], by rw [delayShown, same]; exact due, waited⟩
  · obtain ⟨now, rfl⟩ := not_forall_not.1 noTick
    obtain ⟨phase, -, -⟩ := i.synth.tick_keeps now i.tracker i.world
    have emits := i.step_emits (.tick now)
    obtain ⟨event, connection, begun, began⟩ | ⟨none, -, waits⟩ := i.tick_begins_or_waits now
    · obtain ⟨action, rest, left, -, -, goes, -⟩ := began.written
      have goes : (i.step (.tick now)).synth = i.synth.wentOn now left := goes
      rw [begun, Option.toList_some]
      refine ⟨phase.trans active, ?_, ?_⟩
      · -- the wait for what the source shows now begins with this gesture
        rw [delayShown, goes, waitsFrom, List.getLast?_concat]
        exact congrArg (fun shown => some (now + (Option.map Scheduled.delay shown).getD 0))
          (repeats _).symm
      · intro k g isAt
        by_cases earlier : k < fired.length
        · rw [List.getElem?_append_left earlier] at isAt
          rw [List.take_append_of_le_length (Nat.le_of_lt earlier)]
          exact waited k g isAt
        · have last : k = fired.length := by
            have bound := (List.getElem?_eq_some_iff.1 isAt).1
            simp only [List.length_append, List.length_singleton] at bound
            omega
          rw [last, List.getElem?_concat_length] at isAt
          cases isAt
          rw [last, List.take_left]
          have passed := began.due _ due
          rw [delayShown, began.shown] at passed
          exact passed
    · rw [none] at emits
      rw [none, Option.toList_none, List.append_nil]
      refine ⟨phase.trans active, ?_, waited⟩
      have shows : (i.step (.tick now)).delayShown = i.delayShown := by
        cases emits with
        | nothing written pending source counts =>
            unfold delayShown
            obtain same | looked := source
            · rw [same]
            · rw [looked, repeats]
      rw [waits, shows]
      exact due

theorem timed_run (repeats : EventSource.Repeats σ) {ready : Nat} (timed : Timed ready i [])
    (moves : List Move) :
    Timed ready ((machine σ).run i moves) ((machine σ).outputs i moves) :=
  (machine σ).holds_after (Timed ready) timed
    (fun _ _ move timed => timed.step repeats move) moves

/-- The look at readiness that makes a synthesizer active starts the wait for its first gesture. -/
theorem timed_of_check (repeats : EventSource.Repeats σ) {now : Nat}
    (waits : i.synth.phase ≠ .active) (activates : (i.step (.check now)).synth.phase = .active) :
    Timed now (i.step (.check now)) [] := by
  change (i.synth.checkReadiness i.tracker now i.world).1.phase = .active at activates
  refine ⟨activates, ?_, by simp⟩
  show (i.synth.checkReadiness i.tracker now i.world).1.nextFire =
    some (now + Synthesizer.settleDelay + ((EventSource.current
      (i.synth.checkReadiness i.tracker now i.world).1.source).1.map Scheduled.delay).getD 0)
  unfold Synthesizer.checkReadiness at activates ⊢
  split
  · exact congrArg (fun shown => some (now + Synthesizer.settleDelay +
      (Option.map Scheduled.delay shown).getD 0)) (repeats _).symm
  · rename_i other
    rw [if_neg other] at activates
    exact absurd activates waits

/-- Nothing is begun before a synthesizer is active. -/
theorem nothing_fired_before (source : σ) (program : Option String) (verbose : Bool) (made : Nat)
    (client server : Channel) (moves : List Move)
    (waits : ((machine σ).run (start source program verbose made client server)
      moves).synth.phase ≠ .active) :
    (machine σ).outputs (start source program verbose made client server) moves = [] := by
  have activeOrNone := (machine σ).holds_after
    (fun (i : Injector σ) fired => fired = [] ∨ i.synth.phase = .active)
    (.inl rfl : [] = [] ∨ (start source program verbose made client server).synth.phase = .active)
    ?_ moves
  · exact activeOrNone.resolve_right waits
  · rintro i fired move earlier
    -- only a tick begins a gesture, and only while the synthesizer is active, which it stays
    have stays (active : i.synth.phase = .active) : (i.step move).synth.phase = .active := by
      by_cases noTick : ∀ now, move ≠ .tick now
      · exact (i.step_quiet move noTick).active active
      · obtain ⟨now, rfl⟩ := not_forall_not.1 noTick
        exact (i.synth.tick_keeps now i.tracker i.world).1.trans active
    obtain none | active := earlier
    · cases begun : i.firing? move with
      | none => exact .inl (by rw [none]; exact congrArg Option.toList begun)
      | some f =>
          cases move with
          | tick now => exact .inr (stays (began_of_firing begun).2.2.active)
          | _ => cases begun
    · exact .inr (stays active)

/-- Every run in which a look at readiness made the synthesizer active keeps the time from there
on. -/
theorem timed_since_check (repeats : EventSource.Repeats σ) (source : σ) (program : Option String)
    (verbose : Bool) (made : Nat) (client server : Channel) (opening : List Move) (ready : Nat)
    (later : List Move)
    (waits : ((machine σ).run (start source program verbose made client server)
      opening).synth.phase ≠ .active)
    (activates : ((machine σ).run (start source program verbose made client server)
      (opening ++ [.check ready])).synth.phase = .active) :
    Timed ready
      ((machine σ).run (start source program verbose made client server)
        (opening ++ .check ready :: later))
      ((machine σ).outputs (start source program verbose made client server)
        (opening ++ .check ready :: later)) := by
  have nothing := nothing_fired_before source program verbose made client server opening waits
  rw [Machine.run_append] at activates
  rw [Machine.run_append, Machine.outputs_append, nothing]
  exact timed_run repeats (timed_of_check repeats waits activates) later

/-- **Gestures come never early, and at the first chance.**  Take a run over any source that repeats
what it shows, in which a look at readiness at `ready` made the synthesizer active, with moves in
any order, ticks at any times and any failures of the channels.

* Each tick begins at most one gesture, at its own time, and writes its action; the source goes on
  by as many.
* The gesture begun at `k` is the one at `k` of the source.  The first one comes no earlier than its
  delay after the client settled, each later one no earlier than its delay after the one before.
* A tick at which nothing fails, of a synthesizer that is bound to a connection while its source
  shows a gesture, begins that gesture if its time has come, and nothing otherwise. -/
theorem gestures_come_at_the_first_chance (repeats : EventSource.Repeats σ) (source : σ)
    (program : Option String) (verbose : Bool) (made : Nat) (client server : Channel)
    (opening : List Move) (ready : Nat) (later : List Move)
    (waits : ((machine σ).run (start source program verbose made client server)
      opening).synth.phase ≠ .active)
    (activates : ((machine σ).run (start source program verbose made client server)
      (opening ++ [.check ready])).synth.phase = .active) :
    let before := start source program verbose made client server
    let i := (machine σ).run before (opening ++ .check ready :: later)
    let fired := (machine σ).outputs before (opening ++ .check ready :: later)
    (∀ now, Onward i (i.step (.tick now)) (i.firing? (.tick now)).toList ∧
      ∀ f, i.firing? (.tick now) = some f → f.now = now ∧
        ∃ action rest, f.built = .ok (action :: rest) ∧
          i.written ++ i.pendingBytes ++ [action.toBytes] <+: (i.step (.tick now)).written) ∧
    (∀ (k : Nat) f, fired[k]? = some f → EventSource.ShownAt source k f.event) ∧
    (∀ f, fired[0]? = some f → ready + Synthesizer.settleDelay + f.event.delay ≤ f.now) ∧
    (∀ (k : Nat) f g, fired[k]? = some f → fired[k + 1]? = some g →
      f.now + g.event.delay ≤ g.now) ∧
    ∀ now event connection, i.synth.connection = some connection →
      (EventSource.current i.synth.source).1 = some event →
      World.Smooth i.world (i.step (.tick now)).world →
      i.firing? (.tick now) = (if waitsFrom ready fired + event.delay ≤ now then
        some ⟨event, connection, i.tracker, now⟩ else none) ∧
      i.outcome now = .ok (if waitsFrom ready fired + event.delay ≤ now then
        some event.gesture else none) := by
  intro before i fired
  have timed : Timed ready i fired :=
    timed_since_check repeats source program verbose made client server opening ready later waits
      activates
  obtain ⟨log, informed⟩ := informed_run source program verbose made client server
    (opening ++ .check ready :: later)
  refine ⟨fun now => ⟨?_, ?_⟩, ?_, ?_, ?_, ?_⟩
  · have onward := onward_run i [.tick now]
    rw [Machine.outputs_cons, Machine.outputs_nil, List.append_nil] at onward
    exact onward
  · intro f begun
    obtain ⟨-, time, began⟩ := began_of_firing begun
    exact ⟨time, began.action_written⟩
  · exact (emitted_run source program verbose made client server
      (opening ++ .check ready :: later)).events
  · intro f first
    exact timed.waited 0 f first
  · intro k f g isAt nextAt
    have waited := timed.waited (k + 1) g nextAt
    have within := (List.getElem?_eq_some_iff.1 isAt).1
    rw [waitsFrom, List.getLast?_take] at waited
    simpa [isAt] using waited
  · intro now event connection bound shown smooth
    have due := timed.due
    rw [delayShown, shown] at due
    exact smooth_tick informed timed.active bound due shown smooth

namespace Example

/-- Active at 0, the pointer leaves at 60 ms and again a second later, not before. -/
theorem second_leave_at_the_first_chance :
    let before := start leaves none false 0 .reliable .reliable
    let opening := ready.take 7
    let i := (machine Script).run before
      (opening ++ .check 0 :: [.tick (millis 40), .tick (millis 60)])
    EventSource.Repeats Script ∧
      ((machine Script).run before opening).synth.phase ≠ .active ∧
      ((machine Script).run before (opening ++ [.check 0])).synth.phase = .active ∧
      i.firing? (.tick (millis 1059)) = none ∧
      i.firing? (.tick (millis 1060)) =
        some ⟨⟨.leave, millis 1000⟩, ⟨1, none⟩, i.tracker, millis 1060⟩ := by
  intro before opening i
  have repeats : EventSource.Repeats Script := EventSource.repeats_of_lawful
  have waits : ((machine Script).run before opening).synth.phase ≠ .active := by decide
  have activates : ((machine Script).run before (opening ++ [.check 0])).synth.phase = .active := by
    decide
  obtain ⟨-, -, -, -, chance⟩ := gestures_come_at_the_first_chance repeats leaves none false 0
    .reliable .reliable opening 0 [.tick (millis 40), .tick (millis 60)] waits activates
  have smooth (now : Nat) (goesWell : i.world.traffic ++ (i.step (.tick now)).world.traffic.drop
      i.world.traffic.length = (i.step (.tick now)).world.traffic ∧
      ∀ n ∈ (i.step (.tick now)).world.traffic.drop i.world.traffic.length, n.isFailure = false) :
      World.Smooth i.world (i.step (.tick now)).world :=
    ⟨_, goesWell.1.symm, goesWell.2⟩
  obtain ⟨early, -⟩ := chance (millis 1059) ⟨.leave, millis 1000⟩ ⟨1, none⟩ rfl rfl
    (smooth _ (by decide))
  obtain ⟨due, -⟩ := chance (millis 1060) ⟨.leave, millis 1000⟩ ⟨1, none⟩ rfl rfl
    (smooth _ (by decide))
  exact ⟨repeats, waits, activates, early.trans (if_neg (by decide)),
    due.trans (if_pos (by decide))⟩

end Example

end Injector

end WaylandProxy
