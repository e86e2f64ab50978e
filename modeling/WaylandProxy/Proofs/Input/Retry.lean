/-
# Proofs.Input.Retry -- a tick that fails

A tick can fail before it writes anything, and then it changed nothing: the tracker, what the
source shows, what is pending and when the next gesture is due are as before (`Unchanged`).  So
the next tick offers the same pending frame first, and the gesture it comes to is the same one.

Or it fails after the action of a gesture was written, and then the gesture is done: its serial
is issued and the source has gone on.  From any state on, what reaches the client is what was
pending and then one group for each gesture that is begun, and no event of the source is begun
twice (`Onward`); so the gesture is never written again.
-/
import WaylandProxy.Proofs.Input.Attempt

namespace WaylandProxy

set_option autoImplicit false

namespace Injector

variable {σ : Type} [EventSource σ]

/-! ## Nothing written -/

/-- Nothing of an injector changed that decides what it does next. -/
structure Unchanged (before after : Injector σ) : Prop where
  tracker : after.tracker = before.tracker
  shown : (EventSource.current after.synth.source).1 = (EventSource.current before.synth.source).1
  nextFire : after.synth.nextFire = before.synth.nextFire
  pending : after.synth.pending = before.synth.pending
  phase : after.synth.phase = before.synth.phase
  connection : after.synth.connection = before.synth.connection
  metrics : after.world.metrics = before.world.metrics

/-- What was pending and could be settled was nothing, if nothing was written. -/
theorem pending_of_unwritten {connection : Connection} {now : Nat} {pending : List Message}
    {before after : World} (cleared : Synthesizer.Cleared connection now pending before after)
    (unwritten : delivered after.traffic = delivered before.traffic) : pending = [] := by
  have written := cleared.delivered_eq.1
  rw [unwritten, List.self_eq_append_right] at written
  exact List.map_eq_nil_iff.1 written

/-- **A tick that failed and wrote nothing changed nothing.** -/
theorem unwritten_unchanged (repeats : EventSource.Repeats σ) {i : Injector σ} {now : Nat}
    {fault : Fault} (failed : i.outcome now = .error fault)
    (unwritten : (i.step (.tick now)).written = i.written) :
    i.synth.phase = .active ∧ i.synth.connection.isSome ∧ Unchanged i (i.step (.tick now)) := by
  have ticked := i.synth.tick_ticked now i.tracker i.world
  change (i.synth.tick now i.tracker i.world).outcome = .error fault at failed
  change delivered (i.synth.tick now i.tracker i.world).world.traffic =
    delivered i.world.traffic at unwritten
  show i.synth.phase = .active ∧ i.synth.connection.isSome ∧ Unchanged i
    ⟨(i.synth.tick now i.tracker i.world).synth, (i.synth.tick now i.tracker i.world).tracker,
      (i.synth.tick now i.tracker i.world).world⟩
  generalize i.synth.tick now i.tracker i.world = done at ticked failed unwritten ⊢
  cases ticked with
  | asleep unable => cases failed
  | early connection active bound after cleared due next before => cases failed
  | dry connection active bound middle after cleared due empty traffic metrics => cases failed
  | stalled connection active bound waiting left fault after settled =>
      obtain ⟨written, ⟨sent, split⟩, metrics⟩ := settled.delivered_append
      change delivered after.traffic = delivered i.world.traffic at unwritten
      -- all that was pending is left
      have lengths := congrArg List.length (List.append_cancel_left (unwritten ▸ written))
      have all := congrArg List.length split
      simp only [List.length_map, List.length_append] at lengths all
      have none : sent = [] := List.length_eq_zero_iff.1 (by omega)
      have same : left = i.synth.pending := by rw [← split, none, List.nil_append]
      exact ⟨active, bound ▸ rfl, rfl, rfl, rfl, same, rfl, rfl, metrics⟩
  | unbuildable connection active bound after cleared due event shown fault failed' =>
      have empty := pending_of_unwritten cleared unwritten
      exact ⟨active, bound ▸ rfl, rfl, repeats _, rfl, empty.symm, rfl, rfl,
        cleared.delivered_eq.2⟩
  | refused connection active bound middle after cleared due event shown action rest built fault
      attempt =>
      obtain ⟨nothing, metrics⟩ := attempt.delivered_eq
      simp only [Option.isSome_some, if_true, List.append_nil] at nothing
      have empty := pending_of_unwritten cleared (nothing.symm.trans unwritten)
      exact ⟨active, bound ▸ rfl, rfl, repeats _, rfl, empty.symm, rfl, rfl,
        metrics.trans cleared.delivered_eq.2⟩
  | fired connection active bound middle begun after cleared due event shown action rest built
      attempt left fault settled =>
      obtain ⟨-, more⟩ := Synthesizer.delivered_more cleared attempt settled
      -- a gesture that was begun has written its action
      have lengths := congrArg List.length unwritten
      change (delivered after.traffic).length = (delivered i.world.traffic).length at lengths
      omega

/-- Without a tick nothing more is written, and a synthesizer at work stays at work. -/
theorem quiet_run {moves : List Move} (noTick : ∀ move ∈ moves, ∀ now, move ≠ .tick now)
    (i : Injector σ) :
    let next := (machine σ).run i moves
    next.synth.pending = i.synth.pending ∧
      (i.synth.phase = .active → next.synth.phase = .active) ∧
      (i.synth.connection.isSome → next.synth.connection.isSome) := by
  induction moves generalizing i with
  | nil => exact ⟨rfl, id, id⟩
  | cons move rest ih =>
      have quiet := i.step_quiet move (noTick move List.mem_cons_self)
      obtain ⟨pending, active, bound⟩ :=
        ih (fun other member => noTick other (List.mem_cons_of_mem move member)) (i.step move)
      exact ⟨pending.trans quiet.pending, active ∘ quiet.active, bound ∘ quiet.bound⟩

theorem shown_of_next? {i : Injector σ} {now : Nat} {f : Firing} (comes : i.next? now = some f) :
    (EventSource.current i.synth.source).1 = some f.event ∧ f.tracker = i.tracker := by
  unfold next? at comes
  split at comes
  · obtain ⟨event, shown, comes⟩ := Option.bind_eq_some_iff.1 comes
    obtain ⟨connection, bound, rfl⟩ := Option.map_eq_some_iff.1 comes
    exact ⟨shown, rfl⟩
  · cases comes

/-- The serial that is next depends on the serial issued last and on nothing else. -/
theorem nextSerial_of_serial {t t' : Tracker} (same : t'.serial = t.serial) :
    t'.nextSerial = t.nextSerial := by
  simp only [Tracker.nextSerial, same]

/-! ## Failed ticks -/

/-- **A failed tick changed nothing, or it did the gesture.**  If nothing was written, nothing
changed: the next tick tries what was pending again before anything else, and as long as no
gesture is begun the one that a tick comes to is the same, with the same serial while the tracker
issued none.  If more was written than was pending, a gesture was begun: its serial is issued,
the source has gone on, the next gesture waits for its delay, it is counted once, and in every
run from there its messages come once, before those of the later events of the source. -/
theorem failed_tick_retries_or_is_done (repeats : EventSource.Repeats σ) (i : Injector σ)
    (now : Nat) (fault : Fault) (failed : i.outcome now = .error fault) :
    let after := i.step (.tick now)
    (after.written = i.written →
      Unchanged i after ∧
      (∀ between later, (∀ move ∈ between, ∀ time, move ≠ .tick time) →
        let next := (machine σ).run after between
        next.synth.pending = i.synth.pending ∧
        ∃ tried left,
          i.synth.pending ++ (next.next? later).toList.flatMap Firing.messages = tried ++ left ∧
          (tried = [] → left = []) ∧
          ∀ connection, next.synth.connection = some connection →
            World.Tries connection later tried next.world (next.step (.tick later)).world) ∧
      ∀ between later g, (machine σ).outputs after between = [] →
        ((machine σ).run after between).next? later = some g →
        (EventSource.current i.synth.source).1 = some g.event ∧
        (((machine σ).run after between).tracker.serial = i.tracker.serial →
          g.serial = i.tracker.nextSerial)) ∧
    (i.written.length + i.synth.pending.length < after.written.length →
      ∃ f, i.firing? (.tick now) = some f ∧
        (EventSource.current i.synth.source).1 = some f.event ∧
        let next := EventSource.current (EventSource.advance (EventSource.current i.synth.source).2)
        after.tracker = Synthesizer.issueFor f.event.gesture i.tracker.nextSerial i.tracker ∧
        after.synth.source = next.2 ∧
        after.synth.nextFire = some (now + (next.1.map Scheduled.delay).getD 0) ∧
        after.world.metrics = Synthesizer.countSynthesized f.event.gesture i.world.metrics ∧
        ∀ later,
          let others := (machine σ).outputs after later
          let last := (machine σ).run after later
          last.written ++ last.pendingBytes = i.written ++ i.pendingBytes ++
            ((f :: others).flatMap Firing.messages).map Message.toBytes ∧
          ∀ (k : Nat) g, (f :: others)[k]? = some g →
            EventSource.ShownAt i.synth.source k g.event) := by
  intro after
  refine ⟨fun unwritten => ?_, fun more => ?_⟩
  · obtain ⟨active, bound, same⟩ := unwritten_unchanged repeats failed unwritten
    refine ⟨same, ?_, ?_⟩
    · intro between later noTick next
      obtain ⟨pending, stays, bound'⟩ := quiet_run noTick after
      have pending : next.synth.pending = i.synth.pending := pending.trans same.pending
      have active : next.synth.phase = .active := stays (same.phase.trans active)
      obtain ⟨connection, bound⟩ := Option.isSome_iff_exists.1 (bound' (same.connection ▸ bound))
      obtain ⟨tried, left, split, first, tries, -⟩ := next.tick_tries later
      rw [offers_eq active bound, pending] at split
      exact ⟨pending, tried, left, split, first, tries⟩
    · intro between later g none comes
      have onward := onward_run after between
      rw [none] at onward
      obtain ⟨shown, tracker⟩ := shown_of_next? comes
      refine ⟨?_, fun serial => ?_⟩
      · rw [onward.advanced.shown_of_none repeats, same.shown] at shown
        exact shown
      · unfold Firing.serial
        rw [tracker]
        exact nextSerial_of_serial serial
  · obtain ⟨f, begun⟩ := firing?_of_more more
    obtain ⟨tracker, time, began⟩ := began_of_firing begun
    obtain ⟨action, rest, left, built, suffix, goes, written⟩ := began.written
    have goes : after.synth = i.synth.wentOn now left := time ▸ goes
    refine ⟨f, begun, began.shown, ?_, by rw [goes]; rfl, by rw [goes]; rfl, began.metrics, ?_⟩
    · have issued := began.tracker
      unfold Firing.serial at issued
      rw [tracker] at issued
      exact issued
    · intro later others last
      have onward := onward_run i (.tick now :: later)
      have all : (machine σ).outputs i (.tick now :: later) = f :: others := by
        have first : (machine σ).out i (.tick now) = [f] := congrArg Option.toList begun
        rw [Machine.outputs_cons, first]
        rfl
      rw [all] at onward
      exact ⟨onward.groups, onward.events⟩

namespace Example

def actionRefused : Injector Script :=
  start leaves none false 0 (.failing (refusedAt 0) fun _ => none) .reliable

/-- With its action refused the gesture is as it was; with its frame refused it is done. -/
theorem refused_action_and_refused_frame :
    let action := (machine Script).run actionRefused ready
    let frame := (machine Script).run frameRefused ready
    EventSource.Repeats Script ∧
      (∃ fault, action.outcome (millis 50) = .error fault) ∧
      (∃ fault, frame.outcome (millis 50) = .error fault) ∧
      Unchanged action (action.step (.tick (millis 50))) ∧
      (frame.step (.tick (millis 50))).tracker.serial = some 1 := by
  intro action frame
  have repeats : EventSource.Repeats Script := EventSource.repeats_of_lawful
  have unwritten : action.outcome (millis 50) = .error (.transport "refused") := rfl
  have written : frame.outcome (millis 50) = .error (.transport "refused") := rfl
  obtain ⟨nothing, -⟩ := failed_tick_retries_or_is_done repeats action (millis 50) _ unwritten
  obtain ⟨-, done⟩ := failed_tick_retries_or_is_done repeats frame (millis 50) _ written
  obtain ⟨same, -⟩ := nothing (by decide)
  obtain ⟨f, -, shown, tracker, -⟩ := done (by decide)
  have event : f.event = ⟨.leave, 0⟩ := (Option.some.inj shown).symm
  refine ⟨repeats, ⟨_, unwritten⟩, ⟨_, written⟩, same, ?_⟩
  rw [tracker, event]
  rfl

end Example

end Injector

end WaylandProxy
