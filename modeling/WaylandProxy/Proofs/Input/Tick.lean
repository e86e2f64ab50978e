/-
# Proofs.Input.Tick -- everything that a tick can do

A tick writes what is pending and flushes, and if that went well and a gesture is due it
writes the gesture's action, takes the next one of the source, and settles the rest.  It can
end at each of these points.  `Ticked` has one case for each end and says all that is left
behind there: what was written, what is pending, where the source stands, what the
tracker's serial is and when the next gesture is due.  `tick_ticked` is the only proof that
opens the definition of a tick; what holds of all ticks is proved by cases of `Ticked`.
-/
import WaylandProxy.Proofs.Input.Group
import WaylandProxy.Proofs.Traffic

namespace WaylandProxy

set_option autoImplicit false

/-- The note of a message that reached the client. -/
def Message.sent (connection : Connection) (now : Nat) (m : Message) : Note :=
  .wrote .client connection m.toBytes now

theorem delivered_sent (connection : Connection) (now : Nat) (messages : List Message) :
    delivered (messages.map (Message.sent connection now)) = messages.map Message.toBytes := by
  induction messages with
  | nil => rfl
  | cons m rest ih => exact congrArg (m.toBytes :: ·) ih

namespace Synthesizer

variable {σ : Type}

/-! ## Writing and flushing -/

inductive Written (connection : Connection) (now : Nat) (m : Message) (before after : World) :
    Option Fault → Prop where
  | sent (traffic : after.traffic = before.traffic ++ [m.sent connection now])
      (metrics : after.metrics = before.metrics) : Written connection now m before after none
  | refused (reason : String) (traffic : after.traffic = before.traffic ++ [.writeFailed .client])
      (metrics : after.metrics = before.metrics) :
      Written connection now m before after (some (.transport reason))

theorem writeMessage_written (verbose : Bool) (connection : Connection) (m : Message)
    (now : Nat) (w : World) :
    Written connection now m w (writeMessage verbose connection m now w).2
      (writeMessage verbose connection m now w).1 := by
  have traffic := w.traffic_write connection m.toBytes now
  have metrics := w.metrics_write .client connection m.toBytes now
  unfold writeMessage
  generalize w.write .client connection m.toBytes now = attempt at traffic metrics
  obtain ⟨failure, after⟩ := attempt
  cases failure with
  | some reason => exact .refused reason traffic metrics
  | none =>
      cases verbose with
      | false => exact .sent traffic metrics
      | true => exact .sent ((World.traffic_logged _ _).trans traffic) metrics

/-- How settling what is pending ends: all of it written and flushed, all of it written and
the flush refused, or one write refused and the rest left. -/
inductive Settled (connection : Connection) (now : Nat) (pending : List Message)
    (before after : World) : List Message → Option Fault → Prop where
  | flushed
      (traffic : after.traffic =
        before.traffic ++ pending.map (Message.sent connection now) ++ [.flushed .client])
      (metrics : after.metrics = before.metrics) :
      Settled connection now pending before after [] none
  | unflushed (reason : String)
      (traffic : after.traffic =
        before.traffic ++ pending.map (Message.sent connection now) ++ [.flushFailed .client])
      (metrics : after.metrics = before.metrics) :
      Settled connection now pending before after [] (some (.transport reason))
  | refused (sent : List Message) (m : Message) (rest : List Message) (reason : String)
      (split : pending = sent ++ m :: rest)
      (traffic : after.traffic =
        before.traffic ++ sent.map (Message.sent connection now) ++ [.writeFailed .client])
      (metrics : after.metrics = before.metrics) :
      Settled connection now pending before after (m :: rest) (some (.transport reason))

theorem Settled.cons {connection : Connection} {now : Nat} {m : Message}
    {pending left : List Message} {before middle after : World} {fault : Option Fault}
    (traffic : middle.traffic = before.traffic ++ [m.sent connection now])
    (metrics : middle.metrics = before.metrics)
    (settled : Settled connection now pending middle after left fault) :
    Settled connection now (m :: pending) before after left fault := by
  cases settled with
  | flushed traffic' metrics' =>
      exact .flushed (by simp [traffic', traffic]) (metrics'.trans metrics)
  | unflushed reason traffic' metrics' =>
      exact .unflushed reason (by simp [traffic', traffic]) (metrics'.trans metrics)
  | refused sent stuck rest reason split traffic' metrics' =>
      exact .refused (m :: sent) stuck rest reason (by simp [split])
        (by simp [traffic', traffic]) (metrics'.trans metrics)

theorem flush_settled (connection : Connection) (now : Nat) (w : World) :
    Settled connection now [] w (w.flush .client).2 []
      ((w.flush .client).1.map Fault.transport) := by
  have traffic := w.traffic_flush
  have metrics := w.metrics_flush .client
  generalize w.flush .client = attempt at traffic metrics
  obtain ⟨failure, after⟩ := attempt
  cases failure with
  | none => exact .flushed (by simpa [Note.ofFlush] using traffic) metrics
  | some reason => exact .unflushed reason (by simpa [Note.ofFlush] using traffic) metrics

theorem writeAll_settled (verbose : Bool) (connection : Connection) (now : Nat) :
    ∀ (pending : List Message) (w : World),
      match writeAll verbose connection now pending w with
      | (left, some fault, after) => Settled connection now pending w after left (some fault)
      | (left, none, after) =>
        Settled connection now pending w (after.flush .client).2 left
          ((after.flush .client).1.map Fault.transport)
  | [], w => flush_settled connection now w
  | m :: rest, w => by
      have written := writeMessage_written verbose connection m now w
      unfold writeAll
      generalize writeMessage verbose connection m now w = attempt at written
      obtain ⟨failure, middle⟩ := attempt
      cases written with
      | refused reason traffic metrics =>
          exact .refused [] m rest reason rfl (by simpa using traffic) metrics
      | sent traffic metrics =>
          have later := writeAll_settled verbose connection now rest middle
          simp only
          generalize writeAll verbose connection now rest middle = end_ at later
          obtain ⟨left, fault, after⟩ := end_
          cases fault with
          | none => exact later.cons traffic metrics
          | some fault => exact later.cons traffic metrics

/-- Settling changes what is pending and nothing else of the synthesizer. -/
theorem settle_settled (s : Synthesizer σ) (connection : Connection) (now : Nat) (w : World) :
    ∃ left, (s.settle connection now w).1 = { s with pending := left } ∧
      Settled connection now s.pending w (s.settle connection now w).2.2 left
        (s.settle connection now w).2.1 := by
  have settled := writeAll_settled s.verbose connection now s.pending w
  unfold settle
  generalize writeAll s.verbose connection now s.pending w = end_ at settled
  obtain ⟨left, fault, after⟩ := end_
  cases fault with
  | none => exact ⟨left, rfl, settled⟩
  | some fault => exact ⟨left, rfl, settled⟩

/-! ## A whole tick -/

/-- What was pending is out of the way: there was nothing, or it was written and flushed. -/
inductive Cleared (connection : Connection) (now : Nat) (pending : List Message)
    (before : World) : World → Prop where
  | nothing (empty : pending = []) : Cleared connection now pending before before
  | settled (after : World) (some : pending ≠ [])
      (settled : Settled connection now pending before after [] none) :
      Cleared connection now pending before after

/-- The metrics with one more synthesized event of a gesture's kind. -/
def countSynthesized (gesture : Gesture) (m : Metrics) : Metrics :=
  { m with synthesized := m.synthesized.increment [("kind", gesture.label)] }

/-- The outcome of a gesture that was done, by what became of the rest of it. -/
def outcomeOf (gesture : Gesture) : Option Fault → Except Fault (Option Gesture)
  | none => .ok (some gesture)
  | some fault => .error fault

variable [EventSource σ]

/-- A synthesizer that looked at its source with nothing pending. -/
def looked (s : Synthesizer σ) : Synthesizer σ :=
  { s with pending := [], source := (EventSource.current s.source).2 }

/-- A synthesizer after a gesture whose rest is still pending: the source went on, and the
next gesture waits for its delay. -/
def wentOn (s : Synthesizer σ) (now : Nat) (left : List Message) : Synthesizer σ :=
  let next := EventSource.current (EventSource.advance (EventSource.current s.source).2)
  { s with
    pending := left
    source := next.2
    nextFire := some (now + (next.1.map Scheduled.delay).getD 0) }

/-- Everything that a tick can do. -/
inductive Ticked (s : Synthesizer σ) (now : Nat) (t : Tracker) (w : World) : Tick σ → Prop where
  /-- Not active, or not bound to a connection. -/
  | asleep (unable : s.phase ≠ .active ∨ s.connection = none) : Ticked s now t w ⟨s, t, w, .ok none⟩
  /-- What was pending could not be settled. -/
  | stalled (connection : Connection) (active : s.phase = .active)
      (bound : s.connection = some connection) (waiting : s.pending ≠ []) (left : List Message)
      (fault : Fault) (after : World)
      (settled : Settled connection now s.pending w after left (some fault)) :
      Ticked s now t w ⟨{ s with pending := left }, t, after, .error fault⟩
  /-- The next gesture is not due. -/
  | early (connection : Connection) (active : s.phase = .active)
      (bound : s.connection = some connection) (after : World)
      (cleared : Cleared connection now s.pending w after) (due : Nat)
      (next : s.nextFire = some due) (before : now < due) :
      Ticked s now t w ⟨{ s with pending := [] }, t, after, .ok none⟩
  /-- The source has no gesture any more. -/
  | dry (connection : Connection) (active : s.phase = .active)
      (bound : s.connection = some connection) (middle after : World)
      (cleared : Cleared connection now s.pending w middle)
      (due : ∀ due, s.nextFire = some due → due ≤ now)
      (empty : (EventSource.current s.source).1 = none)
      (traffic : after.traffic = middle.traffic) (metrics : after.metrics = middle.metrics) :
      Ticked s now t w ⟨{ s.looked with exhausted := true }, t, after, .ok none⟩
  /-- The gesture cannot be made into messages. -/
  | unbuildable (connection : Connection) (active : s.phase = .active)
      (bound : s.connection = some connection) (after : World)
      (cleared : Cleared connection now s.pending w after)
      (due : ∀ due, s.nextFire = some due → due ≤ now) (event : Scheduled)
      (shown : (EventSource.current s.source).1 = some event) (fault : Fault)
      (failed : materialize event.gesture connection t t.nextSerial now = .error fault) :
      Ticked s now t w ⟨s.looked, t, after, .error fault⟩
  /-- The gesture's action was refused. -/
  | refused (connection : Connection) (active : s.phase = .active)
      (bound : s.connection = some connection) (middle after : World)
      (cleared : Cleared connection now s.pending w middle)
      (due : ∀ due, s.nextFire = some due → due ≤ now) (event : Scheduled)
      (shown : (EventSource.current s.source).1 = some event) (action : Message)
      (rest : List Message)
      (built : materialize event.gesture connection t t.nextSerial now = .ok (action :: rest))
      (fault : Fault) (written : Written connection now action middle after (some fault)) :
      Ticked s now t w ⟨s.looked, t, after, .error fault⟩
  /-- The gesture's action was written. -/
  | fired (connection : Connection) (active : s.phase = .active)
      (bound : s.connection = some connection) (middle begun after : World)
      (cleared : Cleared connection now s.pending w middle)
      (due : ∀ due, s.nextFire = some due → due ≤ now) (event : Scheduled)
      (shown : (EventSource.current s.source).1 = some event) (action : Message)
      (rest : List Message)
      (built : materialize event.gesture connection t t.nextSerial now = .ok (action :: rest))
      (written : Written connection now action middle begun none) (left : List Message)
      (fault : Option Fault)
      (settled : Settled connection now rest (begun.count (countSynthesized event.gesture)) after
        left fault) :
      Ticked s now t w ⟨s.wentOn now left, issueFor event.gesture t.nextSerial t, after,
        outcomeOf event.gesture fault⟩

/-- The part of a tick in which a gesture is due. -/
theorem fire_ticked (s : Synthesizer σ) (now : Nat) (t : Tracker) (w middle : World)
    (connection : Connection) (active : s.phase = .active)
    (bound : s.connection = some connection)
    (cleared : Cleared connection now s.pending w middle)
    (due : ∀ due, s.nextFire = some due → due ≤ now) (event : Scheduled)
    (shown : (EventSource.current s.source).1 = some event) :
    Ticked s now t w (s.looked.fire event connection now t middle) := by
  unfold fire
  simp only
  cases built : materialize event.gesture connection t t.nextSerial now with
  | error fault =>
      exact .unbuildable connection active bound middle cleared due event shown fault built
  | ok messages =>
      cases messages with
      | nil => exact absurd built materialize_ne_nil
      | cons action rest =>
          have written := writeMessage_written s.looked.verbose connection action now middle
          simp only
          generalize writeMessage s.looked.verbose connection action now middle = attempt
            at written
          obtain ⟨failure, begun⟩ := attempt
          cases failure with
          | some fault =>
              exact .refused connection active bound middle begun cleared due event shown action
                rest built fault written
          | none =>
              obtain ⟨left, same, settled⟩ := settle_settled (s.wentOn now rest) connection now
                (begun.count (countSynthesized event.gesture))
              simp only
              split
              · rename_i next fault after ends
                have ends : (s.wentOn now rest).settle connection now
                    (begun.count (countSynthesized event.gesture)) = (next, some fault, after) :=
                  ends
                rw [ends] at same settled
                cases same
                exact .fired connection active bound middle begun after cleared due event shown
                  action rest built written left (some fault) settled
              · rename_i next after ends
                have ends : (s.wentOn now rest).settle connection now
                    (begun.count (countSynthesized event.gesture)) = (next, none, after) :=
                  ends
                rw [ends] at same settled
                cases same
                exact .fired connection active bound middle begun after cleared due event shown
                  action rest built written left none settled

/-- The part of a tick after what was pending is out of the way. -/
theorem fireIfDue_ticked (s : Synthesizer σ) (now : Nat) (t : Tracker) (w middle : World)
    (connection : Connection) (active : s.phase = .active)
    (bound : s.connection = some connection)
    (cleared : Cleared connection now s.pending w middle) :
    Ticked s now t w
      (({ s with pending := [] } : Synthesizer σ).fireIfDue connection now t middle) := by
  unfold fireIfDue
  split
  · rename_i waits
    obtain ⟨due, next, before⟩ : ∃ due, s.nextFire = some due ∧ now < due := by
      cases next : s.nextFire with
      | none => simp [next] at waits
      | some due => exact ⟨due, rfl, by simpa [next] using waits⟩
    exact .early connection active bound middle cleared due next before
  · rename_i ready
    have due : ∀ due, s.nextFire = some due → due ≤ now := by
      intro due next
      simpa [next] using ready
    cases shown : (EventSource.current s.source).1 with
    | some event =>
        simp only [shown]
        exact fire_ticked s now t w middle connection active bound cleared due event shown
    | none =>
        simp only [shown]
        split
        · rename_i dry
          have same : ({ s.looked with exhausted := true } : Synthesizer σ) = s.looked := by
            rw [← dry]
            rfl
          have rests := Ticked.dry (t := t) connection active bound middle middle cleared due shown
            rfl rfl
          rwa [same] at rests
        · exact .dry connection active bound middle _ cleared due shown (by simp) rfl

/-- **Every tick is one of these.** -/
theorem tick_ticked (s : Synthesizer σ) (now : Nat) (t : Tracker) (w : World) :
    Ticked s now t w (s.tick now t w) := by
  unfold tick
  split
  · rename_i inactive
    exact .asleep (.inl inactive)
  · rename_i active
    have active : s.phase = .active := Decidable.not_not.1 active
    cases bound : s.connection with
    | none => exact .asleep (.inr bound)
    | some connection =>
        simp only
        split
        · rename_i empty
          have empty : s.pending = [] := List.isEmpty_iff.1 empty
          have same : ({ s with pending := [] } : Synthesizer σ) = s := by rw [← empty]
          have rest := fireIfDue_ticked s now t w w connection active bound (.nothing empty)
          rwa [same] at rest
        · rename_i waiting
          have waiting : s.pending ≠ [] := fun empty => waiting (List.isEmpty_iff.2 empty)
          obtain ⟨left, same, settled⟩ := s.settle_settled connection now w
          generalize s.settle connection now w = end_ at same settled
          obtain ⟨after, fault, world⟩ := end_
          cases fault with
          | some fault =>
              cases same
              exact .stalled connection active bound waiting left fault world settled
          | none =>
              cases same
              cases settled with
              | flushed traffic metrics =>
                  exact fireIfDue_ticked s now t w world connection active bound
                    (.settled world waiting (.flushed traffic metrics))

end Synthesizer

end WaylandProxy
