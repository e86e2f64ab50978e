/-
# Proofs.Input.Flush -- which ticks leave everything flushed

What was written reaches the client for sure only with a later flush that succeeds
(`AllFlushed`).  A flush that fails is made up for by the next one that succeeds (`MadeUp`).
Whenever nothing is pending the two come to the same (`Accounted`): every flush was tried
after a write, and every write that is not pending was followed by a flush, successful or
not.

A tick flushes only after a write.  So a tick that ends well leaves everything flushed if it
wrote something, or if no failed flush was waiting to be made up for; but where one was, a
tick that has nothing to write does not try again (`ok_tick_flushed_iff`).
-/
import WaylandProxy.Proofs.Input.Injector

namespace WaylandProxy

set_option autoImplicit false

/-- Every note of a kind has a flush that succeeded somewhere after it. -/
def FlushedAfter (kind : Note → Prop) (traffic : List Note) : Prop :=
  ∀ before n after, traffic = before ++ n :: after → kind n → Note.flushed .client ∈ after

/-- Every message that got through was followed by a flush that succeeded. -/
def AllFlushed (traffic : List Note) : Prop :=
  FlushedAfter (fun n => n.delivered?.isSome) traffic

/-- Every flush that failed was followed by one that succeeded. -/
def MadeUp (traffic : List Note) : Prop :=
  FlushedAfter (· = .flushFailed .client) traffic

theorem flushedAfter_nil (kind : Note → Prop) : FlushedAfter kind [] := by
  intro before n after split
  simp at split

theorem flushedAfter_concat {kind : Note → Prop} {traffic : List Note} {n : Note} :
    FlushedAfter kind (traffic ++ [n]) ↔
      ¬ kind n ∧ (n = .flushed .client ∨ FlushedAfter kind traffic) := by
  constructor
  · intro followed
    refine ⟨fun ofKind => by simpa using followed traffic n [] rfl ofKind, ?_⟩
    by_cases flush : n = .flushed .client
    · exact .inl flush
    · refine .inr ?_
      intro before m after split ofKind
      have later := followed before m (after ++ [n]) (by simp [split]) ofKind
      obtain inside | last := List.mem_append.1 later
      · exact inside
      · exact absurd (List.mem_singleton.1 last).symm flush
  · rintro ⟨other, rest⟩ before m after split ofKind
    -- either `m` is the new note itself, or the new note is the last one after it
    obtain ⟨-, rfl, -⟩ | ⟨within, rfl, inside⟩ := entry_of_concat split
    · exact absurd ofKind other
    · obtain flush | earlier := rest
      · simp [flush]
      · exact List.mem_append_left _ (earlier before m within inside ofKind)

/-- What was written and which flushes failed are in the same position. -/
def Balanced (traffic : List Note) : Prop :=
  AllFlushed traffic ↔ MadeUp traffic

theorem balanced_nil : Balanced [] :=
  ⟨fun _ => flushedAfter_nil _, fun _ => flushedAfter_nil _⟩

theorem allFlushed_flush (traffic : List Note) : AllFlushed (traffic ++ [.flushed .client]) :=
  flushedAfter_concat.2 ⟨by simp [Note.delivered?], .inl rfl⟩

theorem balanced_flush (traffic : List Note) : Balanced (traffic ++ [.flushed .client]) :=
  ⟨fun _ => flushedAfter_concat.2 ⟨by simp, .inl rfl⟩, fun _ => allFlushed_flush traffic⟩

/-- A flush that fails after a write leaves both open. -/
theorem balanced_flushFailed {traffic : List Note} {n : Note} (wrote : n.delivered?.isSome) :
    Balanced (traffic ++ [n] ++ [.flushFailed .client]) := by
  constructor
  · intro all
    obtain ⟨-, flush | earlier⟩ := flushedAfter_concat.1 all
    · cases flush
    · exact absurd wrote (flushedAfter_concat.1 earlier).1
  · intro made
    exact absurd rfl (flushedAfter_concat.1 made).1

/-- A write that fails changes neither. -/
theorem balanced_writeFailed {traffic : List Note} (balanced : Balanced traffic) :
    Balanced (traffic ++ [.writeFailed .client]) := by
  unfold Balanced AllFlushed MadeUp at *
  rw [flushedAfter_concat, flushedAfter_concat]
  simpa [Note.delivered?] using balanced

namespace Synthesizer

variable {σ : Type} {s : Synthesizer σ} {connection : Connection} {now : Nat}
  {pending left : List Message} {before after : World} {fault : Option Fault}

theorem Settled.allFlushed (settled : Settled connection now pending before after left none) :
    AllFlushed after.traffic := by
  cases settled with
  | flushed traffic metrics =>
      rw [traffic]
      exact allFlushed_flush _

/-- Once all that was pending is written, it was flushed or the flush failed. -/
theorem Settled.balanced (some : pending ≠ [])
    (settled : Settled connection now pending before after left fault) (done : left = []) :
    Balanced after.traffic := by
  cases settled with
  | flushed traffic metrics =>
      rw [traffic]
      exact balanced_flush _
  | unflushed reason traffic metrics =>
      obtain rfl | ⟨earlier, last, rfl⟩ := List.eq_nil_or_concat pending
      · exact absurd rfl some
      · rw [traffic, List.concat_eq_append, List.map_append, ← List.append_assoc]
        exact balanced_flushFailed rfl
  | refused sent m rest reason split traffic metrics => cases done

/-- What is pending waits for an active synthesizer that is bound to a connection, and where
nothing is pending the traffic is balanced. -/
structure Accounted (s : Synthesizer σ) (w : World) : Prop where
  awake : s.pending ≠ [] → s.phase = .active ∧ s.connection.isSome
  balance : s.pending = [] → Balanced w.traffic

/-- Putting out of the way what was pending keeps the traffic balanced. -/
theorem Cleared.balanced (balance : pending = [] → Balanced before.traffic)
    (cleared : Cleared connection now pending before after) : Balanced after.traffic := by
  cases cleared with
  | nothing empty => exact balance empty
  | settled after some settled => exact settled.balanced some rfl

/-- If something was in the way everything is flushed after it, and otherwise nothing was
done. -/
theorem Cleared.allFlushed_iff (balance : pending = [] → Balanced before.traffic)
    (cleared : Cleared connection now pending before after) :
    AllFlushed after.traffic ↔ pending ≠ [] ∨ MadeUp before.traffic := by
  cases cleared with
  | nothing empty => simpa [empty, Balanced] using balance empty
  | settled after some settled => exact ⟨fun _ => .inl some, fun _ => settled.allFlushed⟩

variable [EventSource σ] {t : Tracker} {w : World} {done : Tick σ}

/-- The action of a gesture and the rest of it, seen as one list that is settled. -/
theorem settled_whole {action : Message} {rest : List Message} {middle begun : World}
    {change : Metrics → Metrics} (written : Written connection now action middle begun none)
    (settled : Settled connection now rest (begun.count change) after left fault) :
    Settled connection now (action :: rest) (middle.count change) after left fault := by
  cases written with
  | sent traffic metrics =>
      have counted : (begun.count change).metrics = (middle.count change).metrics :=
        congrArg change metrics
      have noted : (begun.count change).traffic =
          (middle.count change).traffic ++ [action.sent connection now] := traffic
      exact settled.cons noted counted

theorem Ticked.accounted (account : Accounted s w) (ticked : Ticked s now t w done) :
    Accounted done.synth done.world := by
  cases ticked with
  | asleep unable => exact account
  | stalled connection active bound waiting left fault after settled =>
      exact ⟨fun _ => ⟨active, by simp [bound]⟩, settled.balanced waiting⟩
  | early connection active bound after cleared due next before =>
      exact ⟨fun _ => ⟨active, by simp [bound]⟩, fun _ => cleared.balanced account.balance⟩
  | dry connection active bound middle after cleared due empty traffic metrics =>
      refine ⟨fun _ => ⟨active, by simp [looked, bound]⟩, fun _ => ?_⟩
      rw [traffic]
      exact cleared.balanced account.balance
  | unbuildable connection active bound after cleared due event shown fault failed =>
      exact ⟨fun _ => ⟨active, by simp [looked, bound]⟩, fun _ => cleared.balanced account.balance⟩
  | refused connection active bound middle after cleared due event shown action rest built fault
      attempt =>
      refine ⟨fun _ => ⟨active, by simp [looked, bound]⟩, fun _ => ?_⟩
      cases attempt with
      | refused reason traffic metrics =>
          rw [traffic]
          exact balanced_writeFailed (cleared.balanced account.balance)
  | fired connection active bound middle begun after cleared due event shown action rest built
      written left fault settled =>
      refine ⟨fun _ => ⟨active, by simp [wentOn, bound]⟩, ?_⟩
      exact (settled_whole written settled).balanced (List.cons_ne_nil _ _)

theorem Ticked.allFlushed_iff (account : Accounted s w) (ticked : Ticked s now t w done)
    {gesture : Option Gesture} (ok : done.outcome = .ok gesture) :
    AllFlushed done.world.traffic ↔ gesture.isSome ∨ s.pending ≠ [] ∨ MadeUp w.traffic := by
  cases ticked with
  | asleep unable =>
      cases ok
      have empty : s.pending = [] := by
        by_contra waiting
        obtain ⟨active, bound⟩ := account.awake waiting
        obtain inactive | unbound := unable
        · exact inactive active
        · simp [unbound] at bound
      simpa [empty, Balanced] using account.balance empty
  | stalled connection active bound waiting left fault after settled => cases ok
  | early connection active bound after cleared due next before =>
      cases ok
      simpa using cleared.allFlushed_iff account.balance
  | dry connection active bound middle after cleared due empty traffic metrics =>
      cases ok
      rw [traffic]
      simpa using cleared.allFlushed_iff account.balance
  | unbuildable connection active bound after cleared due event shown fault failed => cases ok
  | refused connection active bound middle after cleared due event shown action rest built fault
      attempt => cases ok
  | fired connection active bound middle begun after cleared due event shown action rest built
      written left fault settled =>
      cases fault with
      | some fault => cases ok
      | none =>
          cases ok
          exact ⟨fun _ => .inl rfl, fun _ => settled.allFlushed⟩

/-- A tick that ends well without a gesture tries nothing where nothing was pending. -/
theorem Ticked.traffic_eq (ticked : Ticked s now t w done) (empty : s.pending = [])
    (idle : done.outcome = .ok none) : done.world.traffic = w.traffic := by
  have unmoved {connection : Connection} {after : World}
      (cleared : Cleared connection now s.pending w after) : after = w := by
    cases cleared with
    | nothing => rfl
    | settled after some settled => exact absurd empty some
  cases ticked with
  | asleep unable => rfl
  | stalled connection active bound waiting left fault after settled => cases idle
  | early connection active bound after cleared due next before =>
      exact congrArg World.traffic (unmoved cleared)
  | dry connection active bound middle after cleared due empty traffic metrics =>
      rw [traffic, unmoved cleared]
  | unbuildable connection active bound after cleared due event shown fault failed => cases idle
  | refused connection active bound middle after cleared due event shown action rest built fault
      attempt => cases idle
  | fired connection active bound middle begun after cleared due event shown action rest built
      written left fault settled => cases fault <;> cases idle

end Synthesizer

namespace Injector

variable {σ : Type}

theorem accounted_start (source : σ) (program : Option String) (verbose : Bool) (made : Nat)
    (client server : Channel) :
    let i := start source program verbose made client server
    i.synth.Accounted i.world :=
  ⟨fun waiting => absurd rfl waiting, fun _ => balanced_nil⟩

variable [EventSource σ]

theorem accounted_step {i : Injector σ} (account : i.synth.Accounted i.world) (move : Move) :
    (i.step move).synth.Accounted (i.step move).world := by
  by_cases other : ∀ now, move ≠ .tick now
  · have quiet := i.step_quiet move other
    refine ⟨fun waiting => ?_, fun empty => ?_⟩
    · obtain ⟨active, bound⟩ := account.awake (quiet.pending ▸ waiting)
      exact ⟨quiet.active active, quiet.bound bound⟩
    · rw [quiet.traffic]
      exact account.balance (quiet.pending ▸ empty)
  · obtain ⟨now, tick⟩ := not_forall_not.1 other
    rw [tick]
    exact (i.synth.tick_ticked now i.tracker i.world).accounted account

theorem accounted_run (source : σ) (program : Option String) (verbose : Bool) (made : Nat)
    (client server : Channel) (moves : List Move) :
    let i := (machine σ).run (start source program verbose made client server) moves
    i.synth.Accounted i.world :=
  (machine σ).holds_after (fun i _ => i.synth.Accounted i.world)
    (accounted_start source program verbose made client server)
    (fun _ _ move account => accounted_step account move) moves

/-- **Which ticks leave everything flushed.**  A tick that ends well does, exactly if it began
a gesture, or had something pending, or found every failed flush made up for.  Where it
began nothing and had nothing pending it tries nothing, so a flush that failed before stays
as it is. -/
theorem ok_tick_flushed_iff (source : σ) (program : Option String) (verbose : Bool) (made : Nat)
    (client server : Channel) (moves : List Move) (now : Nat) (gesture : Option Gesture)
    (ok : ((machine σ).run (start source program verbose made client server) moves).outcome now =
      .ok gesture) :
    let i := (machine σ).run (start source program verbose made client server) moves
    let after := i.step (.tick now)
    (AllFlushed after.world.traffic ↔
        gesture.isSome ∨ i.synth.pending ≠ [] ∨ MadeUp i.world.traffic) ∧
      (gesture = none → i.synth.pending = [] → after.world.traffic = i.world.traffic) := by
  intro i after
  have ticked := i.synth.tick_ticked now i.tracker i.world
  have account : i.synth.Accounted i.world :=
    accounted_run source program verbose made client server moves
  refine ⟨ticked.allFlushed_iff account ok, ?_⟩
  intro none empty
  exact ticked.traffic_eq empty (ok.trans (congrArg Except.ok none))

namespace Example

def flushRefused : Injector Script :=
  start leaves none false 0 (.failing (fun _ => none) (refusedAt 0)) .reliable

/-- The second gesture flushes what the first one left. -/
theorem next_gesture_flushes :
    let i := (machine Script).run flushRefused (ready ++ [.tick (millis 50)])
    i.outcome (millis 1050) = .ok (some .leave) ∧ ¬ MadeUp i.world.traffic ∧
      AllFlushed (i.step (.tick (millis 1050))).world.traffic := by
  intro i
  have ok : i.outcome (millis 1050) = .ok (some .leave) := by rfl
  obtain ⟨flushed, -⟩ := ok_tick_flushed_iff leaves none false 0
    (.failing (fun _ => none) (refusedAt 0)) .reliable (ready ++ [Move.tick (millis 50)])
    (millis 1050) (some .leave) ok
  refine ⟨ok, ?_, flushed.2 (.inl rfl)⟩
  intro made
  have traffic : i.world.traffic = i.world.traffic.take 2 ++ .flushFailed .client :: [] := by decide
  simpa using made _ _ _ traffic rfl

/-- After a refused flush a tick with nothing to do ends well, tries no flush, and leaves the
gesture unflushed. -/
theorem refused_flush_not_tried_again :
    let i := (machine Script).run flushRefused (ready ++ [.tick (millis 50)])
    let after := i.step (.tick (millis 60))
    i.outcome (millis 60) = .ok none ∧ after.world.traffic = i.world.traffic ∧
      ¬ AllFlushed after.world.traffic := by
  intro i after
  refine ⟨by rfl, by decide, ?_⟩
  intro all
  have traffic : after.world.traffic =
      [] ++ .wrote .client ⟨1, none⟩ [13, 0, 0, 0, 1, 0, 16, 0, 1, 0, 0, 0, 12, 0, 0, 0]
          (millis 50) ::
        [.wrote .client ⟨1, none⟩ [13, 0, 0, 0, 5, 0, 8, 0] (millis 50), .flushFailed .client] := by
    decide
  have later := all _ _ _ traffic rfl
  simp at later

end Example

end Injector

end WaylandProxy
