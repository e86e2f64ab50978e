/-
# Proofs.Input.Emission -- every gesture once, in order, whatever fails

Over every run of an injector, what was written and what is pending together are the groups
of the gestures that were begun, one after the other (`Emitted.groups`); what is pending is
nothing or the frame of the last of them.  So the client sees a prefix of the groups
however the channel fails: a group is begun once, ended before the next one begins, and
nothing stands inside it.

Which gesture is begun the source decides: the `k`-th one is what the source shows after `k`
advances, and it shows it at every moment while `k` gestures have been begun
(`shown_while`).  That needs the promise that looking does not consume, and nothing else of the
source.  A gesture that is due is begun unless the transport fails (`due_gesture_begins`).
-/
import WaylandProxy.Proofs.Input.Injector
import WaylandProxy.Proofs.Metrics.Sums

namespace WaylandProxy

set_option autoImplicit false

namespace Firing

/-- The messages of a gesture that was made into messages are its group. -/
theorem group {f : Firing} (built : f.built = .ok f.messages) :
    Group f.event.gesture f.serial f.messages :=
  Synthesizer.materialize_group built

/-- What may be left of a gesture after its action is nothing or its frame. -/
theorem suffix_of_rest {f : Firing} {action : Message} {rest left : List Message}
    (built : f.built = .ok (action :: rest)) (suffix : left <:+ rest) :
    left = [] ∨ ∃ frame, f.messages = [action, frame] ∧ IsFrame action frame ∧ left = [frame] := by
  have messages : f.messages = action :: rest := messages_of_built built
  have group : Group f.event.gesture f.serial (action :: rest) :=
    Synthesizer.materialize_group built
  cases group with
  | key onKeyboard key isAction => exact .inl (List.suffix_nil.1 suffix)
  | pointer onPointer action frame isAction isFrame =>
      obtain all | none := List.suffix_cons_iff.1 suffix
      · exact .inr ⟨frame, messages, isFrame, all⟩
      · exact .inl (List.suffix_nil.1 none)

end Firing

namespace Injector

variable {σ : Type} [EventSource σ]

/-- A gesture begun after others is the one at the number of advances so far. -/
theorem shownAt_concat {source now : σ} {fired : List Firing} {f : Firing}
    (events : ∀ (k : Nat) g, fired[k]? = some g → EventSource.ShownAt source k g.event)
    (advanced : EventSource.Advanced source fired.length now)
    (shown : (EventSource.current now).1 = some f.event) :
    ∀ (k : Nat) g, (fired ++ [f])[k]? = some g → EventSource.ShownAt source k g.event := by
  intro k g isAt
  by_cases earlier : k < fired.length
  · rw [List.getElem?_append_left earlier] at isAt
    exact events k g isAt
  · rw [List.getElem?_append_right (by omega), List.getElem?_singleton] at isAt
    split at isAt
    · rename_i here
      cases isAt
      have last : k = fired.length := by omega
      exact last ▸ ⟨now, advanced, shown⟩
    · cases isAt

/-- An injector over a source after it began these gestures. -/
structure Emitted (source : σ) (i : Injector σ) (fired : List Firing) : Prop where
  built : ∀ f ∈ fired, f.built = .ok f.messages
  groups : i.written ++ i.pendingBytes = (fired.flatMap Firing.messages).map Message.toBytes
  pending : i.synth.pending = [] ∨ ∃ f action frame, fired.getLast? = some f ∧
    f.messages = [action, frame] ∧ IsFrame action frame ∧ i.synth.pending = [frame]
  advanced : EventSource.Advanced source fired.length i.synth.source
  events : ∀ (k : Nat) f, fired[k]? = some f → EventSource.ShownAt source k f.event
  counts : ∀ label, i.world.metrics.synthesized.get [("kind", label)] =
    UInt64.ofNat (fired.countP fun f => f.event.gesture.label = label)

theorem emitted_start (source : σ) (program : Option String) (verbose : Bool) (made : Nat)
    (client server : Channel) :
    Emitted source (start source program verbose made client server) [] where
  built := by simp
  groups := rfl
  pending := .inl rfl
  advanced := .start
  events := by simp
  counts := fun _ => rfl

/-- Every move keeps the account, with the gesture that it began at the end. -/
theorem Emitted.after {source : σ} {i after : Injector σ} {fired : List Firing}
    {f : Option Firing} (emitted : Emitted source i fired) (emits : Emits i after f) :
    Emitted source after (fired ++ f.toList) := by
  cases emits with
  | nothing written pending advanced counts =>
      simp only [Option.toList_none, List.append_nil]
      refine ⟨emitted.built, written.trans emitted.groups, ?_, ?_, emitted.events, ?_⟩
      -- what is pending is an end of what was, and that was nothing or one frame
      · obtain empty | ⟨f, action, frame, last, messages, isFrame, one⟩ := emitted.pending
        · exact .inl (List.suffix_nil.1 (empty ▸ pending))
        · rw [one] at pending
          obtain all | none := List.suffix_cons_iff.1 pending
          · exact .inr ⟨f, action, frame, last, messages, isFrame, all⟩
          · exact .inl (List.suffix_nil.1 none)
      · obtain same | looked := advanced
        · exact same ▸ emitted.advanced
        · exact looked ▸ emitted.advanced.look
      · intro label
        rw [counts]
        exact emitted.counts label
  | fired f shown connection tracker action rest built written pending advanced counts =>
      have messages : f.messages = action :: rest := Firing.messages_of_built built
      simp only [Option.toList_some]
      refine ⟨?_, ?_, ?_, ?_, ?_, ?_⟩
      · intro g member
        obtain earlier | this := List.mem_append.1 member
        · exact emitted.built g earlier
        · rw [List.mem_singleton.1 this, messages]
          exact built
      · rw [written, emitted.groups]
        simp
      · obtain empty | ⟨frame, pair, isFrame, one⟩ := Firing.suffix_of_rest built pending
        · exact .inl empty
        · exact .inr ⟨f, action, frame, by simp, pair, isFrame, one⟩
      · rw [advanced, List.length_append]
        exact emitted.advanced.advance.look
      · exact shownAt_concat emitted.events emitted.advanced shown
      · intro label
        -- of the counts only that of the kind of this gesture grows
        have one : LabelSet.ofPairs [("kind", label)] =
            LabelSet.ofPairs [("kind", f.event.gesture.label)] ↔ f.event.gesture.label = label := by
          rw [LabelSet.ofPairs_singleton_inj]
          simp [eq_comm]
        rw [counts, Counter.increment, Counter.get_add, emitted.counts, List.countP_append,
          UInt64.ofNat_add]
        by_cases same : f.event.gesture.label = label <;> simp [one, same]

theorem emitted_run (source : σ) (program : Option String) (verbose : Bool) (made : Nat)
    (client server : Channel) (moves : List Move) :
    Emitted source ((machine σ).run (start source program verbose made client server) moves)
      ((machine σ).outputs (start source program verbose made client server) moves) :=
  (machine σ).holds_after (Emitted source) (emitted_start source program verbose made client server)
    (fun i _ move emitted => emitted.after (i.step_emits move)) moves

/-! ## From any state on -/

/-- What an injector did since an earlier state in which it began these gestures: it wrote what
was pending there and then the groups of the gestures, each of them an event of the source of
its own. -/
structure Onward (before after : Injector σ) (fired : List Firing) : Prop where
  groups : after.written ++ after.pendingBytes =
    before.written ++ before.pendingBytes ++ (fired.flatMap Firing.messages).map Message.toBytes
  advanced : EventSource.Advanced before.synth.source fired.length after.synth.source
  events : ∀ (k : Nat) f, fired[k]? = some f →
    EventSource.ShownAt before.synth.source k f.event

theorem Onward.after {i middle after : Injector σ} {fired : List Firing} {f : Option Firing}
    (onward : Onward i middle fired) (emits : Emits middle after f) :
    Onward i after (fired ++ f.toList) := by
  cases emits with
  | nothing written pending source counts =>
      rw [Option.toList_none, List.append_nil]
      refine ⟨written.trans onward.groups, ?_, onward.events⟩
      obtain same | looked := source
      · exact same ▸ onward.advanced
      · exact looked ▸ onward.advanced.look
  | fired f shown connection tracker action rest built written pending source counts =>
      rw [Option.toList_some]
      refine ⟨?_, ?_, shownAt_concat onward.events onward.advanced shown⟩
      · rw [written, onward.groups]
        simp
      · rw [source, List.length_append]
        exact onward.advanced.advance.look

theorem onward_run (i : Injector σ) (moves : List Move) :
    Onward i ((machine σ).run i moves) ((machine σ).outputs i moves) := by
  have initial : Onward i i [] := ⟨by simp, .start, by simp⟩
  exact (machine σ).holds_after (Onward i) initial
    (fun s _ move onward => onward.after (s.step_emits move)) moves

/-! ## What the source shows -/

/-- The gesture that a run begins first is what the source shows before the run. -/
theorem shown_first (repeats : EventSource.Repeats σ) :
    ∀ (moves : List Move) (i : Injector σ) (f : Firing) (later : List Firing),
      (machine σ).outputs i moves = f :: later →
      (EventSource.current i.synth.source).1 = some f.event
  | [], i, f, later, begun => by cases begun
  | move :: rest, i, f, later, begun => by
      have emits := i.step_emits move
      rw [Machine.outputs_cons] at begun
      change (i.firing? move).toList ++ (machine σ).outputs (i.step move) rest = f :: later at begun
      generalize i.firing? move = first at emits begun
      generalize i.step move = after at emits begun
      cases emits with
      | nothing written pending source counts =>
          -- the move may have looked at the source, which shows the same again
          have next := shown_first repeats rest after f later begun
          obtain same | looked := source
          · rw [← same]
            exact next
          · rw [looked, repeats] at next
            exact next
      | fired g shown connection tracker action rest built written pending source counts =>
          have same : g = f := (List.cons.inj begun).1
          exact same ▸ shown

/-- The gesture at `k` is what the source shows at every moment at which `k` gestures have
been begun. -/
theorem shown_while (repeats : EventSource.Repeats σ) (i : Injector σ) (moves : List Move)
    {k : Nat} {f : Firing} (begun : ((machine σ).outputs i moves)[k]? = some f) (moment : Nat)
    (sofar : ((machine σ).outputs i (moves.take moment)).length = k) :
    (EventSource.current ((machine σ).run i (moves.take moment)).synth.source).1 =
      some f.event := by
  have split := (machine σ).outputs_append i (moves.take moment) (moves.drop moment)
  rw [List.take_append_drop] at split
  rw [split, List.getElem?_append_right (by omega), sofar, Nat.sub_self] at begun
  obtain ⟨later, rest⟩ := List.head?_eq_some_iff.1 (List.head?_eq_getElem?.trans begun)
  exact shown_first repeats (moves.drop moment) _ f later rest

/-! ## Due gestures -/

/-- A tick at which a gesture is due begins it and does all of it, unless it reports that the
transport failed. -/
theorem due_gesture_begins (i : Injector σ) (f : Firing) (active : i.synth.phase = .active)
    (bound : i.synth.connection = some f.connection) (tracker : i.tracker = f.tracker)
    (due : ∀ due, i.synth.nextFire = some due → due ≤ f.now)
    (shown : (EventSource.current i.synth.source).1 = some f.event)
    (built : f.built = .ok f.messages) :
    (∃ reason, i.outcome f.now = .error (.transport reason)) ∨
      i.outcome f.now = .ok (some f.event.gesture) ∧ i.firing? (.tick f.now) = some f := by
  obtain ⟨event, connection, t, now⟩ := f
  cases tracker
  have ticked := i.synth.tick_ticked now i.tracker i.world
  show (∃ reason, (i.synth.tick now i.tracker i.world).outcome = .error (.transport reason)) ∨
    (i.synth.tick now i.tracker i.world).outcome = .ok (some event.gesture) ∧
      i.begun? now (i.synth.tick now i.tracker i.world).world =
        some ⟨event, connection, i.tracker, now⟩
  generalize i.synth.tick now i.tracker i.world = done at ticked ⊢
  cases ticked with
  | asleep unable =>
      obtain inactive | unbound := unable
      · exact absurd active inactive
      · rw [unbound] at bound
        cases bound
  | stalled other _ bound' waiting left fault after settled =>
      cases settled with
      | unflushed reason traffic metrics => exact .inl ⟨reason, rfl⟩
      | refused sent m rest reason split traffic metrics => exact .inl ⟨reason, rfl⟩
  | early other _ bound' after cleared later next before =>
      exact absurd (due later next) (Nat.not_le.2 before)
  | dry other _ bound' middle after cleared due' empty traffic metrics =>
      rw [shown] at empty
      cases empty
  | unbuildable other _ bound' after cleared due' event' shown' fault failed =>
      cases bound.symm.trans bound'
      cases shown.symm.trans shown'
      exact absurd (built.symm.trans failed) (by simp)
  | refused other _ bound' middle after cleared due' event' shown' action rest built' fault
      attempt =>
      cases attempt with
      | refused reason traffic metrics => exact .inl ⟨reason, rfl⟩
  | fired other _ bound' middle begun after cleared due' event' shown' action rest built'
      attempt left fault settled =>
      cases bound.symm.trans bound'
      cases shown.symm.trans shown'
      have began := i.begun?_of_fired cleared shown bound attempt settled
      cases fault with
      | none => exact .inr ⟨rfl, began⟩
      | some fault =>
          cases settled with
          | unflushed reason traffic metrics => exact .inl ⟨reason, rfl⟩
          | refused sent m rest reason split traffic metrics => exact .inl ⟨reason, rfl⟩

/-! ## The whole account -/

/-- **Every gesture once, in order, whatever fails.**  What reached the client is a prefix of
the groups of the gestures begun; what is pending is the rest of the last group, at most its
frame; each gesture is what the source showed when it was its turn; the source went on, and a
synthesized event of the kind was counted, once for each gesture begun; and the gesture that is
due is begun by the next tick that does not report a failed transport. -/
theorem emission_exactly_once (repeats : EventSource.Repeats σ) (source : σ)
    (program : Option String) (verbose : Bool) (made : Nat) (client server : Channel)
    (moves : List Move) :
    let before := start source program verbose made client server
    let i := (machine σ).run before moves
    let fired := (machine σ).outputs before moves
    let groups := (fired.flatMap Firing.messages).map Message.toBytes
    i.written <+: groups ∧
      i.written ++ i.pendingBytes = groups ∧
      (∀ f ∈ fired, f.built = .ok f.messages ∧ Group f.event.gesture f.serial f.messages) ∧
      (i.synth.pending = [] ∨ ∃ f action frame, fired.getLast? = some f ∧
        f.messages = [action, frame] ∧ IsFrame action frame ∧ i.synth.pending = [frame]) ∧
      EventSource.Advanced source fired.length i.synth.source ∧
      (∀ (k : Nat) f, fired[k]? = some f → EventSource.ShownAt source k f.event ∧
        ∀ moment, ((machine σ).outputs before (moves.take moment)).length = k →
          (EventSource.current ((machine σ).run before (moves.take moment)).synth.source).1 =
            some f.event) ∧
      (∀ label, i.world.metrics.synthesized.get [("kind", label)] =
        UInt64.ofNat (fired.countP fun f => f.event.gesture.label = label)) ∧
      ∀ f : Firing, i.synth.phase = .active → i.synth.connection = some f.connection →
        i.tracker = f.tracker → (∀ due, i.synth.nextFire = some due → due ≤ f.now) →
        (EventSource.current i.synth.source).1 = some f.event → f.built = .ok f.messages →
        (∃ reason, i.outcome f.now = .error (.transport reason)) ∨
          i.outcome f.now = .ok (some f.event.gesture) ∧ i.firing? (.tick f.now) = some f := by
  intro before i fired groups
  have emitted : Emitted source i fired :=
    emitted_run source program verbose made client server moves
  refine ⟨⟨i.pendingBytes, emitted.groups⟩, emitted.groups, ?_, emitted.pending, emitted.advanced,
    ?_, emitted.counts, i.due_gesture_begins⟩
  · intro f member
    have built := emitted.built f member
    exact ⟨built, Firing.group built⟩
  · intro k f begun
    exact ⟨emitted.events k f begun, shown_while repeats before moves begun⟩

namespace Example

/-- The second write to the client is refused. -/
def frameRefused : Injector Script :=
  start leaves none false 0 (.failing (refusedAt 1) fun _ => none) .reliable

theorem frame_waits_for_its_turn :
    EventSource.Repeats Script ∧
      let i := (machine Script).run frameRefused (ready ++ [.tick (millis 50)])
      i.written = [[13, 0, 0, 0, 1, 0, 16, 0, 1, 0, 0, 0, 12, 0, 0, 0]] ∧
        ∃ action frame, IsFrame action frame ∧ i.synth.pending = [frame] := by
  have repeats : EventSource.Repeats Script := EventSource.repeats_of_lawful
  obtain ⟨-, -, -, pending, -⟩ := emission_exactly_once repeats leaves none false 0
    (.failing (refusedAt 1) fun _ => none) .reliable (ready ++ [.tick (millis 50)])
  refine ⟨repeats, by decide, ?_⟩
  obtain empty | ⟨f, action, frame, -, -, isFrame, one⟩ := pending
  · exact absurd (congrArg List.length empty) (by decide)
  · exact ⟨action, frame, isFrame, one⟩

end Example

end Injector

end WaylandProxy
