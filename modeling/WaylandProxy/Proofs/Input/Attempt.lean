/-
# Proofs.Input.Attempt -- what a tick tries, and which gesture it begins

What a tick offers to the client is what is pending and then, if a gesture is due, the messages of
that gesture (`Injector.offers`).  It tries them in this order until one is refused
(`tick_tries`): the first thing offered is always tried, and a tick that ends well has tried all.

A tick that began a gesture left a definite state behind: the serial is issued, the source has gone
on, the next gesture waits for its delay from there, and of the gesture nothing but a part of what
follows its action can be left to write (`Began`).
-/
import WaylandProxy.Proofs.Input.Emission

namespace WaylandProxy

set_option autoImplicit false

/-! ## Attempts to write -/

def Note.isWrite : Note → Bool
  | .wrote .client .. => true
  | .writeFailed .client => true
  | _ => false

/-- Messages that were tried one after the other, and the attempts: all got through, or the last
one was refused. -/
inductive Tried (connection : Connection) (now : Nat) : List Message → List Note → Prop where
  | sent (messages : List Message) :
      Tried connection now messages (messages.map (Message.sent connection now))
  | refused (sent : List Message) (m : Message) :
      Tried connection now (sent ++ [m])
        (sent.map (Message.sent connection now) ++ [.writeFailed .client])

namespace Tried

variable {connection : Connection} {now : Nat} {tried : List Message} {attempts : List Note}

/-- Messages that got through before the others were tried. -/
theorem after (earlier : List Message) (others : Tried connection now tried attempts) :
    Tried connection now (earlier ++ tried)
      (earlier.map (Message.sent connection now) ++ attempts) := by
  cases others with
  | sent => exact List.map_append ▸ .sent (earlier ++ tried)
  | refused sent m =>
      rw [← List.append_assoc, ← List.append_assoc, ← List.map_append]
      exact .refused (earlier ++ sent) m

end Tried

/-- What was tried between two states of the world: the attempts to write are those of these
messages. -/
def World.Tries (connection : Connection) (now : Nat) (tried : List Message)
    (before after : World) : Prop :=
  ∃ new, after.traffic = before.traffic ++ new ∧
    Tried connection now tried (new.filter Note.isWrite)

/-- Between two states of the world these messages were tried and all got through. -/
def World.Sends (connection : Connection) (now : Nat) (sent : List Message)
    (before after : World) : Prop :=
  ∃ new, after.traffic = before.traffic ++ new ∧
    new.filter Note.isWrite = sent.map (Message.sent connection now)

theorem filter_isWrite_sent (connection : Connection) (now : Nat) (messages : List Message) :
    (messages.map (Message.sent connection now)).filter Note.isWrite =
      messages.map (Message.sent connection now) :=
  List.filter_eq_self.2 fun n member => by
    obtain ⟨m, -, rfl⟩ := List.mem_map.1 member
    rfl

namespace World

variable {connection : Connection} {now : Nat} {tried sent : List Message}
  {before middle after : World}

theorem Sends.nothing (same : after.traffic = before.traffic) :
    Sends connection now [] before after :=
  ⟨[], by simp [same], rfl⟩

theorem Sends.tries (sends : Sends connection now sent before after) :
    Tries connection now sent before after := by
  obtain ⟨new, traffic, attempts⟩ := sends
  exact ⟨new, traffic, attempts ▸ .sent sent⟩

theorem Sends.trans_tries (first : Sends connection now sent before middle)
    (second : Tries connection now tried middle after) :
    Tries connection now (sent ++ tried) before after := by
  obtain ⟨new, traffic, attempts⟩ := first
  obtain ⟨newer, traffic', attempts'⟩ := second
  refine ⟨new ++ newer, by rw [traffic', traffic, List.append_assoc], ?_⟩
  rw [List.filter_append, attempts]
  exact attempts'.after sent

end World

namespace Synthesizer

variable {σ : Type} {connection : Connection} {now : Nat} {pending left : List Message}
  {before after : World} {fault : Option Fault}

open World (Sends Tries)

theorem Cleared.sends (cleared : Cleared connection now pending before after) :
    Sends connection now pending before after := by
  cases cleared with
  | nothing empty => exact empty ▸ .nothing rfl
  | settled after some settled =>
      cases settled with
      | flushed traffic metrics =>
          refine ⟨_, traffic.trans (List.append_assoc _ _ _), ?_⟩
          rw [List.filter_append, filter_isWrite_sent]
          exact List.append_nil _

/-- Settling tries what is pending: all of it, unless one message is refused. -/
theorem Settled.tries (settled : Settled connection now pending before after left fault) :
    ∃ tried others, pending = tried ++ others ∧ (tried = [] → others = []) ∧
      Tries connection now tried before after ∧ (fault = none → others = []) := by
  cases settled with
  | flushed traffic metrics =>
      refine ⟨pending, [], (List.append_nil _).symm, fun _ => rfl, ⟨_,
        traffic.trans (List.append_assoc _ _ _), ?_⟩, fun _ => rfl⟩
      rw [List.filter_append, filter_isWrite_sent]
      exact (List.append_nil _).symm ▸ .sent pending
  | unflushed reason traffic metrics =>
      refine ⟨pending, [], (List.append_nil _).symm, fun _ => rfl, ⟨_,
        traffic.trans (List.append_assoc _ _ _), ?_⟩, nofun⟩
      rw [List.filter_append, filter_isWrite_sent]
      exact (List.append_nil _).symm ▸ .sent pending
  | refused sent m rest reason split traffic metrics =>
      refine ⟨sent ++ [m], rest, by simp [split], by simp, ⟨_,
        traffic.trans (List.append_assoc _ _ _), ?_⟩, nofun⟩
      rw [List.filter_append, filter_isWrite_sent]
      exact .refused sent m

theorem Written.tries {m : Message} (written : Written connection now m before after fault) :
    Tries connection now [m] before after ∧
      (fault = none → Sends connection now [m] before after) := by
  cases written with
  | sent traffic metrics =>
      exact ⟨⟨_, traffic, .sent [m]⟩, fun _ => ⟨_, traffic, rfl⟩⟩
  | refused reason traffic metrics => exact ⟨⟨_, traffic, .refused [] m⟩, nofun⟩

/-! ## The gesture that a tick begins -/

variable [EventSource σ]

/-- A tick began a gesture: all that was pending got through, and then its action. -/
structure Began (s : Synthesizer σ) (w : World) (f : Firing) (done : Tick σ) : Prop where
  active : s.phase = .active
  bound : s.connection = some f.connection
  due : ∀ due, s.nextFire = some due → due ≤ f.now
  shown : (EventSource.current s.source).1 = some f.event
  written : ∃ action rest left, f.built = .ok (action :: rest) ∧ left <:+ rest ∧
    done.synth = s.wentOn f.now left ∧
    delivered done.world.traffic ++ left.map Message.toBytes =
      delivered w.traffic ++ s.pending.map Message.toBytes ++ f.messages.map Message.toBytes
  tracker : done.tracker = issueFor f.event.gesture f.serial f.tracker
  metrics : done.world.metrics = countSynthesized f.event.gesture w.metrics

variable {s : Synthesizer σ} {t : Tracker} {w : World} {done : Tick σ}

theorem Began.more {f : Firing} (began : s.Began w f done) :
    (delivered w.traffic).length + s.pending.length < (delivered done.world.traffic).length := by
  obtain ⟨action, rest, left, built, suffix, -, written⟩ := began.written
  have lengths := congrArg List.length written
  have kept := suffix.length_le
  rw [Firing.messages_of_built built] at lengths
  simp only [List.length_append, List.length_map, List.length_cons] at lengths
  omega

/-- The action of a gesture that began reached the client, right after what was pending. -/
theorem Began.action_written {f : Firing} (began : s.Began w f done) :
    ∃ action rest, f.built = .ok (action :: rest) ∧
      delivered w.traffic ++ s.pending.map Message.toBytes ++ [action.toBytes] <+:
        delivered done.world.traffic := by
  obtain ⟨action, rest, left, built, ⟨sent, split⟩, -, written⟩ := began.written
  refine ⟨action, rest, built, sent.map Message.toBytes, ?_⟩
  rw [Firing.messages_of_built built, ← split] at written
  refine List.append_cancel_right (?_ : _ ++ left.map Message.toBytes = _)
  rw [written]
  simp

/-- A tick began a gesture, or no more got through than was pending and the next gesture is due
when it was. -/
theorem Ticked.began_or (ticked : Ticked s now t w done) :
    (∃ event connection, s.Began w ⟨event, connection, t, now⟩ done) ∨
      (delivered done.world.traffic).length ≤ (delivered w.traffic).length + s.pending.length ∧
        done.synth.nextFire = s.nextFire := by
  have upTo (left : List Message) {after : World}
      (all : delivered after.traffic ++ left.map Message.toBytes =
        delivered w.traffic ++ s.pending.map Message.toBytes) :
      (delivered after.traffic).length ≤ (delivered w.traffic).length + s.pending.length := by
    have lengths := congrArg List.length all
    simp only [List.length_append, List.length_map] at lengths
    omega
  have cleared {connection : Connection} {after : World}
      (cleared : Cleared connection now s.pending w after) :
      (delivered after.traffic).length ≤ (delivered w.traffic).length + s.pending.length :=
    upTo [] ((List.append_nil _).trans cleared.delivered_eq.1)
  cases ticked with
  | asleep unable => exact .inr ⟨Nat.le_add_right _ _, rfl⟩
  | stalled connection active bound waiting left fault after settled =>
      exact .inr ⟨upTo left settled.delivered_append.1, rfl⟩
  | early connection active bound after clears due next before =>
      exact .inr ⟨cleared clears, rfl⟩
  | dry connection active bound middle after clears due empty traffic metrics =>
      exact .inr ⟨traffic ▸ cleared clears, rfl⟩
  | unbuildable connection active bound after clears due event shown fault failed =>
      exact .inr ⟨cleared clears, rfl⟩
  | refused connection active bound middle after clears due event shown action rest built fault
      attempt =>
      have nothing := attempt.delivered_eq.1
      simp only [Option.isSome_some, if_true, List.append_nil] at nothing
      exact .inr ⟨nothing ▸ cleared clears, rfl⟩
  | fired connection active bound middle begun after clears due event shown action rest built
      attempt left fault settled =>
      obtain ⟨written, -⟩ := delivered_more clears attempt settled
      obtain ⟨-, suffix, metrics⟩ := settled.delivered_append
      let f : Firing := ⟨event, connection, t, now⟩
      have messages : f.messages = action :: rest := Firing.messages_of_built built
      refine .inl ⟨event, connection, active, bound, due, shown,
        ⟨action, rest, left, built, suffix, rfl, ?_⟩, rfl, ?_⟩
      · rw [messages]
        exact written
      · rw [metrics, ← clears.delivered_eq.2, ← attempt.delivered_eq.2]
        rfl

end Synthesizer

namespace Injector

variable {σ : Type} [EventSource σ]

/-- **What a tick leaves, by whether it began a gesture.** -/
theorem tick_begins_or_waits (i : Injector σ) (now : Nat) :
    (∃ event connection, i.firing? (.tick now) = some ⟨event, connection, i.tracker, now⟩ ∧
      i.synth.Began i.world ⟨event, connection, i.tracker, now⟩
        (i.synth.tick now i.tracker i.world)) ∨
    i.firing? (.tick now) = none ∧
      (i.step (.tick now)).written.length ≤ i.written.length + i.synth.pending.length ∧
      (i.step (.tick now)).synth.nextFire = i.synth.nextFire := by
  have ticked := i.synth.tick_ticked now i.tracker i.world
  obtain ⟨event, connection, began⟩ | ⟨few, waits⟩ := ticked.began_or
  · refine .inl ⟨event, connection, (if_pos began.more).trans ?_, began⟩
    rw [began.shown, began.bound]
    rfl
  · exact .inr ⟨if_neg (Nat.not_lt.2 few), few, waits⟩

/-- What the gesture leaves that a tick began. -/
theorem began_of_firing {i : Injector σ} {now : Nat} {f : Firing}
    (begun : i.firing? (.tick now) = some f) :
    f.tracker = i.tracker ∧ f.now = now ∧
      i.synth.Began i.world f (i.synth.tick now i.tracker i.world) := by
  obtain ⟨event, connection, began, leaves⟩ | ⟨none, -⟩ := i.tick_begins_or_waits now
  · cases begun.symm.trans began
    exact ⟨rfl, rfl, leaves⟩
  · cases begun.symm.trans none

/-- A tick that got more through than was pending began a gesture. -/
theorem firing?_of_more {i : Injector σ} {now : Nat}
    (more : i.written.length + i.synth.pending.length < (i.step (.tick now)).written.length) :
    ∃ f, i.firing? (.tick now) = some f := by
  obtain ⟨event, connection, begun, -⟩ | ⟨-, few, -⟩ := i.tick_begins_or_waits now
  · exact ⟨_, begun⟩
  · exact absurd more (Nat.not_lt.2 few)

/-! ## What a tick offers -/

/-- The gesture that a tick comes to once nothing is pending: the one shown, if it is due. -/
def next? (i : Injector σ) (now : Nat) : Option Firing :=
  if i.synth.phase = .active ∧ i.synth.nextFire.all (· ≤ now) then
    (EventSource.current i.synth.source).1.bind fun event =>
      i.synth.connection.map fun connection => ⟨event, connection, i.tracker, now⟩
  else none

/-- What a tick offers to the client: what is pending, and then the gesture it comes to. -/
def offers (i : Injector σ) (now : Nat) : List Message :=
  if i.synth.phase = .active ∧ i.synth.connection.isSome then
    i.synth.pending ++ (i.next? now).toList.flatMap Firing.messages
  else []

variable {i : Injector σ} {now : Nat}

theorem offers_eq {connection : Connection} (active : i.synth.phase = .active)
    (bound : i.synth.connection = some connection) :
    i.offers now = i.synth.pending ++ (i.next? now).toList.flatMap Firing.messages :=
  if_pos ⟨active, Option.isSome_iff_exists.2 ⟨connection, bound⟩⟩

theorem next?_of_due {event : Scheduled} {connection : Connection}
    (active : i.synth.phase = .active) (bound : i.synth.connection = some connection)
    (due : ∀ due, i.synth.nextFire = some due → due ≤ now)
    (shown : (EventSource.current i.synth.source).1 = some event) :
    i.next? now = some ⟨event, connection, i.tracker, now⟩ := by
  have due : i.synth.nextFire.all (· ≤ now) = true := by
    cases next : i.synth.nextFire with
    | none => rfl
    | some time => exact decide_eq_true (due time next)
  refine (if_pos ⟨active, due⟩).trans ?_
  rw [shown, bound]
  rfl

theorem next?_of_early {due : Nat} (next : i.synth.nextFire = some due) (before : now < due) :
    i.next? now = none := by
  refine if_neg fun ready => ?_
  have due : due ≤ now := by simpa [next] using ready.2
  exact absurd due (Nat.not_le.2 before)

theorem next?_of_dry (empty : (EventSource.current i.synth.source).1 = none) :
    i.next? now = none := by
  unfold next?
  rw [empty]
  exact ite_self none

/-- **What a tick tries.**  It tries what it offers, in order, until something is refused: it
tries something if it offers anything, and unless it fails it tries everything. -/
theorem tick_tries (i : Injector σ) (now : Nat) :
    ∃ tried left, i.offers now = tried ++ left ∧ (tried = [] → left = []) ∧
      (∀ connection, i.synth.connection = some connection →
        World.Tries connection now tried i.world (i.step (.tick now)).world) ∧
      ∀ done, i.outcome now = .ok done → left = [] := by
  have ticked := i.synth.tick_ticked now i.tracker i.world
  show ∃ tried left, i.offers now = tried ++ left ∧ (tried = [] → left = []) ∧
    (∀ connection, i.synth.connection = some connection →
      World.Tries connection now tried i.world (i.synth.tick now i.tracker i.world).world) ∧
    ∀ done, (i.synth.tick now i.tracker i.world).outcome = .ok done → left = []
  generalize i.synth.tick now i.tracker i.world = done at ticked ⊢
  -- a tick that comes to nothing more than what is pending
  have pendingOnly {connection : Connection} (done : Tick σ) (active : i.synth.phase = .active)
      (bound : i.synth.connection = some connection)
      (sends : World.Sends connection now i.synth.pending i.world done.world)
      (nothing : (i.next? now).toList.flatMap Firing.messages = []) :
      ∃ tried left, i.offers now = tried ++ left ∧ (tried = [] → left = []) ∧
        (∀ connection, i.synth.connection = some connection →
          World.Tries connection now tried i.world done.world) ∧
        ∀ gesture, done.outcome = .ok gesture → left = [] := by
    refine ⟨i.synth.pending, [], ?_, fun _ => rfl, ?_, fun _ _ => rfl⟩
    · rw [offers_eq active bound, nothing]
    · intro other bound'
      cases bound.symm.trans bound'
      exact sends.tries
  cases ticked with
  | asleep unable =>
      have nothing : i.offers now = [] := by
        refine if_neg fun able => ?_
        obtain inactive | unbound := unable
        · exact inactive able.1
        · simp [unbound] at able
      exact ⟨[], [], nothing, fun _ => rfl, fun connection _ =>
        (World.Sends.nothing rfl).tries, fun _ _ => rfl⟩
  | stalled connection active bound waiting left fault after settled =>
      obtain ⟨tried, others, split, first, tries, -⟩ := settled.tries
      refine ⟨tried, others ++ (i.next? now).toList.flatMap Firing.messages, ?_, ?_, ?_,
        fun _ well => by cases well⟩
      · rw [offers_eq active bound, split, List.append_assoc]
      · intro none
        exact absurd (by rw [split, none, first none]; rfl) waiting
      · intro other bound'
        cases bound.symm.trans bound'
        exact tries
  | early connection active bound after cleared due next before =>
      exact pendingOnly ⟨_, _, after, _⟩ active bound cleared.sends
        (by rw [next?_of_early next before]; rfl)
  | dry connection active bound middle after cleared due empty traffic metrics =>
      obtain ⟨new, sent, attempts⟩ := cleared.sends
      exact pendingOnly ⟨_, _, after, _⟩ active bound
        ⟨new, traffic.trans sent, attempts⟩ (by rw [next?_of_dry empty]; rfl)
  | unbuildable connection active bound after cleared due event shown fault failed =>
      have none : Firing.messages ⟨event, connection, i.tracker, now⟩ = [] := by
        replace failed : Firing.built ⟨event, connection, i.tracker, now⟩ = .error fault := failed
        simp [Firing.messages, failed, Except.toOption]
      exact pendingOnly ⟨_, _, after, _⟩ active bound cleared.sends
        (by rw [next?_of_due active bound due shown]; simp [none])
  | refused connection active bound middle after cleared due event shown action rest built fault
      attempt =>
      have messages : Firing.messages ⟨event, connection, i.tracker, now⟩ = action :: rest :=
        Firing.messages_of_built built
      refine ⟨i.synth.pending ++ [action], rest, ?_, by simp, ?_, fun _ well => by cases well⟩
      · rw [offers_eq active bound, next?_of_due active bound due shown]
        simp [messages]
      · intro other bound'
        cases bound.symm.trans bound'
        exact cleared.sends.trans_tries attempt.tries.1
  | fired connection active bound middle begun after cleared due event shown action rest built
      attempt left fault settled =>
      have messages : Firing.messages ⟨event, connection, i.tracker, now⟩ = action :: rest :=
        Firing.messages_of_built built
      obtain ⟨tried, others, split, first, tries, all⟩ := settled.tries
      refine ⟨i.synth.pending ++ ([action] ++ tried), others, ?_, by simp, ?_, ?_⟩
      · rw [offers_eq active bound, next?_of_due active bound due shown]
        simp [messages, split]
      · intro other bound'
        cases bound.symm.trans bound'
        exact cleared.sends.trans_tries ((attempt.tries.2 rfl).trans_tries tries)
      · intro gesture well
        cases fault with
        | none => exact all rfl
        | some fault => cases well

end Injector

end WaylandProxy
