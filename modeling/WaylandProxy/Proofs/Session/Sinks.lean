/-
# Proofs.Session.Sinks -- what the two sinks are asked to take

Each peer has a sink, and the journal holds every attempt to write to one or to flush it
(`World.attempts`).  Whether an attempt succeeds is up to the channel of that peer alone, so what
becomes of a message is read off the channel before it is sent (`Channel.fate`): it arrives, or
the write fails and no flush is tried, or the flush fails.

`deliveries` sends messages one after another over two channels, and `Replay.forward` does to the
world what it says of one message (`attempts_forward`, `arrived_forward`, `channel_forward`).
A step that does not use the sinks leaves the channels and the attempts as they are
(`SparesSinks`).
-/
import Mathlib.Logic.Function.Basic
import WaylandProxy.Proofs.Metrics.Sums
import WaylandProxy.Session.Replay

namespace WaylandProxy

set_option autoImplicit false

/-- An attempt to write to a peer or to flush it. -/
def Note.isAttempt : Note → Bool
  | .wrote .. | .writeFailed _ | .flushed _ | .flushFailed _ => true
  | .shown _ | .logged _ | .remark _ => false

namespace World

/-! ## Attempts -/

/-- The attempts to write to a peer or to flush it, in order. -/
def attempts (w : World) : List Note :=
  w.notes.filter Note.isAttempt

theorem attempts_note (w : World) (n : Note) :
    (w.note n).attempts = w.attempts ++ if n.isAttempt then [n] else [] := by
  unfold attempts notes note
  rw [List.reverse_cons, List.filter_append, List.filter_cons, List.filter_nil]

/-- What a pass tried is seen after what was tried before. -/
theorem attempts_after (before acted : World) :
    (before.after acted).attempts = before.attempts ++ acted.attempts := by
  simp [attempts, notes, after]

theorem channel_after (before acted : World) (peer : Peer) :
    (before.after acted).channel peer = acted.channel peer := by
  cases peer <;> rfl

@[simp] theorem channel_note (w : World) (n : Note) (peer : Peer) :
    (w.note n).channel peer = w.channel peer := by
  cases peer <;> rfl

@[simp] theorem attempts_setChannel (w : World) (peer : Peer) (c : Channel) :
    (w.setChannel peer c).attempts = w.attempts := by
  cases peer <;> rfl

@[simp] theorem channel_setChannel (w : World) (peer : Peer) (c : Channel) :
    (w.setChannel peer c).channel = Function.update w.channel peer c := by
  funext other
  cases peer <;> cases other <;> rfl

@[simp] theorem metrics_setChannel (w : World) (peer : Peer) (c : Channel) :
    (w.setChannel peer c).metrics = w.metrics := by
  cases peer <;> rfl

/-- The messages for a peer that were counted as not having arrived. -/
def lost (w : World) (peer : Peer) : UInt64 :=
  w.metrics.transportErrors.get [("side", peer.name)]

theorem lost_of_metrics {w after : World}
    (same : after.metrics.transportErrors = w.metrics.transportErrors) : after.lost = w.lost := by
  funext peer
  unfold lost
  rw [same]

/-! ## Using a channel -/

/-- An attempt on a channel is noted, and the others are not used. -/
theorem used (w : World) (peer : Peer) (c : Channel) {n : Note} (attempt : n.isAttempt = true) :
    ((w.setChannel peer c).note n).attempts = w.attempts ++ [n] ∧
      ((w.setChannel peer c).note n).channel = Function.update w.channel peer c ∧
      ((w.setChannel peer c).note n).metrics = w.metrics := by
  refine ⟨?_, ?_, metrics_setChannel w peer c⟩
  · rw [attempts_note, attempts_setChannel, if_pos attempt]
  · rw [← channel_setChannel]
    exact funext fun other => channel_note _ n other

theorem write_eq (w : World) (peer : Peer) (connection : Connection) (bytes : List UInt8)
    (now : Nat) :
    ∃ after, w.write peer connection bytes now =
        ((w.channel peer).writeFault (w.channel peer).writes, after) ∧
      after.attempts = w.attempts ++
        [match (w.channel peer).writeFault (w.channel peer).writes with
          | none => .wrote peer connection bytes now
          | some _ => .writeFailed peer] ∧
      after.channel = Function.update w.channel peer
        { w.channel peer with writes := (w.channel peer).writes + 1 } ∧
      after.metrics = w.metrics := by
  unfold write
  simp only
  cases (w.channel peer).writeFault (w.channel peer).writes with
  | none => exact ⟨_, rfl, w.used peer _ rfl⟩
  | some reason => exact ⟨_, rfl, w.used peer _ rfl⟩

theorem flush_eq (w : World) (peer : Peer) :
    ∃ after, w.flush peer = ((w.channel peer).flushFault (w.channel peer).flushes, after) ∧
      after.attempts = w.attempts ++
        [match (w.channel peer).flushFault (w.channel peer).flushes with
          | none => .flushed peer
          | some _ => .flushFailed peer] ∧
      after.channel = Function.update w.channel peer
        { w.channel peer with flushes := (w.channel peer).flushes + 1 } ∧
      after.metrics = w.metrics := by
  unfold flush
  simp only
  cases (w.channel peer).flushFault (w.channel peer).flushes with
  | none => exact ⟨_, rfl, w.used peer _ rfl⟩
  | some reason => exact ⟨_, rfl, w.used peer _ rfl⟩

/-! ## Leaving the sinks alone -/

structure SparesSinks (before after : World) : Prop where
  channel : after.channel = before.channel
  attempts : after.attempts = before.attempts

namespace SparesSinks

theorem refl (w : World) : SparesSinks w w :=
  ⟨rfl, rfl⟩

theorem trans {w middle after : World} (first : SparesSinks w middle)
    (second : SparesSinks middle after) : SparesSinks w after :=
  ⟨second.channel.trans first.channel, second.attempts.trans first.attempts⟩

/-- What a pass spared of what it was shown, it spared in the chain. -/
theorem shown {w after : World} (spares : SparesSinks w.drained after) :
    SparesSinks w (w.after after) := by
  refine ⟨?_, ?_⟩
  · have kept : w.drained.channel = w.channel := by
      funext peer
      cases peer <;> rfl
    funext peer
    rw [channel_after, spares.channel, kept]
  · have nothing : w.drained.attempts = [] := rfl
    rw [attempts_after, spares.attempts, nothing, List.append_nil]

theorem note (w : World) {n : Note} (other : n.isAttempt = false) : SparesSinks w (w.note n) := by
  refine ⟨funext fun peer => w.channel_note n peer, ?_⟩
  rw [attempts_note, other]
  exact List.append_nil _

theorem tell (w : World) (text : String) : SparesSinks w (w.tell text) :=
  note w rfl

theorem log (w : World) (level : Log.Level) (source : Log.Source) (message : String)
    (fields : List (String × Log.Value)) : SparesSinks w (w.log level source message fields) :=
  note w rfl

theorem count (w : World) (change : Metrics → Metrics) : SparesSinks w (w.count change) :=
  ⟨rfl, rfl⟩

theorem takeBreak (w : World) : SparesSinks w w.takeBreak.2 :=
  ⟨rfl, rfl⟩

end SparesSinks

end World

/-! ## Sending one message -/

/-- What becomes of a message that is sent on. -/
inductive Fate where
  | arrived
  /-- It could not be written, and nothing was flushed. -/
  | unwritten (reason : String)
  /-- It was written but could not be flushed. -/
  | unflushed (reason : String)
  deriving DecidableEq

def Fate.reason? : Fate → Option String
  | .arrived => none
  | .unwritten reason => some reason
  | .unflushed reason => some reason

namespace Channel

def fate (c : Channel) : Fate :=
  match c.writeFault c.writes with
  | some reason => .unwritten reason
  | none =>
    match c.flushFault c.flushes with
    | some reason => .unflushed reason
    | none => .arrived

def sent (c : Channel) : Channel :=
  match c.writeFault c.writes with
  | some _ => { c with writes := c.writes + 1 }
  | none => { c with writes := c.writes + 1, flushes := c.flushes + 1 }

end Channel

/-- A message that was sent on at a moment, and what became of it. -/
structure Delivery where
  message : Message
  now : Nat
  fate : Fate

namespace Delivery

def peer (d : Delivery) : Peer :=
  Replay.receiver d.message.direction

/-- What is tried for the message: a write, and if it succeeds a flush. -/
def attempts (d : Delivery) : List Note :=
  match d.fate with
  | .arrived => [.wrote d.peer d.message.connection d.message.toBytes d.now, .flushed d.peer]
  | .unwritten _ => [.writeFailed d.peer]
  | .unflushed _ =>
    [.wrote d.peer d.message.connection d.message.toBytes d.now, .flushFailed d.peer]

/-- The message is one that did not reach a peer. -/
def misses (peer : Peer) (d : Delivery) : Bool :=
  d.peer = peer && d.fate ≠ .arrived

end Delivery

/-- What becomes of messages that are sent on over two channels, one after another. -/
def deliveries : (Peer → Channel) → List (Message × Nat) → List Delivery
  | _, [] => []
  | channels, (m, now) :: rest =>
    let peer := Replay.receiver m.direction
    ⟨m, now, (channels peer).fate⟩ ::
      deliveries (Function.update channels peer (channels peer).sent) rest

def channelsAfter : (Peer → Channel) → List (Message × Nat) → Peer → Channel
  | channels, [] => channels
  | channels, (m, _) :: rest =>
    let peer := Replay.receiver m.direction
    channelsAfter (Function.update channels peer (channels peer).sent) rest

theorem deliveries_append (channels : Peer → Channel) (messages more : List (Message × Nat)) :
    deliveries channels (messages ++ more) =
      deliveries channels messages ++ deliveries (channelsAfter channels messages) more := by
  induction messages generalizing channels with
  | nil => rfl
  | cons first rest ih =>
      simp only [List.cons_append, deliveries, channelsAfter, ih]

theorem channelsAfter_append (channels : Peer → Channel) (messages more : List (Message × Nat)) :
    channelsAfter channels (messages ++ more) =
      channelsAfter (channelsAfter channels messages) more := by
  induction messages generalizing channels with
  | nil => rfl
  | cons first rest ih => exact ih _

/-- Each message is sent once, in their order. -/
theorem map_deliveries (channels : Peer → Channel) (messages : List (Message × Nat)) :
    (deliveries channels messages).map (fun d => (d.message, d.now)) = messages := by
  induction messages generalizing channels with
  | nil => rfl
  | cons first rest ih => rw [deliveries, List.map_cons, ih]

namespace Replay

variable (m : Message) (now : Nat) (w : World)

def delivery : Delivery :=
  ⟨m, now, (w.channel (receiver m.direction)).fate⟩

/-- Sending a message tries what its delivery says, and uses no other channel. -/
theorem send_eq :
    ∃ after, send m now w = ((delivery m now w).fate.reason?, after) ∧
      after.attempts = w.attempts ++ (delivery m now w).attempts ∧
      after.channel = Function.update w.channel (receiver m.direction)
        (w.channel (receiver m.direction)).sent ∧
      after.metrics = w.metrics := by
  unfold send delivery Delivery.attempts Delivery.peer Channel.fate Channel.sent
  generalize receiver m.direction = peer
  obtain ⟨after, write, wrote, used, counted⟩ := w.write_eq peer m.connection m.toBytes now
  simp only [write]
  cases written : (w.channel peer).writeFault (w.channel peer).writes with
  | some reason =>
      rw [written] at wrote
      exact ⟨after, rfl, wrote, used, counted⟩
  | none =>
      rw [written] at wrote
      obtain ⟨last, flush, flushed, usedLast, countedLast⟩ := after.flush_eq peer
      rw [used, Function.update_self] at flush flushed usedLast
      simp only [flush]
      refine ⟨last, ?_, ?_, ?_, countedLast.trans counted⟩
      · cases (w.channel peer).flushFault (w.channel peer).flushes <;> rfl
      · rw [flushed, wrote, List.append_assoc]
        cases (w.channel peer).flushFault (w.channel peer).flushes <;> rfl
      · rw [usedLast, Function.update_idem]

/-- A message that did not arrive is counted for its peer. -/
theorem lost_reportLost (peer other : Peer) (reason : String) :
    (reportLost peer reason w).lost other = w.lost other + if other = peer then 1 else 0 := by
  have names : other.name = peer.name ↔ other = peer := by
    cases other <;> cases peer <;> decide
  show (w.metrics.transportErrors.add [("side", peer.name)] 1).get [("side", other.name)] = _
  rw [Counter.get_add]
  simp only [LabelSet.ofPairs_singleton_inj, Prod.mk.injEq, true_and, names]
  rfl

theorem sparesSinks_reportLost (peer : Peer) (reason : String) :
    World.SparesSinks w (reportLost peer reason w) :=
  (World.SparesSinks.count w _).trans (.log _ _ _ _ _)

/-- **Sending a message on** tries what its delivery says and uses no other channel; the message
arrives, or it is counted as lost for its peer. -/
theorem forward_eq :
    ∃ after, forward m now w = (decide ((delivery m now w).fate = .arrived), after) ∧
      after.attempts = w.attempts ++ (delivery m now w).attempts ∧
      after.channel = Function.update w.channel (receiver m.direction)
        (w.channel (receiver m.direction)).sent ∧
      ∀ peer, after.lost peer =
        w.lost peer + if (delivery m now w).misses peer then 1 else 0 := by
  obtain ⟨after, send, attempts, channel, metrics⟩ := send_eq m now w
  have same : after.lost = w.lost := World.lost_of_metrics (by rw [metrics])
  have receives : (delivery m now w).peer = receiver m.direction := rfl
  unfold forward
  rw [send]
  unfold Delivery.misses
  rw [receives]
  cases (delivery m now w).fate with
  | arrived => exact ⟨after, rfl, attempts, channel, by simp [same]⟩
  | unwritten reason | unflushed reason =>
      have spares := sparesSinks_reportLost after (receiver m.direction) reason
      refine ⟨_, rfl, spares.attempts.trans attempts, spares.channel.trans channel, ?_⟩
      intro peer
      rw [lost_reportLost, same]
      simp [eq_comm]

end Replay

end WaylandProxy
