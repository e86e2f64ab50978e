/-
# Proofs.Traffic -- what happened on the way to the client

Of all that the journal holds, the attempts to write to the client and to flush it are the
`traffic`; log entries and everything else leave it alone.  What was `delivered` is the
bytes of the writes that succeeded.

A channel decides on its own whether an attempt succeeds, so an attempt is described by the
note it leaves: `traffic_write` and `traffic_flush` say which note that is.
-/
import WaylandProxy.Serial.Tracker

namespace WaylandProxy

set_option autoImplicit false

namespace Note

/-- An attempt to write to the client or to flush it. -/
def isTraffic : Note → Bool
  | .wrote .client .. => true
  | .writeFailed .client => true
  | .flushed .client => true
  | .flushFailed .client => true
  | _ => false

/-- The bytes that reached the client. -/
def delivered? : Note → Option (List UInt8)
  | .wrote .client _ bytes _ => some bytes
  | _ => none

/-- The note of an attempt to write to the client. -/
def ofWrite (connection : Connection) (bytes : List UInt8) (now : Nat) : Option String → Note
  | none => .wrote .client connection bytes now
  | some _ => .writeFailed .client

def ofFlush : Option String → Note
  | none => .flushed .client
  | some _ => .flushFailed .client

end Note

/-- The bytes of the writes that succeeded, in order. -/
def delivered (notes : List Note) : List (List UInt8) :=
  notes.filterMap Note.delivered?

/-- Only a write that succeeded delivers. -/
@[simp] theorem delivered_singleton (n : Note) : delivered [n] = n.delivered?.toList := by
  cases reached : n.delivered? with
  | none => exact List.filterMap_cons_none reached
  | some bytes => exact List.filterMap_cons_some reached

@[simp] theorem delivered_append (notes more : List Note) :
    delivered (notes ++ more) = delivered notes ++ delivered more :=
  List.filterMap_append

namespace World

/-- The attempts to write to the client and to flush it, in order. -/
def traffic (w : World) : List Note :=
  w.notes.filter Note.isTraffic

theorem traffic_note (w : World) (n : Note) :
    (w.note n).traffic = w.traffic ++ if n.isTraffic then [n] else [] := by
  simp only [traffic, notes, note, List.reverse_cons, List.filter_append]
  cases counts : n.isTraffic with
  | true => simp [counts]
  | false => simp [counts]

@[simp] theorem traffic_logged (w : World) (entry : Log.Entry) :
    (w.note (.logged entry)).traffic = w.traffic := by
  simp [traffic_note, Note.isTraffic]

@[simp] theorem traffic_log (w : World) (level : Log.Level) (source : Log.Source)
    (message : String) (fields : List (String × Log.Value)) :
    (w.log level source message fields).traffic = w.traffic :=
  w.traffic_logged _

@[simp] theorem traffic_tell (w : World) (text : String) : (w.tell text).traffic = w.traffic := by
  simp [tell, traffic_note, Note.isTraffic]

@[simp] theorem traffic_takeBreak (w : World) : w.takeBreak.2.traffic = w.traffic := rfl

@[simp] theorem traffic_drained (w : World) : w.drained.traffic = [] := rfl

/-- What a pass did is seen after what was there before. -/
theorem traffic_after (before acted : World) :
    (before.after acted).traffic = before.traffic ++ acted.traffic := by
  simp [traffic, notes, after]

/-- A pass that did nothing leaves the world as it was. -/
theorem after_drained (w : World) : w.after w.drained = w := rfl

@[simp] theorem traffic_count (w : World) (change : Metrics → Metrics) :
    (w.count change).traffic = w.traffic := rfl

@[simp] theorem traffic_report (w : World) (report : Option Report) :
    (w.report report).traffic = w.traffic := by
  cases report with
  | none => rfl
  | some r => simp [World.report]

theorem traffic_write (w : World) (connection : Connection) (bytes : List UInt8) (now : Nat) :
    (w.write .client connection bytes now).2.traffic =
      w.traffic ++ [.ofWrite connection bytes now (w.write .client connection bytes now).1] := by
  unfold write
  simp only
  split
  · rw [traffic_note]
    rfl
  · rw [traffic_note]
    rfl

theorem traffic_flush (w : World) :
    (w.flush .client).2.traffic = w.traffic ++ [.ofFlush (w.flush .client).1] := by
  unfold flush
  simp only
  split
  · rw [traffic_note]
    rfl
  · rw [traffic_note]
    rfl

@[simp] theorem metrics_write (w : World) (peer : Peer) (connection : Connection)
    (bytes : List UInt8) (now : Nat) :
    (w.write peer connection bytes now).2.metrics = w.metrics := by
  unfold write
  simp only
  cases peer <;> split <;> rfl

@[simp] theorem metrics_flush (w : World) (peer : Peer) :
    (w.flush peer).2.metrics = w.metrics := by
  unfold flush
  simp only
  cases peer <;> split <;> rfl

end World

end WaylandProxy
