/-
# Proofs.Input.Serials -- the serials of synthesized events

Whoever reads what was written to the client finds a serial in every synthesized event but
a motion and a frame (`Note.issue?`).  A tick writes at most one such event, and then the
serial in it is the one that the tracker had next and takes (`Ticked.issued`); if that
write fails, or what is written is a motion or a frame, the tracker's books stay as they
are.
-/
import WaylandProxy.Proofs.Input.Tick
import WaylandProxy.Proofs.Serial.Sequence

namespace WaylandProxy

set_option autoImplicit false

namespace Synthesizer

def serialOpcodes : List UInt16 :=
  [pointerEnter, pointerLeave, pointerButton, keyboardKey]

end Synthesizer

def Message.ofBytes (connection : Connection) (bytes : List UInt8) : Message :=
  ⟨.fromServer, connection, wordsOfBytes bytes⟩

/-- The serial given out with a synthesized event that was written, if it carries one. -/
def Note.issue? : Note → Option Issue
  | .wrote .client connection bytes _ =>
    let m := Message.ofBytes connection bytes
    if m.opcode ∈ Synthesizer.serialOpcodes then
      (m.word? 2).map fun serial => ⟨serial, none⟩
    else none
  | _ => none

theorem Note.issue?_sent (connection : Connection) (now : Nat) (m : Message) :
    (m.sent connection now).issue? =
      if m.opcode ∈ Synthesizer.serialOpcodes then
        (m.word? 2).map fun serial => (⟨serial, none⟩ : Issue)
      else none := by
  simp only [Message.sent, issue?, Message.ofBytes, Message.wordsOfBytes_toBytes]
  rfl

/-- The serials given out between two states of the world. -/
def World.Gave (before after : World) (issues : List Issue) : Prop :=
  ∃ new, after.traffic = before.traffic ++ new ∧ new.filterMap Note.issue? = issues

namespace World.Gave

theorem of_traffic_eq {before after : World} (same : after.traffic = before.traffic) :
    Gave before after [] :=
  ⟨[], by simp [same], rfl⟩

theorem trans {before middle after : World} {issues more : List Issue}
    (first : Gave before middle issues) (second : Gave middle after more) :
    Gave before after (issues ++ more) := by
  obtain ⟨new, traffic, given⟩ := first
  obtain ⟨newer, traffic', given'⟩ := second
  refine ⟨new ++ newer, ?_, ?_⟩
  · rw [traffic', traffic, List.append_assoc]
  · rw [List.filterMap_append, given, given']

end World.Gave

/-- All that is pending are frames. -/
def Frames (pending : List Message) : Prop :=
  ∀ m ∈ pending, m.opcode = Synthesizer.pointerFrame

namespace Synthesizer

variable {σ : Type} {connection : Connection} {now : Nat} {pending left : List Message}
  {before after : World} {fault : Option Fault}

/-- A gesture's action gives out its serial, unless it is a motion. -/
theorem action_issue {gesture : Gesture} {serial : UInt32} {action : Message}
    (isAction : IsAction gesture serial action) :
    (action.sent connection now).issue? =
      if gesture.carriesSerial then some ⟨serial, none⟩ else none := by
  rw [Note.issue?_sent, isAction.opcode]
  cases gesture with
  | motion x y => rfl
  | _ =>
      rw [isAction.serial rfl]
      rfl

/-- What follows a gesture's action is a frame or nothing. -/
theorem rest_frames {gesture : Gesture} {serial : UInt32} {action : Message}
    {rest : List Message} (group : Group gesture serial (action :: rest)) :
    IsAction gesture serial action ∧ Frames rest := by
  cases group with
  | key onKeyboard key isAction => exact ⟨isAction, fun m member => by cases member⟩
  | pointer onPointer action frame isAction isFrame =>
      refine ⟨isAction, fun m member => ?_⟩
      rw [List.mem_singleton.1 member]
      exact isFrame.opcode

theorem frames_issues (frames : Frames pending) :
    (pending.map (Message.sent connection now)).filterMap Note.issue? = [] := by
  rw [List.filterMap_eq_nil_iff]
  intro n member
  obtain ⟨m, inside, rfl⟩ := List.mem_map.1 member
  rw [Note.issue?_sent, frames m inside]
  rfl

/-- Settling frames gives out nothing, and what is left are frames. -/
theorem Settled.gave (frames : Frames pending)
    (settled : Settled connection now pending before after left fault) :
    World.Gave before after [] ∧ Frames left := by
  cases settled with
  | flushed traffic metrics =>
      refine ⟨⟨_, traffic.trans (List.append_assoc _ _ _), ?_⟩, fun m member => by cases member⟩
      rw [List.filterMap_append, frames_issues frames]
      rfl
  | unflushed reason traffic metrics =>
      refine ⟨⟨_, traffic.trans (List.append_assoc _ _ _), ?_⟩, fun m member => by cases member⟩
      rw [List.filterMap_append, frames_issues frames]
      rfl
  | refused sent m rest reason split traffic metrics =>
      have sentFrames : Frames sent := fun m member => frames m (by simp [split, member])
      refine ⟨⟨_, traffic.trans (List.append_assoc _ _ _), ?_⟩, fun n member => frames n ?_⟩
      · rw [List.filterMap_append, frames_issues sentFrames]
        rfl
      · exact split ▸ List.mem_append_right _ member

theorem Cleared.gave (frames : Frames pending)
    (cleared : Cleared connection now pending before after) : World.Gave before after [] := by
  cases cleared with
  | nothing empty => exact .of_traffic_eq rfl
  | settled after some settled => exact (settled.gave frames).1

variable [EventSource σ] {s : Synthesizer σ} {t : Tracker} {w : World} {done : Tick σ}

/-- **The serial of a tick.**  What a tick gives out is the serial that is due, or nothing,
and the tracker's books say the same. -/
theorem Ticked.issued (frames : Frames s.pending) (ticked : Ticked s now t w done) :
    ∃ issue : Option Issue, World.Gave w done.world issue.toList ∧
      t.Issued issue done.tracker ∧ Frames done.synth.pending := by
  have still : t.Issued none t := .nothing t rfl rfl
  have none_left : Frames [] := fun m member => by cases member
  cases ticked with
  | asleep unable => exact ⟨none, .of_traffic_eq rfl, still, frames⟩
  | stalled connection active bound waiting left fault after settled =>
      obtain ⟨gave, framesLeft⟩ := settled.gave frames
      exact ⟨none, gave, still, framesLeft⟩
  | early connection active bound after cleared due next before =>
      exact ⟨none, cleared.gave frames, still, none_left⟩
  | dry connection active bound middle after cleared due empty traffic metrics =>
      exact ⟨none, (cleared.gave frames).trans (.of_traffic_eq traffic), still, none_left⟩
  | unbuildable connection active bound after cleared due event shown fault failed =>
      exact ⟨none, cleared.gave frames, still, none_left⟩
  | refused connection active bound middle after cleared due event shown action rest built fault
      attempt =>
      have failed : World.Gave middle after [] := by
        cases attempt with
        | refused reason traffic metrics => exact ⟨_, traffic, rfl⟩
      exact ⟨none, (cleared.gave frames).trans failed, still, none_left⟩
  | fired connection active bound middle begun after cleared due event shown action rest built
      written left fault settled =>
      obtain ⟨isAction, restFrames⟩ := rest_frames (materialize_group built)
      obtain ⟨gave, framesLeft⟩ := settled.gave restFrames
      have first : World.Gave middle begun
          (if event.gesture.carriesSerial then [⟨t.nextSerial, none⟩] else []) := by
        cases written with
        | sent traffic metrics =>
            refine ⟨_, traffic, ?_⟩
            rw [List.filterMap_cons, action_issue isAction]
            cases event.gesture.carriesSerial <;> rfl
      -- between the action and the rest only the metrics change
      have counted : World.Gave begun (begun.count (countSynthesized event.gesture)) [] :=
        .of_traffic_eq rfl
      have all := ((cleared.gave frames).trans first).trans (counted.trans gave)
      unfold issueFor
      cases carries : event.gesture.carriesSerial with
      | true =>
          rw [carries] at all
          exact ⟨some ⟨t.nextSerial, none⟩, by simpa using all, t.issue_issued, framesLeft⟩
      | false =>
          rw [carries] at all
          exact ⟨none, by simpa using all, still, framesLeft⟩

end Synthesizer

end WaylandProxy
