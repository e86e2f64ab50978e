/-
# Proofs.Serial.Callback -- what a message does to the callbacks

A tracker waits for the answer to one frame callback and to the sync callbacks in its ring.  An
event of the server is taken for the answer to one of them or changes neither
(`observeServer_event`); a request of the client asks for a sync or a frame callback or changes
neither (`observeClient_request`).  Each lemma leaves a few cases with all that the message did
to the callbacks, so that nothing has to look into an observation again.

Only a request for a sync callback is ever reported as one that cannot be followed.
-/
import WaylandProxy.Proofs.Serial.Answer
import WaylandProxy.Proofs.Serial.Ring

namespace WaylandProxy

set_option autoImplicit false

/-- The report is of a sync callback that cannot be followed. -/
def Report.isOverflow : Report → Bool
  | .malformed .. => false
  | .untracked .. => true

/-- No sync callback is reported. -/
def Observed.Quiet (seen : Observed) : Prop :=
  ∀ r ∈ seen.report, r.isOverflow = false

namespace Tracker

theorem pass_quiet (t : Tracker) (m : Message) : (t.pass m).Quiet := by
  intro r reported
  cases reported

theorem malformed_quiet (t : Tracker) (m : Message) (reason : String) :
    (t.malformed m reason).Quiet := by
  intro r reported
  cases reported
  rfl

/-! ## Events of the server -/

/-- How an event meets the callbacks, and what it leaves of them. -/
inductive EventMeets (t : Tracker) (m : Message) (after : Tracker) : Prop where
  /-- It is taken for the answer to the frame callback. -/
  | frame (wellFormed : m.flaw? = none) (answers : t.AnswersFrame m) (frame : after.frame = none)
      (syncs : after.syncs = t.syncs)
  /-- It is taken for the answer to the oldest sync callback. -/
  | sync (wellFormed : m.flaw? = none) (otherwise : ¬ t.AnswersFrame m) (answers : t.AnswersSync m)
      (popped : t.syncs.pop = some (m.object, after.syncs)) (frame : after.frame = t.frame)
  /-- It is malformed, or comes from neither. -/
  | neither (foreign : m.flaw? = none → ¬ t.AnswersFrame m ∧ ¬ t.AnswersSync m)
      (frame : after.frame = t.frame) (syncs : after.syncs = t.syncs)

theorem renumber_callbacks (t : Tracker) (m : Message) (word : Nat) :
    (t.renumber m word).tracker.frame = t.frame ∧ (t.renumber m word).tracker.syncs = t.syncs := by
  cases has : m.word? word with
  | none =>
      rw [t.renumber_of_none has]
      exact ⟨rfl, rfl⟩
  | some origin =>
      rw [t.renumber_of_word? has]
      exact ⟨rfl, rfl⟩

/-- **An event and the callbacks.** -/
theorem observeServer_event (t : Tracker) (resolved : Option Resolved) (m : Message) (now : Nat) :
    t.EventMeets m (t.observeServer resolved m now).tracker := by
  cases flaw : m.flaw? with
  | some reason =>
      have malformed : t.observeServer resolved m now = t.malformed m reason.fault.text := by
        unfold observeServer
        rw [flaw]
      rw [malformed]
      exact .neither (fun wellFormed => by cases flaw.symm.trans wellFormed) rfl rfl
  | none =>
      rw [observeServer_of_wellFormed flaw]
      by_cases frame : t.AnswersFrame m
      · rw [observeEvent_frame frame]
        cases m.word? 2 with
        | none => exact .frame flaw frame rfl rfl
        | some stamp => exact .frame flaw frame rfl rfl
      · by_cases sync : t.AnswersSync m
        · rw [observeEvent_sync frame sync]
          obtain ⟨sameFrame, sameSyncs⟩ := t.withoutOldestSync.renumber_callbacks m 2
          obtain ⟨rest, popped⟩ := SyncRing.pop_of_oldest? sync.2
          refine .sync flaw frame sync ?_ sameFrame
          rw [sameSyncs, popped]
          unfold withoutOldestSync
          rw [popped]
        · rw [observeEvent_other frame sync]
          have foreign : m.flaw? = none → ¬ t.AnswersFrame m ∧ ¬ t.AnswersSync m :=
            fun _ => ⟨frame, sync⟩
          cases issuingWord? resolved m with
          | none => exact .neither foreign rfl rfl
          | some word =>
              obtain ⟨sameFrame, sameSyncs⟩ := t.renumber_callbacks m word
              exact .neither foreign sameFrame sameSyncs

theorem renumber_quiet (t : Tracker) (m : Message) (word : Nat) : (t.renumber m word).Quiet := by
  cases has : m.word? word with
  | none =>
      rw [t.renumber_of_none has]
      exact t.malformed_quiet m _
  | some origin =>
      rw [t.renumber_of_word? has]
      exact pass_quiet t m

theorem observeServer_quiet (t : Tracker) (resolved : Option Resolved) (m : Message) (now : Nat) :
    (t.observeServer resolved m now).Quiet := by
  cases flaw : m.flaw? with
  | some reason =>
      unfold observeServer
      rw [flaw]
      exact t.malformed_quiet m _
  | none =>
      rw [observeServer_of_wellFormed flaw]
      by_cases frame : t.AnswersFrame m
      · rw [observeEvent_frame frame]
        cases m.word? 2 with
        | none => exact malformed_quiet _ m _
        | some stamp => exact pass_quiet _ m
      · by_cases sync : t.AnswersSync m
        · rw [observeEvent_sync frame sync]
          exact renumber_quiet _ m 2
        · rw [observeEvent_other frame sync]
          cases issuingWord? resolved m with
          | none => exact t.pass_quiet m
          | some word => exact t.renumber_quiet m word

/-! ## Requests of the client -/

/-- The id of the object that a request of this interface and opcode makes. -/
def requestedId? (interface : String) (opcode : UInt16) (resolved : Option Resolved)
    (m : Message) : Option UInt32 :=
  if m.flaw? = none ∧ resolved.map Resolved.interface = some interface ∧ m.opcode = opcode then
    m.word? 2
  else none

def requestedSync? : Option Resolved → Message → Option UInt32 :=
  requestedId? "wl_display" 0

def requestedFrame? : Option Resolved → Message → Option UInt32 :=
  requestedId? "wl_surface" 3

theorem requestedId?_eq_some {interface : String} {opcode : UInt16} {resolved : Option Resolved}
    {m : Message} {id : UInt32} :
    requestedId? interface opcode resolved m = some id ↔
      m.flaw? = none ∧ resolved.map Resolved.interface = some interface ∧ m.opcode = opcode ∧
        m.word? 2 = some id := by
  unfold requestedId?
  split
  · rename_i is
    exact ⟨fun has => ⟨is.1, is.2.1, is.2.2, has⟩, fun known => known.2.2.2⟩
  · rename_i other
    exact ⟨fun none => (Option.some_ne_none _ none.symm).elim,
      fun known => (other ⟨known.1, known.2.1, known.2.2.1⟩).elim⟩

/-- The place of a request by its interface and opcodes. -/
def Request.place? : Request → Option (String × List UInt16)
  | .sync => some ("wl_display", [0])
  | .frame => some ("wl_surface", [3])
  | .createSurface => some ("wl_compositor", [0])
  | .getPointer => some ("wl_seat", [0])
  | .getKeyboard => some ("wl_seat", [1])
  | .damage => some ("wl_surface", [2, 9])
  | .commit => some ("wl_surface", [6])
  | .createBuffer => some ("wl_shm_pool", [0])
  | .other => none

theorem Request.mem_place?_of {interface : String} {opcode : UInt16} :
    ∀ place ∈ (Request.of interface opcode).place?, interface = place.1 ∧ opcode ∈ place.2 := by
  unfold Request.of
  repeat' split
  all_goals rintro place ⟨⟩
  all_goals rename_i is
  all_goals exact ⟨is.1, by simp [is.2]⟩

/-- No two requests have one place. -/
theorem Request.of_eq_iff {request : Request} {at_ : String} {opcodes : List UInt16}
    (place : request.place? = some (at_, opcodes)) {interface : String} {opcode : UInt16} :
    Request.of interface opcode = request ↔ interface = at_ ∧ opcode ∈ opcodes := by
  constructor
  · rintro rfl
    exact mem_place?_of _ place
  · rintro ⟨rfl, here⟩
    cases request with
    | damage =>
        cases place
        obtain rfl | rfl : opcode = 2 ∨ opcode = 9 := by simpa using here
        · rfl
        · rfl
    | other => cases place
    | _ =>
        cases place
        cases List.mem_singleton.1 here
        rfl

inductive RequestMeets (t : Tracker) (resolved : Option Resolved) (m : Message) (seen : Observed) :
    Prop where
  /-- It makes a sync callback, and there is room for it. -/
  | tracked (id : UInt32) (requests : requestedSync? resolved m = some id)
      (room : t.syncs.size < SyncRing.capacity)
      (syncs : seen.tracker.syncs.toList = t.syncs.toList ++ [id])
      (frame : seen.tracker.frame = t.frame) (report : seen.report = none)
  /-- It makes a sync callback, and there is no room for it. -/
  | refused (id : UInt32) (requests : requestedSync? resolved m = some id)
      (full : ¬ t.syncs.size < SyncRing.capacity)
      (seen_eq : seen = ⟨t, m, none, some (.untracked id (.overflow SyncRing.capacity))⟩)
  /-- It makes a frame callback. -/
  | framed (id : UInt32) (noSync : requestedSync? resolved m = none)
      (requests : requestedFrame? resolved m = some id) (frame : seen.tracker.frame = some id)
      (syncs : seen.tracker.syncs = t.syncs)
      (quiet : seen.Quiet)
  /-- It makes neither. -/
  | neither (noSync : requestedSync? resolved m = none) (frame : seen.tracker.frame = t.frame)
      (syncs : seen.tracker.syncs = t.syncs)
      (quiet : seen.Quiet)

theorem requestedSync?_of_echoing {r : Resolved} {m : Message} {word : Nat}
    (echoes : SerialPlace.find? SerialPlace.echoing r.interface m.opcode = some word) :
    requestedSync? (some r) m = none := by
  refine Option.eq_none_iff_forall_ne_some.2 fun id requests => ?_
  obtain ⟨-, display, sync, -⟩ := requestedId?_eq_some.1 requests
  rw [Option.some.inj display, sync] at echoes
  cases echoes

theorem restore_callbacks (t : Tracker) (m : Message) (word : Nat) :
    (t.restore m word).tracker.frame = t.frame ∧ (t.restore m word).tracker.syncs = t.syncs ∧
      (t.restore m word).Quiet := by
  cases has : m.word? word with
  | none =>
      rw [t.restore_of_none has]
      exact ⟨rfl, rfl, t.malformed_quiet m _⟩
  | some seen =>
      rw [t.restore_of_word? has]
      exact ⟨rfl, rfl, t.pass_quiet _⟩

theorem observeRequest_callbacks (t : Tracker) {request : Request} (noSync : request ≠ .sync)
    (noFrame : request ≠ .frame) (m : Message) :
    (t.observeRequest request m).tracker.frame = t.frame ∧
      (t.observeRequest request m).tracker.syncs = t.syncs ∧
      (t.observeRequest request m).Quiet := by
  unfold observeRequest
  cases request with
  | sync => exact absurd rfl noSync
  | frame => exact absurd rfl noFrame
  | damage =>
      simp only
      split <;> exact ⟨rfl, rfl, pass_quiet _ m⟩
  | commit =>
      simp only
      split <;> exact ⟨rfl, rfl, pass_quiet _ m⟩
  | createBuffer =>
      simp only
      split
      · exact ⟨rfl, rfl, pass_quiet _ m⟩
      · exact ⟨rfl, rfl, t.malformed_quiet m _⟩
  | _ => exact ⟨rfl, rfl, pass_quiet _ m⟩

/-- A request that echoes no serial, by what it is to the tracker. -/
theorem observeRequest_meets (t : Tracker) (r : Resolved) (m : Message)
    (wellFormed : m.flaw? = none) :
    t.RequestMeets (some r) m (t.observeRequest (Request.of r.interface m.opcode) m) := by
  have syncPlace : Request.sync.place? = some ("wl_display", [0]) := rfl
  have framePlace : Request.frame.place? = some ("wl_surface", [3]) := rfl
  have syncOf : requestedSync? (some r) m =
      if Request.of r.interface m.opcode = .sync then m.word? 2 else none := by
    simp [requestedSync?, requestedId?, wellFormed, Request.of_eq_iff syncPlace]
  have frameOf : requestedFrame? (some r) m =
      if Request.of r.interface m.opcode = .frame then m.word? 2 else none := by
    simp [requestedFrame?, requestedId?, wellFormed, Request.of_eq_iff framePlace]
  generalize Request.of r.interface m.opcode = request at syncOf frameOf ⊢
  by_cases sync : request = .sync
  · subst sync
    simp only [observeRequest]
    cases newId : m.word? 2 with
    | none =>
        exact .neither (syncOf.trans newId) rfl rfl (t.malformed_quiet m _)
    | some id =>
        have requests : requestedSync? (some r) m = some id := syncOf.trans newId
        by_cases room : t.syncs.size < SyncRing.capacity
        · obtain ⟨after, pushed, ids⟩ := SyncRing.push_eq_ok room id
          simp only [pushed]
          exact .tracked id requests room ids rfl rfl
        · simp only [SyncRing.push_eq_error room id]
          exact .refused id requests room rfl
  · have noSync : requestedSync? (some r) m = none := syncOf.trans (if_neg sync)
    by_cases frame : request = .frame
    · subst frame
      simp only [observeRequest]
      cases newId : m.word? 2 with
      | none =>
          exact .neither noSync rfl rfl (t.malformed_quiet m _)
      | some id =>
          exact .framed id noSync (frameOf.trans newId) rfl rfl (pass_quiet _ m)
    · obtain ⟨sameFrame, sameSyncs, quiet⟩ := t.observeRequest_callbacks sync frame m
      exact .neither noSync sameFrame sameSyncs quiet

/-- **A request and the callbacks.** -/
theorem observeClient_request (t : Tracker) (resolved : Option Resolved) (m : Message) :
    t.RequestMeets resolved m (t.observeClient resolved m) := by
  cases flaw : m.flaw? with
  | some reason =>
      have malformed : t.observeClient resolved m = t.malformed m reason.fault.text := by
        unfold observeClient
        rw [flaw]
      have noSync : requestedSync? resolved m = none :=
        if_neg fun wellFormed => by cases flaw.symm.trans wellFormed.1
      rw [malformed]
      exact .neither noSync rfl rfl (t.malformed_quiet m _)
  | none =>
      unfold observeClient
      rw [flaw]
      cases resolved with
      | none =>
          exact .neither (if_neg fun known => by cases known.2.1) rfl rfl (t.pass_quiet m)
      | some r =>
          simp only
          cases echoes : SerialPlace.find? SerialPlace.echoing r.interface m.opcode with
          | some word =>
              obtain ⟨frame, syncs, quiet⟩ := t.restore_callbacks m word
              exact .neither (requestedSync?_of_echoing echoes) frame syncs quiet
          | none => exact t.observeRequest_meets r m flaw

/-! ## Callbacks that are waited for -/

/-- The tracker waits for the answer to this callback. -/
def Awaits (t : Tracker) (id : UInt32) : Prop :=
  t.frame = some id ∨ id ∈ t.syncs.toList

instance (t : Tracker) (id : UInt32) : Decidable (t.Awaits id) :=
  inferInstanceAs (Decidable (_ ∨ _))

variable {t : Tracker} {resolved : Option Resolved} {m : Message} {id : UInt32}

/-- An event is taken for an answer only if it comes from an id that is waited for. -/
theorem awaits_of_answers (answers : t.AnswersFrame m ∨ t.AnswersSync m) : t.Awaits m.object := by
  obtain ⟨-, frame⟩ | ⟨-, oldest⟩ := answers
  · exact .inl frame
  · rw [SyncRing.oldest?_eq_head?] at oldest
    exact .inr (List.mem_of_head? oldest)

theorem Awaits.of_observeServer {now : Nat}
    (awaits : (t.observeServer resolved m now).tracker.Awaits id) : t.Awaits id := by
  unfold Awaits at *
  cases t.observeServer_event resolved m now with
  | frame wellFormed answers frame syncs =>
      rw [frame, syncs] at awaits
      obtain none | inRing := awaits
      · cases none
      · exact .inr inRing
  | sync wellFormed otherwise answers popped frame =>
      rw [frame] at awaits
      rw [SyncRing.toList_of_pop popped]
      exact awaits.imp_right (List.mem_cons_of_mem _)
  | neither foreign frame syncs =>
      rw [frame, syncs] at awaits
      exact awaits

/-- A request makes the tracker wait for the callback that it makes and for no other. -/
theorem Awaits.of_observeClient
    (awaits : (t.observeClient resolved m).tracker.Awaits id) :
    t.Awaits id ∨ requestedSync? resolved m = some id ∨ requestedFrame? resolved m = some id := by
  unfold Awaits at *
  cases t.observeClient_request resolved m with
  | tracked new requests room syncs frame report =>
      rw [frame, syncs, List.mem_append, List.mem_singleton] at awaits
      obtain isFrame | inRing | rfl := awaits
      · exact .inl (.inl isFrame)
      · exact .inl (.inr inRing)
      · exact .inr (.inl requests)
  | refused new requests full seen =>
      rw [seen] at awaits
      exact .inl awaits
  | framed new noSync requests frame syncs quiet =>
      rw [frame, syncs] at awaits
      obtain isFrame | inRing := awaits
      · cases isFrame
        exact .inr (.inr requests)
      · exact .inl (.inr inRing)
  | neither noSync frame syncs quiet =>
      rw [frame, syncs] at awaits
      exact .inl awaits

/-! ## Events that answer nothing -/

/-- The clock and the callbacks are as they were, and the serial that the table has for the
message is renumbered. -/
structure LeftAlone (t : Tracker) (resolved : Option Resolved) (m : Message) (after : Tracker)
    (left : Message) : Prop where
  clock : after.clock = t.clock
  frame : after.frame = t.frame
  syncs : after.syncs = t.syncs
  serial : ∀ word origin, issuingWord? resolved m = some word → m.word? word = some origin →
    left = { m with words := m.words.set word (t.due (some origin)) } ∧
      after.serial = some (t.due (some origin))

theorem renumberAt_leftAlone (t : Tracker) (resolved : Option Resolved) (m : Message) :
    let seen := t.renumberAt m (issuingWord? resolved m)
    t.LeftAlone resolved m seen.tracker seen.message := by
  intro seen
  cases place : issuingWord? resolved m with
  | none =>
      have passed : seen = t.pass m := congrArg (t.renumberAt m) place
      rw [passed]
      exact ⟨rfl, rfl, rfl, fun word origin found => by cases place.symm.trans found⟩
  | some word =>
      have renumbered : seen = t.renumber m word := congrArg (t.renumberAt m) place
      cases has : m.word? word with
      | none =>
          rw [renumbered, t.renumber_of_none has]
          refine ⟨rfl, rfl, rfl, fun other origin found carries => ?_⟩
          cases place.symm.trans found
          cases has.symm.trans carries
      | some origin =>
          rw [renumbered, t.renumber_of_word? has]
          refine ⟨rfl, rfl, rfl, fun other origin' found carries => ?_⟩
          cases place.symm.trans found
          cases has.symm.trans carries
          exact ⟨rfl, rfl⟩

/-- **A well-formed event leaves clock and callbacks alone and has its serial renumbered exactly
if it is not taken for an answer.** -/
theorem leftAlone_iff (wellFormed : m.flaw? = none) (resolved : Option Resolved) (now : Nat) :
    let seen := t.observeServer resolved m now
    t.LeftAlone resolved m seen.tracker seen.message ↔ ¬ (t.AnswersFrame m ∨ t.AnswersSync m) := by
  intro seen
  constructor
  · intro alone answers
    cases t.observeServer_event resolved m now with
    | frame wellFormed answersFrame frame syncs =>
        -- the frame callback is no longer waited for
        have waiting := alone.frame.trans answersFrame.2
        cases frame.symm.trans waiting
    | sync wellFormed otherwise answersSync popped frame =>
        -- the ring got shorter
        have shorter := SyncRing.size_of_pop popped
        rw [alone.syncs] at shorter
        omega
    | neither foreign frame syncs =>
        obtain ⟨noFrame, noSync⟩ := foreign wellFormed
        exact answers.elim noFrame noSync
  · intro neither
    have noFrame : ¬ t.AnswersFrame m := fun answers => neither (.inl answers)
    have noSync : ¬ t.AnswersSync m := fun answers => neither (.inr answers)
    have eq : seen = t.renumberAt m (issuingWord? resolved m) :=
      (observeServer_of_wellFormed wellFormed resolved now).trans
        (observeEvent_other noFrame noSync resolved now)
    rw [eq]
    exact t.renumberAt_leftAlone resolved m

end Tracker

end WaylandProxy
