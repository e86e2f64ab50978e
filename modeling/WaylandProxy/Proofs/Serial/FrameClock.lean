/-
# Proofs.Serial.FrameClock -- the clock is the last frame callback that was answered

What a tracker says of the time can be read off what it has seen.  A frame callback is
`Outstanding` if the client asked for it later than for any other and no `done` has come from its
id since.  A `done` with an argument from the callback that is outstanding when it comes gives its
moment and its stamp to the clock (`SetsClock`), and the latest of these counts; before the first
one the clock stands as it was made (`IsAnchor`).

Both are about the whole log of what was seen, so they take in requests that replace a callback,
answers to one that was replaced, answers without a stamp, and everything that is malformed.  One
more entry changes them as one more observation changes the tracker (`outstanding_concat`,
`isAnchor_concat`), and so the tracker follows them through any run (`followed_history`).
-/
import Mathlib.Data.List.Induction
import WaylandProxy.Proofs.Machine
import WaylandProxy.Proofs.Serial.Callback
import WaylandProxy.Proofs.Wire.Words

namespace WaylandProxy

set_option autoImplicit false

/-! ## The latest entry of a log -/

section Latest

variable {α β : Type} {gives : List α → α → β → Prop} {log : List α} {entry : α} {value : β}

/-- The value is given by an entry of the log, which is judged by the entries before it, and no
later entry gives one. -/
def Latest (gives : List α → α → β → Prop) (log : List α) (value : β) : Prop :=
  ∃ before entry after, log = before ++ entry :: after ∧ gives before entry value ∧
    ∀ within later rest, after = within ++ later :: rest →
      ∀ other, ¬ gives (before ++ entry :: within) later other

theorem latest_nil : ¬ Latest gives [] value := by
  rintro ⟨before, entry, after, split, -, -⟩
  simp at split

/-- One more entry gives the latest value, or gives none and leaves it as it was. -/
theorem latest_concat : Latest gives (log ++ [entry]) value ↔
    gives log entry value ∨ Latest gives log value ∧ ∀ other, ¬ gives log entry other := by
  constructor
  · rintro ⟨before, earlier, after, split, given, last⟩
    obtain ⟨rfl, rfl, -⟩ | ⟨within, rfl, rfl⟩ := entry_of_concat split
    · exact .inl given
    · refine .inr ⟨⟨before, earlier, within, rfl, given, ?_⟩, last within entry [] rfl⟩
      rintro inner later rest rfl
      exact last inner later (rest ++ [entry]) (by simp)
  · rintro (given | ⟨⟨before, earlier, after, rfl, given, last⟩, none⟩)
    · exact ⟨log, entry, [], rfl, given, fun within later rest split => by simp at split⟩
    · refine ⟨before, earlier, after ++ [entry], by simp, given, ?_⟩
      intro within later rest split
      obtain ⟨rfl, rfl, rfl⟩ | ⟨inner, rfl, rfl⟩ := entry_of_concat split
      · exact none
      · exact last within later inner rfl

end Latest

namespace Tracker

/-! ## What a tracker has seen -/

inductive Occurrence where
  /-- A message of the server, at a moment. -/
  | server (resolved : Option Resolved) (m : Message) (now : Nat)
  /-- A message of the client. -/
  | client (resolved : Option Resolved) (m : Message)
  /-- A serial is taken for a synthesized event. -/
  | issue (serial : UInt32)

def next (t : Tracker) : Occurrence → Tracker
  | .server resolved m now => (t.observeServer resolved m now).tracker
  | .client resolved m => (t.observeClient resolved m).tracker
  | .issue serial => t.issue serial

/-- The tracker that was made at a moment and has seen a log. -/
def history (made : Nat) (log : List Occurrence) : Tracker :=
  log.foldl next (start made)

theorem history_concat (made : Nat) (log : List Occurrence) (o : Occurrence) :
    history made (log ++ [o]) = (history made log).next o :=
  List.foldl_append

namespace Occurrence

def frame? : Occurrence → Option UInt32
  | .client resolved m => requestedFrame? resolved m
  | _ => none

/-- A well-formed event with the opcode of `done` comes from an id. -/
def IsDoneOf (id : UInt32) : Occurrence → Prop
  | .server _ m _ => m.flaw? = none ∧ m.opcode = doneOpcode ∧ m.object = id
  | _ => False

end Occurrence

/-- The client asked for this frame callback, since then for no other, and no `done` has come from
it. -/
def Outstanding (log : List Occurrence) (id : UInt32) : Prop :=
  ∃ before o after, log = before ++ o :: after ∧ o.frame? = some id ∧
    ∀ later ∈ after, later.frame? = none ∧ ¬ later.IsDoneOf id

/-- A well-formed `done` with an argument comes from the callback that is outstanding; the clock
is set to its moment and its argument. -/
def SetsClock (log : List Occurrence) (o : Occurrence) (c : Clock) : Prop :=
  ∃ resolved m, o = .server resolved m c.anchor ∧ m.flaw? = none ∧ m.opcode = doneOpcode ∧
    Outstanding log m.object ∧ m.args.head? = some c.stamp

/-- The clock as it was set last, or as it was made if it has not been set. -/
def IsAnchor (made : Nat) (log : List Occurrence) (c : Clock) : Prop :=
  Latest SetsClock log c ∨ (c = ⟨made, 0⟩ ∧ ∀ other, ¬ Latest SetsClock log other)

theorem outstanding_nil (id : UInt32) : ¬ Outstanding [] id := by
  rintro ⟨before, o, after, split, -, -⟩
  simp at split

theorem outstanding_concat {log : List Occurrence} {o : Occurrence} {id : UInt32} :
    Outstanding (log ++ [o]) id ↔
      o.frame? = some id ∨ Outstanding log id ∧ o.frame? = none ∧ ¬ o.IsDoneOf id := by
  constructor
  · rintro ⟨before, asked, after, split, asks, since⟩
    obtain ⟨rfl, rfl, -⟩ | ⟨within, rfl, rfl⟩ := entry_of_concat split
    · exact .inl asks
    · have last := since o (by simp)
      refine .inr ⟨⟨before, asked, within, rfl, asks, fun later member => ?_⟩, last⟩
      exact since later (List.mem_append_left _ member)
  · rintro (asks | ⟨⟨before, asked, after, rfl, asks, since⟩, last⟩)
    · exact ⟨log, o, [], rfl, asks, by simp⟩
    · refine ⟨before, asked, after ++ [o], by simp, asks, fun later member => ?_⟩
      obtain inside | rfl := by simpa using member
      · exact since later inside
      · exact last

theorem isAnchor_nil {made : Nat} {c : Clock} : IsAnchor made [] c ↔ c = ⟨made, 0⟩ := by
  simp [IsAnchor, latest_nil]

theorem isAnchor_concat {made : Nat} {log : List Occurrence} {o : Occurrence} {c : Clock} :
    IsAnchor made (log ++ [o]) c ↔
      SetsClock log o c ∨ IsAnchor made log c ∧ ∀ other, ¬ SetsClock log o other := by
  unfold IsAnchor
  simp only [latest_concat]
  by_cases sets : ∃ other, SetsClock log o other
  · obtain ⟨given, isGiven⟩ := sets
    have some : ¬ ∀ other, ¬ SetsClock log o other := fun none => none given isGiven
    simp only [some, and_false, or_false]
  · have none : ∀ other, ¬ SetsClock log o other := fun other given => sets ⟨other, given⟩
    simp [none]

/-! ## One observation -/

section Observation

variable {t : Tracker} {resolved : Option Resolved} {m : Message}

theorem renumber_clock (t : Tracker) (m : Message) (word : Nat) :
    (t.renumber m word).tracker.clock = t.clock := by
  cases has : m.word? word with
  | none =>
      rw [t.renumber_of_none has]
      rfl
  | some origin =>
      rw [t.renumber_of_word? has]
      rfl

/-- The answer to the frame callback passes, sets the clock if it has an argument, and gives out no
serial. -/
theorem observeServer_answersFrame (wellFormed : m.flaw? = none) (answers : t.AnswersFrame m)
    (resolved : Option Resolved) (now : Nat) :
    let seen := t.observeServer resolved m now
    seen.message = m ∧ seen.issued = none ∧ seen.tracker.serial = t.serial ∧
      seen.tracker.origins = t.origins ∧
      seen.tracker.clock = ((m.word? 2).map (Clock.mk now)).getD t.clock := by
  intro seen
  have eq : seen = t.observeEvent resolved m now := observeServer_of_wellFormed wellFormed _ _
  rw [eq, observeEvent_frame answers]
  cases m.word? 2 with
  | none => exact ⟨rfl, rfl, rfl, rfl, rfl⟩
  | some stamp => exact ⟨rfl, rfl, rfl, rfl, rfl⟩

/-- No other event touches the clock. -/
theorem observeServer_clock (other : m.flaw? = none → ¬ t.AnswersFrame m)
    (resolved : Option Resolved) (now : Nat) :
    (t.observeServer resolved m now).tracker.clock = t.clock := by
  cases flaw : m.flaw? with
  | some reason =>
      unfold observeServer
      rw [flaw]
      rfl
  | none =>
      have noFrame := other flaw
      rw [observeServer_of_wellFormed flaw]
      by_cases sync : t.AnswersSync m
      · rw [observeEvent_sync noFrame sync, renumber_clock]
        rfl
      · rw [observeEvent_other noFrame sync]
        cases issuingWord? resolved m with
        | none => rfl
        | some word => exact t.renumber_clock m word

/-- A request that echoes a serial asks for no frame callback. -/
theorem requestedFrame?_of_echoing {r : Resolved} {word : Nat}
    (echoes : SerialPlace.find? SerialPlace.echoing r.interface m.opcode = some word) :
    requestedFrame? (some r) m = none := by
  refine Option.eq_none_iff_forall_ne_some.2 fun id requests => ?_
  obtain ⟨-, surface, frame, -⟩ := requestedId?_eq_some.1 requests
  rw [Option.some.inj surface, frame] at echoes
  cases echoes

/-- A request that echoes no serial asks for a frame callback or leaves it, and leaves the clock. -/
theorem observeRequest_frame (t : Tracker) (request : Request) (m : Message) :
    let after := (t.observeRequest request m).tracker
    after.frame = ((if request = .frame then m.word? 2 else none) <|> t.frame) ∧
      after.clock = t.clock := by
  unfold observeRequest
  cases request with
  | sync =>
      simp only
      cases m.word? 2 with
      | none => exact ⟨rfl, rfl⟩
      | some id =>
          simp only
          cases t.syncs.push id with
          | ok syncs => exact ⟨rfl, rfl⟩
          | error fault => exact ⟨rfl, rfl⟩
  | frame =>
      simp only
      cases m.word? 2 with
      | none => exact ⟨rfl, rfl⟩
      | some id => exact ⟨rfl, rfl⟩
  | damage =>
      simp only
      split <;> exact ⟨rfl, rfl⟩
  | commit =>
      simp only
      split <;> exact ⟨rfl, rfl⟩
  | createBuffer =>
      simp only
      split <;> exact ⟨rfl, rfl⟩
  | _ => exact ⟨rfl, rfl⟩

/-- **A request and the frame callback.**  The callback that it asks for, if it asks for one,
takes the place of the one before; the clock stays. -/
theorem observeClient_frame (t : Tracker) (resolved : Option Resolved) (m : Message) :
    let after := (t.observeClient resolved m).tracker
    after.frame = (requestedFrame? resolved m <|> t.frame) ∧ after.clock = t.clock := by
  unfold observeClient
  cases flaw : m.flaw? with
  | some reason =>
      have asksNone : requestedFrame? resolved m = none :=
        if_neg fun asks => by cases flaw.symm.trans asks.1
      rw [asksNone]
      exact ⟨rfl, rfl⟩
  | none =>
      cases resolved with
      | none =>
          have asksNone : requestedFrame? none m = none := if_neg fun asks => by cases asks.2.1
          rw [asksNone]
          exact ⟨rfl, rfl⟩
      | some r =>
          simp only
          cases echoes : SerialPlace.find? SerialPlace.echoing r.interface m.opcode with
          | some word =>
              rw [requestedFrame?_of_echoing echoes]
              simp only
              cases has : m.word? word with
              | none =>
                  rw [t.restore_of_none has]
                  exact ⟨rfl, rfl⟩
              | some seen =>
                  rw [t.restore_of_word? has]
                  exact ⟨rfl, rfl⟩
          | none =>
              have place : Request.frame.place? = some ("wl_surface", [3]) := rfl
              have asks : requestedFrame? (some r) m =
                  if Request.of r.interface m.opcode = .frame then m.word? 2 else none := by
                simp [requestedFrame?, requestedId?, flaw, Request.of_eq_iff place]
              rw [asks]
              exact t.observeRequest_frame _ m

/-- **One more occurrence and the frame callback.**  It asks for the callback, or the tracker waited
for that one and the occurrence neither asks for another nor is its `done`. -/
theorem frame_next (t : Tracker) (o : Occurrence) (id : UInt32) :
    (t.next o).frame = some id ↔
      o.frame? = some id ∨ t.frame = some id ∧ o.frame? = none ∧ ¬ o.IsDoneOf id := by
  cases o with
  | issue serial => simp [next, issue, Occurrence.frame?, Occurrence.IsDoneOf]
  | client resolved m =>
      have after := (t.observeClient_frame resolved m).1
      simp only [next, after, Occurrence.frame?, Occurrence.IsDoneOf, not_false_eq_true, and_true]
      cases requestedFrame? resolved m with
      | none => simp
      | some asked => simp
  | server resolved m now =>
      simp only [next, Occurrence.frame?, Occurrence.IsDoneOf, reduceCtorEq, false_or, true_and]
      cases t.observeServer_event resolved m now with
      | frame wellFormed answers frame syncs =>
          -- only the callback that is waited for could be left, and it is the one that answers
          rw [frame, answers.2]
          constructor
          · rintro ⟨⟩
          · rintro ⟨⟨⟩, notDone⟩
            exact absurd ⟨wellFormed, answers.1, rfl⟩ notDone
      | sync wellFormed otherwise answers popped frame =>
          rw [frame, iff_self_and]
          rintro awaited ⟨-, done, rfl⟩
          exact otherwise ⟨done, awaited⟩
      | neither foreign frame syncs =>
          rw [frame, iff_self_and]
          rintro awaited ⟨wellFormed, done, rfl⟩
          exact (foreign wellFormed).1 ⟨done, awaited⟩

end Observation

/-! ## Any log -/

/-- The tracker waits for the outstanding callback, and its clock is the anchor. -/
structure Followed (made : Nat) (log : List Occurrence) (t : Tracker) : Prop where
  frame : ∀ id, t.frame = some id ↔ Outstanding log id
  clock : ∀ c, IsAnchor made log c ↔ c = t.clock

theorem followed_start (made : Nat) : Followed made [] (start made) where
  frame id := by simp [start, outstanding_nil]
  clock c := isAnchor_nil

variable {made : Nat} {log : List Occurrence} {t : Tracker}

theorem Followed.setsClock_iff (followed : Followed made log t) {o : Occurrence} {c : Clock} :
    SetsClock log o c ↔ ∃ resolved m, o = .server resolved m c.anchor ∧ m.flaw? = none ∧
      t.AnswersFrame m ∧ m.word? 2 = some c.stamp := by
  unfold SetsClock AnswersFrame
  simp only [← followed.frame, Message.word?_two, List.head?_eq_getElem?, and_assoc]

/-- What sets the clock sets it. -/
theorem Followed.clock_set (followed : Followed made log t) {o : Occurrence} {c : Clock}
    (sets : SetsClock log o c) : (t.next o).clock = c := by
  obtain ⟨resolved, m, rfl, wellFormed, answers, has⟩ := followed.setsClock_iff.1 sets
  obtain ⟨-, -, -, -, clock⟩ := observeServer_answersFrame wellFormed answers resolved c.anchor
  rw [has] at clock
  exact clock

/-- Nothing else moves the clock. -/
theorem Followed.clock_kept (followed : Followed made log t) {o : Occurrence}
    (none : ∀ c, ¬ SetsClock log o c) : (t.next o).clock = t.clock := by
  cases o with
  | issue serial => rfl
  | client resolved m => exact (t.observeClient_frame resolved m).2
  | server resolved m now =>
      by_cases answers : m.flaw? = .none ∧ t.AnswersFrame m
      · obtain ⟨-, -, -, -, clock⟩ := observeServer_answersFrame answers.1 answers.2 resolved now
        cases has : m.word? 2 with
        | none =>
            rw [has] at clock
            exact clock
        | some stamp =>
            have sets : SetsClock log (.server resolved m now) ⟨now, stamp⟩ :=
              followed.setsClock_iff.2 ⟨resolved, m, rfl, answers.1, answers.2, has⟩
            exact absurd sets (none _)
      · exact observeServer_clock (fun wellFormed frame => answers ⟨wellFormed, frame⟩) resolved now

theorem Followed.next (followed : Followed made log t) (o : Occurrence) :
    Followed made (log ++ [o]) (t.next o) where
  frame id := by rw [outstanding_concat, ← followed.frame, frame_next]
  clock c := by
    rw [isAnchor_concat, followed.clock]
    by_cases sets : ∃ other, SetsClock log o other
    · obtain ⟨other, given⟩ := sets
      rw [followed.clock_set given]
      constructor
      · rintro (set | ⟨-, none⟩)
        · exact (followed.clock_set set).symm.trans (followed.clock_set given)
        · exact absurd given (none other)
      · rintro rfl
        exact .inl given
    · have none : ∀ other, ¬ SetsClock log o other := fun other given => sets ⟨other, given⟩
      rw [followed.clock_kept none]
      simp [none]

theorem followed_history (made : Nat) (log : List Occurrence) :
    Followed made log (history made log) := by
  induction log using List.reverseRecOn with
  | nil => exact followed_start made
  | append_singleton log o ih =>
      rw [history_concat]
      exact ih.next o

theorem toNat_stampAt (c : Clock) (now : Nat) :
    (c.stampAt now).toNat = (c.stamp.toNat + (now - c.anchor) / 1000000) % 2 ^ 32 := by
  simp [Clock.stampAt]

/-- **The clock is the last frame callback that was answered.**  After any log the tracker waits
for the outstanding frame callback.  There is one anchor, and from its moment on the stamp is the
anchor's plus the whole milliseconds since, modulo `2 ^ 32`; a moment before it has the stamp of
the anchor.  The answer to the outstanding callback passes as it is and gives out no serial, and
what does not set the clock leaves it as it was. -/
theorem clock_is_last_answer (made : Nat) (log : List Occurrence) :
    let t := history made log
    (∀ id, t.frame = some id ↔ Outstanding log id) ∧
      (∀ c, IsAnchor made log c ↔ c = t.clock) ∧
      (∀ c, IsAnchor made log c → ∀ now,
        (c.anchor ≤ now → (t.clock.stampAt now).toNat =
          (c.stamp.toNat + (now - c.anchor) / 1000000) % 2 ^ 32) ∧
        (now < c.anchor → t.clock.stampAt now = c.stamp)) ∧
      (∀ resolved m now, m.flaw? = none → m.opcode = doneOpcode → Outstanding log m.object →
        let seen := t.observeServer resolved m now
        seen.message = m ∧ seen.issued = none ∧ seen.tracker.serial = t.serial ∧
          seen.tracker.origins = t.origins) ∧
      ∀ o, (∀ c, ¬ SetsClock log o c) → (t.next o).clock = t.clock := by
  intro t
  have followed : Followed made log t := followed_history made log
  refine ⟨followed.frame, followed.clock, ?_, ?_, ?_⟩
  · intro c anchor now
    obtain rfl := (followed.clock c).1 anchor
    refine ⟨fun _ => toNat_stampAt t.clock now, fun before => ?_⟩
    have early : now - t.clock.anchor = 0 := Nat.sub_eq_zero_of_le before.le
    simp [Clock.stampAt, early]
  · intro resolved m now wellFormed done outstanding
    have answers : t.AnswersFrame m := ⟨done, (followed.frame _).2 outstanding⟩
    obtain ⟨message, issued, serial, origins, -⟩ :=
      observeServer_answersFrame wellFormed answers resolved now
    exact ⟨message, issued, serial, origins⟩
  · intro o none
    exact followed.clock_kept none

namespace Example

open Message.Example (message)

def surface : Resolved := ⟨"wl_surface", none⟩

/-- The callback 20 is replaced by 21 before its `done` comes; the `done` of 21 comes at 50 ms and
has a stamp near the end.  Then 22 is asked for, a serial is taken, and an event from 22 claims to
be longer than it is. -/
def replacedAndAnswered : List Occurrence :=
  [.client (some surface) (message .fromClient 12 3 [20]),
    .client (some surface) (message .fromClient 12 3 [21]),
    .server none (message .fromServer 20 0 [5]) 10000000,
    .server none (message .fromServer 21 0 [0xfffffff0]) 50000000,
    .client (some surface) (message .fromClient 12 3 [22]), .issue 7,
    .server none ⟨.fromServer, ⟨1, none⟩, [22, 0x140000, 9]⟩ 60000000]

/-- The clock stands at the answer of 21 and goes around its end.  Then 22 is answered without a
stamp, and the answer passes. -/
theorem stamps_go_around :
    let t := history 0 replacedAndAnswered
    let bare := message .fromServer 22 0 []
    IsAnchor 0 replacedAndAnswered ⟨50000000, 0xfffffff0⟩ ∧ Outstanding replacedAndAnswered 22 ∧
      (t.clock.stampAt 82000000).toNat = 16 ∧ t.clock.stampAt 20000000 = 0xfffffff0 ∧
      bare.flaw? = none ∧ (t.observeServer none bare 90000000).message = bare ∧
      (t.next (.issue 8)).clock = t.clock := by
  intro t bare
  obtain ⟨frame, anchor, stamps, passes, kept⟩ := clock_is_last_answer 0 replacedAndAnswered
  have anchored : IsAnchor 0 replacedAndAnswered ⟨50000000, 0xfffffff0⟩ :=
    (anchor _).2 (by decide +kernel)
  have outstanding : Outstanding replacedAndAnswered 22 := (frame 22).1 (by decide +kernel)
  have wellFormed : bare.flaw? = none := by decide
  refine ⟨anchored, outstanding, ?_, ?_, wellFormed, ?_, ?_⟩
  · exact (stamps _ anchored 82000000).1 (by decide)
  · exact (stamps _ anchored 20000000).2 (by decide)
  · exact (passes none bare 90000000 wellFormed (by decide) outstanding).1
  · refine kept (.issue 8) fun c sets => ?_
    obtain ⟨resolved, m, isEvent, -⟩ := sets
    cases isEvent

end Example

end Tracker

end WaylandProxy
