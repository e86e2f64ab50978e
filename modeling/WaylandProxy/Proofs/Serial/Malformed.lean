/-
# Proofs.Serial.Malformed -- what a malformed message leaves behind

A message is malformed if its header does not fit, or if it has no word at a place where its kind
promises one (`Tracker.Lacks`): a `done` that is waited for has no argument, a serial is missing,
or a request lacks the new id or the size that it is there for.

An observation either reports the message as malformed or has nothing of the kind to say
(`observedFrom_judged`).  What it reports it passes on as it came, counts once, and takes nothing
from it: the tracker is as before, but for the one callback that a `done` without an argument
comes from, which is no longer waited for (`Consumes`).
-/
import WaylandProxy.Proofs.Metrics.Sums
import WaylandProxy.Proofs.Serial.Discovery
import WaylandProxy.Proofs.Wire.Words

namespace WaylandProxy

set_option autoImplicit false

namespace World

/-- How many messages were counted as malformed. -/
def formatErrors (w : World) : UInt64 :=
  w.metrics.protocolErrors.get [("pass", "fuzz")]

theorem formatErrors_malformed (w : World) (object : UInt32) (opcode : UInt16)
    (direction : Direction) (reason : String) :
    (w.report (some (.malformed object opcode direction reason))).formatErrors =
      w.formatErrors + 1 := by
  have added := w.metrics.protocolErrors.get_add [("pass", "fuzz")] [("pass", "fuzz")] 1
  rw [if_pos rfl] at added
  exact added

/-- A sync callback that is not followed is counted elsewhere. -/
theorem formatErrors_overflow (w : World) {report : Option Report}
    (overflow : ∀ r ∈ report, r.isOverflow = true) :
    (w.report report).formatErrors = w.formatErrors := by
  cases report with
  | none => rfl
  | some r =>
      cases r with
      | malformed object opcode direction reason => cases overflow _ rfl
      | untracked callback fault => rfl

end World

namespace SerialPlace

def table : Direction → List SerialPlace
  | .fromServer => issuing
  | .fromClient => echoing

/-- Every serial that the server hands out is the first argument. -/
theorem issuing_word : ∀ place ∈ issuing, place.word = Message.firstArgument := by
  decide

end SerialPlace

namespace Message

/-- The message is a `done` without an argument. -/
def IsBareDone (m : Message) : Prop :=
  m.opcode = Tracker.doneOpcode ∧ m.args = []

theorem word?_two_eq_none_iff (m : Message) : m.word? 2 = none ↔ m.args = [] := by
  rw [word?_two, List.getElem?_eq_none_iff, Nat.le_zero, List.length_eq_zero_iff]

end Message

namespace Tracker

/-- What the observer of a peer's messages makes of a message. -/
def observedFrom (t : Tracker) (peer : Direction) (resolved : Option Resolved) (m : Message)
    (now : Nat) : Observed :=
  match peer with
  | .fromServer => t.observeServer resolved m now
  | .fromClient => t.observeClient resolved m

/-- A message of a peer has no word at a place where its kind promises one. -/
inductive Lacks (t : Tracker) (resolved : Option Resolved) (m : Message) : Direction → Prop where
  /-- The answer to a callback that is waited for has no argument. -/
  | done (bare : m.IsBareDone)
      (awaited : t.frame = some m.object ∨ t.syncs.oldest? = some m.object) :
      Lacks t resolved m .fromServer
  /-- By the peer's table there is a serial, and there is no such word. -/
  | serial {peer : Direction} (r : Resolved) (word : Nat) (known : resolved = some r)
      (place : SerialPlace.find? (SerialPlace.table peer) r.interface m.opcode = some word)
      (missing : m.word? word = none) : Lacks t resolved m peer
  /-- A request for a sync callback has no id. -/
  | sync (known : resolved.map Resolved.interface = some "wl_display") (sync : m.opcode = 0)
      (missing : m.args = []) : Lacks t resolved m .fromClient
  /-- A request for a frame callback has no id. -/
  | frame (known : resolved.map Resolved.interface = some "wl_surface") (frame : m.opcode = 3)
      (missing : m.args = []) : Lacks t resolved m .fromClient
  /-- A request for a buffer has no height. -/
  | height (known : resolved.map Resolved.interface = some "wl_shm_pool")
      (createBuffer : m.opcode = 0) (missing : m.word? 5 = none) : Lacks t resolved m .fromClient

/-- What is left of a tracker when a malformed message of a peer has taken a callback along, if it
took any: the one that it comes from, as a `done` without an argument. -/
inductive Consumes (t : Tracker) (m : Message) : Direction → Tracker → Prop where
  | nothing {peer : Direction} : Consumes t m peer t
  | frame (bare : m.IsBareDone) (awaited : t.frame = some m.object) :
      Consumes t m .fromServer { t with frame := none }
  | sync (bare : m.IsBareDone) (otherwise : t.frame ≠ some m.object) (rest : SyncRing)
      (popped : t.syncs.pop = some (m.object, rest)) :
      Consumes t m .fromServer { t with syncs := rest }

/-- How an observation ends as far as malformed messages go. -/
inductive Judged (t : Tracker) (resolved : Option Resolved) (m : Message) (peer : Direction)
    (seen : Observed) : Prop where
  /-- The message is not reported as malformed. -/
  | accepted (wellFormed : m.flaw? = none) (complete : ¬ t.Lacks resolved m peer)
      (errors : seen.tracker.formatErrors = t.formatErrors)
      (report : ∀ r ∈ seen.report, r.isOverflow = true)
  /-- The message is reported as malformed. -/
  | reported (lacks : m.flaw? = none → t.Lacks resolved m peer) (left : Tracker)
      (consumes : t.Consumes m peer left) (whole : m.flaw? ≠ none → left = t) (reason : String)
      (seen_eq : seen = left.malformed m reason)

section

variable {t after : Tracker} {resolved : Option Resolved} {m left : Message} {peer : Direction}

theorem judged_pass (wellFormed : m.flaw? = none) (complete : ¬ t.Lacks resolved m peer)
    (errors : after.formatErrors = t.formatErrors) :
    t.Judged resolved m peer (after.pass left) :=
  .accepted wellFormed complete errors fun r reported => by cases reported

theorem judged_malformed {reason : String} (lacks : m.flaw? = none → t.Lacks resolved m peer) :
    t.Judged resolved m peer (t.malformed m reason) :=
  .reported lacks t .nothing (fun _ => rfl) reason rfl

end

/-! ## Messages of the server -/

section Server

variable {t : Tracker} {resolved : Option Resolved} {m : Message}

/-- An event that has an argument lacks nothing. -/
theorem not_lacks_of_argument {origin : UInt32} (has : m.word? 2 = some origin) :
    ¬ t.Lacks resolved m .fromServer := by
  have argument : m.word? 2 ≠ none := by rw [has]; exact Option.some_ne_none _
  intro lacks
  cases lacks with
  | done bare awaited => exact argument (m.word?_two_eq_none_iff.2 bare.2)
  | serial r word known place missing =>
      have atTwo : word = 2 := SerialPlace.issuing_word _ (SerialPlace.find?_eq_some place)
      exact argument (atTwo ▸ missing)

/-- Of the messages of the server those lack a word that have no argument, although they are taken
for an answer or have a serial by the table. -/
theorem lacks_server_iff : t.Lacks resolved m .fromServer ↔
    m.word? 2 = none ∧ (t.AnswersFrame m ∨ t.AnswersSync m ∨ issuingWord? resolved m ≠ none) := by
  constructor
  · intro lacks
    refine ⟨Option.eq_none_iff_forall_ne_some.2 fun origin has =>
      not_lacks_of_argument has lacks, ?_⟩
    cases lacks with
    | done bare awaited =>
        exact awaited.imp (fun frame => ⟨bare.1, frame⟩) fun oldest => .inl ⟨bare.1, oldest⟩
    | serial r word known place missing =>
        subst known
        refine .inr (.inr ?_)
        rw [issuingWord?, Option.bind_some]
        exact ne_of_eq_of_ne place (Option.some_ne_none _)
  · rintro ⟨missing, answers | answers | serial⟩
    · exact .done ⟨answers.1, m.word?_two_eq_none_iff.1 missing⟩ (.inl answers.2)
    · exact .done ⟨answers.1, m.word?_two_eq_none_iff.1 missing⟩ (.inr answers.2)
    · obtain ⟨word, place⟩ := Option.ne_none_iff_exists'.1 serial
      obtain ⟨r, known, found⟩ := Option.bind_eq_some_iff.1 place
      have atTwo : word = 2 := SerialPlace.issuing_word _ (SerialPlace.find?_eq_some found)
      exact .serial r word known found (atTwo ▸ missing)

/-- Where a serial is looked for, a missing one is reported and any other is accepted. -/
theorem renumber_judged {left : Tracker} {word : Nat} (wellFormed : m.flaw? = none)
    (consumes : m.word? word = none → t.Consumes m .fromServer left)
    (errors : left.formatErrors = t.formatErrors)
    (lacks : t.Lacks resolved m .fromServer ↔ m.word? word = none) :
    t.Judged resolved m .fromServer (left.renumber m word) := by
  cases has : m.word? word with
  | none =>
      rw [left.renumber_of_none has]
      exact .reported (fun _ => lacks.2 has) left (consumes has) (absurd wellFormed) _ rfl
  | some origin =>
      rw [left.renumber_of_word? has]
      have complete : ¬ t.Lacks resolved m .fromServer := by
        rw [lacks, has]
        exact Option.some_ne_none _
      exact .accepted wellFormed complete errors fun r reported => by cases reported

theorem observeEvent_judged (wellFormed : m.flaw? = none) (now : Nat) :
    t.Judged resolved m .fromServer (t.observeEvent resolved m now) := by
  by_cases frame : t.AnswersFrame m
  · rw [observeEvent_frame frame]
    cases has : m.word? 2 with
    | none =>
        have bare : m.IsBareDone := ⟨frame.1, m.word?_two_eq_none_iff.1 has⟩
        exact .reported (fun _ => .done bare (.inl frame.2)) _ (.frame bare frame.2)
          (absurd wellFormed) _ rfl
    | some stamp => exact judged_pass wellFormed (not_lacks_of_argument has) rfl
  · by_cases sync : t.AnswersSync m
    · obtain ⟨rest, popped⟩ := SyncRing.pop_of_oldest? sync.2
      have left : t.withoutOldestSync = { t with syncs := rest } := by
        unfold withoutOldestSync
        rw [popped]
      have otherwise : t.frame ≠ some m.object := fun awaited => frame ⟨sync.1, awaited⟩
      rw [observeEvent_sync frame sync, left]
      refine renumber_judged wellFormed (fun missing => ?_) rfl ?_
      · exact .sync ⟨sync.1, m.word?_two_eq_none_iff.1 missing⟩ otherwise rest popped
      · simp [lacks_server_iff, sync]
    · rw [observeEvent_other frame sync]
      cases place : issuingWord? resolved m with
      | none =>
          have complete : ¬ t.Lacks resolved m .fromServer := by
            simp [lacks_server_iff, frame, sync, place]
          exact judged_pass wellFormed complete rfl
      | some word =>
          obtain ⟨r, -, found⟩ := Option.bind_eq_some_iff.1 place
          have atTwo : word = 2 := SerialPlace.issuing_word _ (SerialPlace.find?_eq_some found)
          subst atTwo
          refine renumber_judged wellFormed (fun _ => .nothing) rfl ?_
          simp [lacks_server_iff, place]

end Server

/-! ## Messages of the client -/

section Client

variable {t : Tracker} {r : Resolved} {m : Message}

/-- Of the messages of the client those lack a word that echo a serial without having one, ask for
a callback without an id, or ask for a buffer without a height. -/
theorem lacks_client_iff : t.Lacks (some r) m .fromClient ↔
    (∃ word, SerialPlace.find? SerialPlace.echoing r.interface m.opcode = some word ∧
      m.word? word = none) ∨
    (Request.of r.interface m.opcode = .sync ∨ Request.of r.interface m.opcode = .frame) ∧
      m.word? 2 = none ∨
    Request.of r.interface m.opcode = .createBuffer ∧ m.word? 5 = none := by
  have sync : Request.sync.place? = some ("wl_display", [0]) := rfl
  have frame : Request.frame.place? = some ("wl_surface", [3]) := rfl
  have createBuffer : Request.createBuffer.place? = some ("wl_shm_pool", [0]) := rfl
  simp only [Request.of_eq_iff sync, Request.of_eq_iff frame, Request.of_eq_iff createBuffer,
    List.mem_singleton, m.word?_two_eq_none_iff]
  constructor
  · intro lacks
    cases lacks with
    | serial r' word known place missing =>
        cases known
        exact .inl ⟨word, place, missing⟩
    | sync known opcode missing =>
        exact .inr (.inl ⟨.inl ⟨Option.some.inj known, opcode⟩, missing⟩)
    | frame known opcode missing =>
        exact .inr (.inl ⟨.inr ⟨Option.some.inj known, opcode⟩, missing⟩)
    | height known opcode missing =>
        exact .inr (.inr ⟨⟨Option.some.inj known, opcode⟩, missing⟩)
  · rintro (⟨word, place, missing⟩ | ⟨⟨known, opcode⟩ | ⟨known, opcode⟩, missing⟩ |
      ⟨⟨known, opcode⟩, missing⟩)
    · exact .serial r word rfl place missing
    · exact .sync (congrArg some known) opcode missing
    · exact .frame (congrArg some known) opcode missing
    · exact .height (congrArg some known) opcode missing

theorem restore_judged (wellFormed : m.flaw? = none) {word : Nat}
    (echoes : SerialPlace.find? SerialPlace.echoing r.interface m.opcode = some word) :
    t.Judged (some r) m .fromClient (t.restore m word) := by
  cases has : m.word? word with
  | none =>
      rw [t.restore_of_none has]
      exact judged_malformed (fun _ => .serial r word rfl echoes has)
  | some seen =>
      rw [t.restore_of_word? has]
      have complete : ¬ t.Lacks (some r) m .fromClient := by
        simp [lacks_client_iff, echoes, has, of_echoing echoes]
      exact judged_pass wellFormed complete rfl

/-- A request for a buffer is malformed if it has no height; then it is no matter whether it has a
width. -/
theorem createBuffer_judged (wellFormed : m.flaw? = none)
    (lacks : t.Lacks (some r) m .fromClient ↔ m.word? 5 = none) :
    t.Judged (some r) m .fromClient (t.observeRequest .createBuffer m) := by
  simp only [observeRequest]
  cases height : m.word? 5 with
  | none =>
      cases m.word? 4 with
      | none => exact judged_malformed (fun _ => lacks.2 height)
      | some width => exact judged_malformed (fun _ => lacks.2 height)
  | some height' =>
      obtain ⟨inside, -⟩ := List.getElem?_eq_some_iff.1 height
      have width : m.word? 4 = some m.words[4] := List.getElem?_eq_getElem (by omega)
      have complete : ¬ t.Lacks (some r) m .fromClient := by simp [lacks, height]
      rw [width]
      exact judged_pass wellFormed complete rfl

theorem observeRequest_judged (wellFormed : m.flaw? = none)
    (plain : SerialPlace.find? SerialPlace.echoing r.interface m.opcode = none) :
    t.Judged (some r) m .fromClient (t.observeRequest (Request.of r.interface m.opcode) m) := by
  have lacks := lacks_client_iff (t := t) (r := r) (m := m)
  simp only [plain, reduceCtorEq, false_and, exists_false, false_or] at lacks
  generalize Request.of r.interface m.opcode = request at lacks ⊢
  cases request with
  | sync =>
      simp only [observeRequest]
      cases newId : m.word? 2 with
      | none => exact judged_malformed (fun _ => lacks.2 (.inl ⟨.inl rfl, newId⟩))
      | some id =>
          have complete : ¬ t.Lacks (some r) m .fromClient := by simp [lacks, newId]
          cases pushed : t.syncs.push id with
          | ok syncs =>
              simp only [pushed]
              exact judged_pass wellFormed complete rfl
          | error fault =>
              -- a sync callback that finds no room is reported, but not as malformed
              simp only [pushed]
              refine .accepted wellFormed complete rfl fun r reported => ?_
              cases reported
              rfl
  | frame =>
      simp only [observeRequest]
      cases newId : m.word? 2 with
      | none => exact judged_malformed (fun _ => lacks.2 (.inl ⟨.inr rfl, newId⟩))
      | some id =>
          have complete : ¬ t.Lacks (some r) m .fromClient := by simp [lacks, newId]
          exact judged_pass wellFormed complete rfl
  | createBuffer =>
      refine createBuffer_judged wellFormed ?_
      simp [lacks]
  | damage =>
      have complete : ¬ t.Lacks (some r) m .fromClient := by simp [lacks]
      simp only [observeRequest]
      split <;> exact judged_pass wellFormed complete rfl
  | commit =>
      have complete : ¬ t.Lacks (some r) m .fromClient := by simp [lacks]
      simp only [observeRequest]
      split <;> exact judged_pass wellFormed complete rfl
  | _ =>
      have complete : ¬ t.Lacks (some r) m .fromClient := by simp [lacks]
      exact judged_pass wellFormed complete rfl

end Client

/-! ## All messages -/

/-- **An observation.** -/
theorem observedFrom_judged (t : Tracker) (peer : Direction) (resolved : Option Resolved)
    (m : Message) (now : Nat) :
    t.Judged resolved m peer (t.observedFrom peer resolved m now) := by
  cases flaw : m.flaw? with
  | some reason =>
      have malformed : t.observedFrom peer resolved m now = t.malformed m reason.fault.text := by
        cases peer <;> simp only [observedFrom, observeServer, observeClient, flaw]
      rw [malformed]
      exact judged_malformed (fun wellFormed => by cases flaw.symm.trans wellFormed)
  | none =>
      cases peer with
      | fromServer =>
          show t.Judged resolved m .fromServer (t.observeServer resolved m now)
          rw [observeServer_of_wellFormed flaw]
          exact observeEvent_judged flaw now
      | fromClient =>
          simp only [observedFrom, observeClient, flaw]
          cases resolved with
          | none =>
              have complete : ¬ t.Lacks none m .fromClient := by
                rintro (_ | _ | _ | _ | _)
                all_goals contradiction
              exact judged_pass flaw complete rfl
          | some r =>
              cases echoes : SerialPlace.find? SerialPlace.echoing r.interface m.opcode with
              | some word =>
                  simp only [echoes]
                  exact restore_judged flaw echoes
              | none =>
                  simp only [echoes]
                  exact observeRequest_judged flaw echoes

theorem Consumes.formatErrors_eq {t left : Tracker} {m : Message} {peer : Direction}
    (consumes : t.Consumes m peer left) : left.formatErrors = t.formatErrors := by
  cases consumes <;> rfl

/-- **Malformed messages pass through and corrupt nothing.**  One observation counts at most one
malformed message, in the tracker and in the metrics alike.  A header that does not fit is counted
and changes nothing else.  Whenever a message is counted it is passed on as it came, no serial is
issued, and all that the tracker knows stays, but for the one callback that the message answers
without an argument.  And a message whose header fits is counted exactly if it lacks a word that
its kind promises. -/
theorem malformed_passes_through (t : Tracker) (peer : Direction) (resolved : Option Resolved)
    (m : Message) (now : Nat) (w : World) :
    let seen := t.observedFrom peer resolved m now
    (∃ raised : Nat, raised ≤ 1 ∧ seen.tracker.formatErrors = t.formatErrors + raised ∧
        (w.report seen.report).formatErrors = w.formatErrors + UInt64.ofNat raised) ∧
      (m.flaw? ≠ none → seen.message = m ∧ seen.issued = none ∧
        seen.tracker = { t with formatErrors := t.formatErrors + 1 }) ∧
      (seen.tracker.formatErrors ≠ t.formatErrors → seen.message = m ∧ seen.issued = none ∧
        ∃ left, t.Consumes m peer left ∧
          seen.tracker = { left with formatErrors := t.formatErrors + 1 }) ∧
      (m.flaw? = none →
        (seen.tracker.formatErrors ≠ t.formatErrors ↔ t.Lacks resolved m peer)) := by
  intro seen
  cases t.observedFrom_judged peer resolved m now with
  | accepted wellFormed complete errors report =>
      refine ⟨⟨0, Nat.zero_le 1, errors, ?_⟩, absurd wellFormed, absurd errors, fun _ => ?_⟩
      · rw [w.formatErrors_overflow report]
        simp
      · exact ⟨fun raised => absurd errors raised, fun lacks => absurd lacks complete⟩
  | reported lacks left consumes whole reason seen_eq =>
      have same := consumes.formatErrors_eq
      have tracker : seen.tracker = { left with formatErrors := t.formatErrors + 1 } := by
        rw [← same]
        exact congrArg Observed.tracker seen_eq
      have message : seen.message = m := congrArg Observed.message seen_eq
      have issued : seen.issued = none := congrArg Observed.issued seen_eq
      have raised : seen.tracker.formatErrors = t.formatErrors + 1 := by rw [tracker]
      have report : seen.report = some (.malformed m.object m.opcode m.direction reason) :=
        congrArg Observed.report seen_eq
      refine ⟨⟨1, le_refl 1, raised, ?_⟩, fun flawed => ?_, fun _ => ?_, fun wellFormed => ?_⟩
      · rw [report]
        exact w.formatErrors_malformed _ _ _ _
      · rw [tracker, whole flawed]
        exact ⟨message, issued, rfl⟩
      · exact ⟨message, issued, left, consumes, tracker⟩
      · rw [raised]
        exact ⟨fun _ => lacks wellFormed, fun _ => Nat.succ_ne_self _⟩

namespace Example

open Message.Example (message)

/-- The client has asked for the frame callback 20 and for the sync callback 30. -/
def awaiting : Tracker :=
  let framed := (start 0).observeClient (some ⟨"wl_surface", none⟩) (message .fromClient 12 3 [20])
  (framed.tracker.observeClient (some ⟨"wl_display", none⟩) (message .fromClient 1 0 [30])).tracker

/-- The answer to the sync callback has no argument.  It is counted, takes the callback along and
goes by as it is; the frame callback is still waited for. -/
theorem bare_done_takes_its_callback :
    let bare := message .fromServer 30 0 []
    let w := World.start .reliable .reliable
    let seen := awaiting.observedFrom .fromServer (some ⟨"wl_callback", none⟩) bare 0
    bare.flaw? = none ∧ seen.tracker.formatErrors ≠ awaiting.formatErrors ∧
      (∃ raised : Nat, raised ≤ 1 ∧ seen.tracker.formatErrors = awaiting.formatErrors + raised ∧
        (w.report seen.report).formatErrors = w.formatErrors + UInt64.ofNat raised) ∧
      seen.message = bare ∧ seen.issued = none ∧
      awaiting.syncs.oldest? = some 30 ∧ seen.tracker.syncs.oldest? = none ∧
      seen.tracker.frame = some 20 := by
  intro bare w seen
  obtain ⟨once, -, kept, exactly⟩ :=
    malformed_passes_through awaiting .fromServer (some ⟨"wl_callback", none⟩) bare 0 w
  have wellFormed : bare.flaw? = none := by decide
  have lacks : awaiting.Lacks (some ⟨"wl_callback", none⟩) bare .fromServer :=
    .done ⟨by decide, by decide⟩ (.inr (by decide))
  have counted := (exactly wellFormed).2 lacks
  obtain ⟨passed, unissued, -⟩ := kept counted
  exact ⟨wellFormed, counted, once, passed, unissued, by decide, by decide, by decide⟩

end Example

end Tracker

end WaylandProxy
