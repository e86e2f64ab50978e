/-
# Proofs.Serial.Correlation -- sync callbacks are answered in their order

A client may ask for more sync callbacks than the ring has room for.  The server answers all of
them in order, whether the ring has them or not.  `Correlation` goes along with a tracker and
keeps the callbacks that are outstanding, each with whether there was room for it (`tracked`);
`Orderly` says what the peers owe each other in a move.

After every orderly run the ring holds the outstanding tracked ids and no other, in their order,
and every request is accounted for: it was answered off the ring, is in the ring, or was counted
as an overflow (`Balanced`).  So the answer to a tracked callback meets its own id at the head of
the ring, and the answer to one that is not tracked meets nothing.
-/
import WaylandProxy.Proofs.Metrics.Sums
import WaylandProxy.Proofs.Serial.Acknowledgement
import WaylandProxy.Proofs.Serial.Callback

namespace WaylandProxy

set_option autoImplicit false

namespace World

/-- How many sync callbacks were counted as not followed. -/
def overflows (w : World) : UInt64 :=
  w.metrics.syncOverflows.get [("pass", "fuzz")]

/-- Nothing but a sync callback that is not followed is counted there. -/
theorem overflows_quiet (w : World) {seen : Observed} (quiet : seen.Quiet) :
    (w.report seen.report).overflows = w.overflows := by
  cases reported : seen.report with
  | none => rfl
  | some r =>
      cases r with
      | malformed object opcode direction reason => rfl
      | untracked callback fault =>
          have overflow := quiet _ reported
          cases overflow

theorem overflows_untracked (w : World) (callback : UInt32) (fault : Fault) :
    (w.report (some (.untracked callback fault))).overflows = w.overflows + 1 := by
  have added := w.metrics.syncOverflows.get_add [("pass", "fuzz")] [("pass", "fuzz")] 1
  rw [if_pos rfl] at added
  exact added

end World

/-- A sync callback that the server has not answered yet. -/
structure Outstanding where
  id : UInt32
  /-- There was room for it when it was asked for. -/
  tracked : Bool
  deriving DecidableEq, Repr

/-- A tracker, the world it reports to, and the sync callbacks that are outstanding, oldest
first. -/
structure Correlation where
  tracker : Tracker
  world : World
  outstanding : List Outstanding

/-- The event is a `done` with its one argument, and the map knows of no other object there than
a callback. -/
def Message.IsDone (resolved : Option Resolved) (m : Message) : Prop :=
  m.flaw? = none ∧ m.opcode = Tracker.doneOpcode ∧ m.words.length = 3 ∧
    ∀ r ∈ resolved, r.interface = "wl_callback"

instance (resolved : Option Resolved) (m : Message) : Decidable (m.IsDone resolved) :=
  inferInstanceAs (Decidable (_ ∧ _ ∧ _ ∧ _))

namespace Correlation

def start (made : Nat) (w : World) : Correlation :=
  ⟨.start made, w, []⟩

def ids (s : Correlation) : List UInt32 :=
  s.outstanding.map Outstanding.id

/-- The ids that are outstanding and for which there was room. -/
def trackedIds (s : Correlation) : List UInt32 :=
  (s.outstanding.filter Outstanding.tracked).map Outstanding.id

/-- A well-formed event with the opcode of `done` comes from an outstanding callback. -/
def Answers (s : Correlation) (m : Message) : Prop :=
  m.flaw? = none ∧ m.opcode = Tracker.doneOpcode ∧ m.object ∈ s.ids

instance (s : Correlation) (m : Message) : Decidable (s.Answers m) :=
  inferInstanceAs (Decidable (_ ∧ _ ∧ _))

def requested? : Tracker.Move → Option UInt32
  | .client resolved m => Tracker.requestedSync? resolved m
  | _ => none

/-- The state after a move: an answer settles the oldest callback, a request adds one. -/
def step (s : Correlation) : Tracker.Move → Correlation
  | .server resolved m now =>
    let seen := s.tracker.observeServer resolved m now
    { tracker := seen.tracker
      world := s.world.report seen.report
      outstanding := if s.Answers m then s.outstanding.tail else s.outstanding }
  | .client resolved m =>
    let seen := s.tracker.observeClient resolved m
    { tracker := seen.tracker
      world := s.world.report seen.report
      outstanding := s.outstanding ++ (Tracker.requestedSync? resolved m).toList.map fun id =>
        ⟨id, s.tracker.syncs.size < SyncRing.capacity⟩ }
  | .take => { s with tracker := s.tracker.issue s.tracker.nextSerial }

/-- The id that a move takes off the ring. -/
def popped? (s : Correlation) (move : Tracker.Move) : Option UInt32 :=
  if (s.step move).tracker.syncs.size < s.tracker.syncs.size then s.tracker.syncs.oldest? else none

/-- The tracker among its peers as a machine that gives out the ids taken off the ring. -/
def machine : Machine Correlation Tracker.Move UInt32 where
  step := step
  out s move := (s.popped? move).toList

theorem tracker_run (s : Correlation) (moves : List Tracker.Move) :
    (machine.run s moves).tracker = Tracker.machine.run s.tracker moves := by
  induction moves generalizing s with
  | nil => rfl
  | cons move rest ih =>
      have first : (s.step move).tracker = Tracker.machine.step s.tracker move := by
        cases move <;> rfl
      rw [Machine.run_cons, Machine.run_cons, ← first]
      exact ih (s.step move)

/-- The server answers in the order of the requests, once each, and sends nothing else with the
opcode of `done` from an outstanding id. -/
def InOrder (s : Correlation) : Tracker.Move → Prop
  | .server resolved m _ => s.Answers m → m.IsDone resolved ∧ s.ids.head? = some m.object
  | _ => True

instance (s : Correlation) (move : Tracker.Move) : Decidable (s.InOrder move) :=
  match move with
  | .server resolved m _ =>
    inferInstanceAs (Decidable (s.Answers m → m.IsDone resolved ∧ s.ids.head? = some m.object))
  | .client .. => inferInstanceAs (Decidable True)
  | .take => inferInstanceAs (Decidable True)

/-- What the peers owe each other in a move. -/
structure Orderly (s : Correlation) (move : Tracker.Move) : Prop where
  /-- A new sync callback has an id that no outstanding one has. -/
  fresh : ∀ id ∈ requested? move, id ∉ s.ids
  /-- No outstanding one has the id of the frame callback. -/
  apart : ∀ id ∈ (s.step move).tracker.frame, id ∉ (s.step move).ids
  inOrder : s.InOrder move

def OrderlyRun : Correlation → List Tracker.Move → Prop
  | _, [] => True
  | s, move :: rest => s.Orderly move ∧ OrderlyRun (s.step move) rest

-- looked up in the option: there are too many ids to try them all
instance (s : Correlation) (move : Tracker.Move) : Decidable (s.Orderly move) :=
  have : Decidable (∀ id ∈ requested? move, id ∉ s.ids) := Option.decidableForallMem _
  have : Decidable (∀ id ∈ (s.step move).tracker.frame, id ∉ (s.step move).ids) :=
    Option.decidableForallMem _
  decidable_of_iff ((∀ id ∈ requested? move, id ∉ s.ids) ∧
      (∀ id ∈ (s.step move).tracker.frame, id ∉ (s.step move).ids) ∧ s.InOrder move)
    ⟨fun all => ⟨all.1, all.2.1, all.2.2⟩, fun all => ⟨all.fresh, all.apart, all.inOrder⟩⟩

instance decidableOrderlyRun : ∀ (s : Correlation) (moves : List Tracker.Move),
    Decidable (s.OrderlyRun moves)
  | _, [] => inferInstanceAs (Decidable True)
  | s, move :: rest =>
    have := decidableOrderlyRun (s.step move) rest
    inferInstanceAs (Decidable (s.Orderly move ∧ (s.step move).OrderlyRun rest))

/-- The ring and the counts fit what is outstanding, after these requests and these answers taken
off the ring. -/
structure Balanced (before : World) (requested popped : List UInt32) (s : Correlation) : Prop where
  ring : s.tracker.syncs.toList = s.trackedIds
  distinct : s.ids.Nodup
  apart : ∀ id ∈ s.tracker.frame, id ∉ s.ids
  count : ∃ overflows : Nat,
    requested.length = popped.length + s.tracker.syncs.size + overflows ∧
      s.world.overflows = before.overflows + UInt64.ofNat overflows

theorem balanced_start (made : Nat) (w : World) : (start made w).Balanced w [] [] where
  ring := SyncRing.toList_empty
  distinct := List.nodup_nil
  apart := fun id isFrame => by cases isFrame
  count := ⟨0, rfl, by simp [start]⟩

/-! ## Answers -/

variable {s : Correlation} {w : World} {requested popped : List UInt32} {resolved : Option Resolved}
  {m : Message} {first : Outstanding} {rest : List Outstanding}

/-- The table has no serial for events of a callback. -/
theorem issuingWord?_of_isDone (done : m.IsDone resolved) :
    Tracker.issuingWord? resolved m = none := by
  obtain ⟨-, isDone, -, callback⟩ := done
  unfold Tracker.issuingWord?
  cases resolved with
  | none => rfl
  | some r =>
      rw [Option.bind_some, callback r rfl, isDone]
      rfl

end Correlation

namespace Tracker

variable {t : Tracker} {resolved : Option Resolved} {m : Message}

/-- **A `done` from the head of the ring** takes its own id off it, and its serial is
renumbered. -/
theorem observeServer_done (noFrame : ¬ t.AnswersFrame m)
    (head : t.syncs.toList.head? = some m.object) (done : m.IsDone resolved) (now : Nat) :
    ∃ origin ring, m.word? 2 = some origin ∧ t.syncs.pop = some (m.object, ring) ∧
      let serial := t.due (some origin)
      t.observeServer resolved m now =
        ⟨{ t with syncs := ring }.remember serial origin,
          { m with words := m.words.set 2 serial }, some serial, none⟩ := by
  obtain ⟨wellFormed, isDone, length, -⟩ := done
  have oldest : t.syncs.oldest? = some m.object := by rw [SyncRing.oldest?_eq_head?, head]
  obtain ⟨ring, pop⟩ := SyncRing.pop_of_oldest? oldest
  have has : m.word? 2 = some m.words[2] := List.getElem?_eq_getElem (by omega)
  refine ⟨_, ring, has, pop, ?_⟩
  have without : t.withoutOldestSync = { t with syncs := ring } := by
    unfold withoutOldestSync
    rw [pop]
  rw [observeServer_of_wellFormed wellFormed, observeEvent_sync noFrame ⟨isDone, oldest⟩, without,
    renumber_of_word? _ has]
  rfl

/-- **A `done` from elsewhere** goes by. -/
theorem observeServer_done_other (noFrame : ¬ t.AnswersFrame m)
    (other : t.syncs.toList.head? ≠ some m.object) (done : m.IsDone resolved) (now : Nat) :
    t.observeServer resolved m now = t.pass m := by
  have noSync : ¬ t.AnswersSync m := by
    rintro ⟨-, oldest⟩
    rw [SyncRing.oldest?_eq_head?] at oldest
    exact other oldest
  rw [observeServer_of_wellFormed done.1, observeEvent_other noFrame noSync,
    Correlation.issuingWord?_of_isDone done]
  rfl

end Tracker

namespace Correlation

variable {s : Correlation} {w : World} {requested popped : List UInt32} {resolved : Option Resolved}
  {m : Message} {first : Outstanding} {rest : List Outstanding}

namespace Balanced

/-- The answer to an outstanding sync callback is not taken for that of the frame. -/
theorem not_answersFrame (balanced : s.Balanced w requested popped)
    (outstanding : m.object ∈ s.ids) :
    ¬ s.tracker.AnswersFrame m :=
  fun answers => balanced.apart _ answers.2 outstanding

/-- What is in the ring is outstanding. -/
theorem mem_ids_of_answersSync (balanced : s.Balanced w requested popped)
    (answers : s.tracker.AnswersSync m) : m.object ∈ s.ids := by
  have oldest := answers.2
  rw [SyncRing.oldest?_eq_head?, balanced.ring] at oldest
  have member := List.mem_of_head? oldest
  exact (List.filter_sublist.map Outstanding.id).subset member

/-- **The answer to a tracked callback** takes its own id off the ring, and its serial is
renumbered. -/
theorem answer_tracked (balanced : s.Balanced w requested popped)
    (outstanding : s.outstanding = first :: rest) (own : first.id = m.object)
    (tracked : first.tracked = true) (done : m.IsDone resolved) (now : Nat) :
    ∃ origin ring, m.word? 2 = some origin ∧ s.tracker.syncs.pop = some (m.object, ring) ∧
      let serial := s.tracker.due (some origin)
      s.tracker.observeServer resolved m now =
        ⟨{ s.tracker with syncs := ring }.remember serial origin,
          { m with words := m.words.set 2 serial }, some serial, none⟩ := by
  have member : m.object ∈ s.ids := by simp [ids, outstanding, own]
  refine Tracker.observeServer_done (balanced.not_answersFrame member) ?_ done now
  rw [balanced.ring]
  simp [trackedIds, outstanding, tracked, own]

/-- **The answer to a callback that is not tracked** goes by. -/
theorem answer_untracked (balanced : s.Balanced w requested popped)
    (outstanding : s.outstanding = first :: rest) (own : first.id = m.object)
    (untracked : first.tracked = false) (done : m.IsDone resolved) (now : Nat) :
    s.tracker.observeServer resolved m now = s.tracker.pass m := by
  have member : m.object ∈ s.ids := by simp [ids, outstanding, own]
  refine Tracker.observeServer_done_other (balanced.not_answersFrame member) ?_ done now
  -- the head of the ring is a tracked callback, and that has another id
  intro head
  rw [balanced.ring] at head
  have inRest : m.object ∈ (rest.filter Outstanding.tracked).map Outstanding.id := by
    have inRing := List.mem_of_head? head
    rw [trackedIds, outstanding, List.filter_cons_of_neg (by simp [untracked])] at inRing
    exact inRing
  have distinct := balanced.distinct
  rw [ids, outstanding, List.map_cons, List.nodup_cons, own] at distinct
  exact distinct.1 ((List.filter_sublist.map Outstanding.id).subset inRest)

/-! ## Moves -/

variable {move : Tracker.Move}

/-- A ring that got no shorter gave nothing out. -/
theorem popped?_of_size_le (kept : s.tracker.syncs.size ≤ (s.step move).tracker.syncs.size) :
    s.popped? move = none :=
  if_neg (Nat.not_lt.2 kept)

/-- A move that changes neither the ring nor what is outstanding, and counts no overflow. -/
theorem idle (balanced : s.Balanced w requested popped) (orderly : s.Orderly move)
    (asks : requested? move = none) (syncs : (s.step move).tracker.syncs = s.tracker.syncs)
    (outstanding : (s.step move).outstanding = s.outstanding)
    (overflows : (s.step move).world.overflows = s.world.overflows) :
    (s.step move).Balanced w (requested ++ (requested? move).toList)
      (popped ++ (s.popped? move).toList) := by
  have nothing : s.popped? move = none := popped?_of_size_le (by rw [syncs])
  have sameIds : (s.step move).ids = s.ids := congrArg (List.map Outstanding.id) outstanding
  rw [asks, nothing, Option.toList_none, List.append_nil, List.append_nil]
  refine ⟨?_, ?_, orderly.apart, ?_⟩
  · rw [syncs, balanced.ring, trackedIds, trackedIds, outstanding]
  · rw [sameIds]
    exact balanced.distinct
  · rw [syncs, overflows]
    exact balanced.count

/-! ### Answers of the server -/

section Server

variable {now : Nat}

theorem outstanding_answered (answers : s.Answers m) (outstanding : s.outstanding = first :: rest) :
    (s.step (.server resolved m now)).outstanding = rest := by
  simp only [step, if_pos answers, outstanding, List.tail_cons]

theorem distinct_answered (balanced : s.Balanced w requested popped) (answers : s.Answers m)
    (outstanding : s.outstanding = first :: rest) :
    (s.step (.server resolved m now)).ids.Nodup := by
  have distinct := balanced.distinct
  rw [ids, outstanding, List.map_cons, List.nodup_cons] at distinct
  rw [ids, outstanding_answered answers outstanding]
  exact distinct.2

/-- The answer to a tracked callback takes one id off the ring, which is then that much shorter. -/
theorem answered_tracked (balanced : s.Balanced w requested popped)
    (orderly : s.Orderly (.server resolved m now)) (answers : s.Answers m)
    (outstanding : s.outstanding = first :: rest) (own : first.id = m.object)
    (tracked : first.tracked = true) (done : m.IsDone resolved) :
    (s.step (.server resolved m now)).Balanced w requested
      (popped ++ (s.popped? (.server resolved m now)).toList) := by
  obtain ⟨origin, ring, -, pop, seen⟩ := balanced.answer_tracked outstanding own tracked done now
  have syncs : (s.step (.server resolved m now)).tracker.syncs = ring :=
    congrArg (fun seen : Observed => seen.tracker.syncs) seen
  have split := SyncRing.toList_of_pop pop
  have shorter := SyncRing.size_of_pop pop
  have given : s.popped? (.server resolved m now) = some m.object := by
    unfold popped?
    rw [syncs, if_pos (by omega), SyncRing.oldest?_eq_head?, split, List.head?_cons]
  have quiet := s.world.overflows_quiet (s.tracker.observeServer_quiet resolved m now)
  obtain ⟨overflows, total, counted⟩ := balanced.count
  refine ⟨?_, balanced.distinct_answered answers outstanding, orderly.apart, overflows, ?_,
    quiet.trans counted⟩
  · have before := balanced.ring
    rw [split, trackedIds, outstanding, List.filter_cons_of_pos tracked, List.map_cons] at before
    rw [syncs, trackedIds, outstanding_answered answers outstanding]
    exact List.tail_eq_of_cons_eq before
  · rw [syncs, given, List.length_append, Option.toList_some, List.length_singleton]
    omega

/-- The answer to a callback that is not tracked leaves the ring as it is. -/
theorem answered_untracked (balanced : s.Balanced w requested popped)
    (orderly : s.Orderly (.server resolved m now)) (answers : s.Answers m)
    (outstanding : s.outstanding = first :: rest) (own : first.id = m.object)
    (untracked : first.tracked = false) (done : m.IsDone resolved) :
    (s.step (.server resolved m now)).Balanced w requested
      (popped ++ (s.popped? (.server resolved m now)).toList) := by
  have seen := balanced.answer_untracked outstanding own untracked done now
  have syncs : (s.step (.server resolved m now)).tracker.syncs = s.tracker.syncs :=
    congrArg (fun seen : Observed => seen.tracker.syncs) seen
  have given : s.popped? (.server resolved m now) = none := popped?_of_size_le (by rw [syncs])
  have quiet := s.world.overflows_quiet (s.tracker.observeServer_quiet resolved m now)
  obtain ⟨overflows, total, counted⟩ := balanced.count
  refine ⟨?_, balanced.distinct_answered answers outstanding, orderly.apart, overflows, ?_,
    quiet.trans counted⟩
  · rw [syncs, balanced.ring, trackedIds, trackedIds, outstanding,
      outstanding_answered answers outstanding, List.filter_cons_of_neg (by simp [untracked])]
  · rw [syncs, given, Option.toList_none, List.append_nil]
    exact total

/-- An event of the server settles the oldest callback or none. -/
theorem server (balanced : s.Balanced w requested popped)
    (orderly : s.Orderly (.server resolved m now)) :
    (s.step (.server resolved m now)).Balanced w
      (requested ++ (requested? (.server resolved m now)).toList)
      (popped ++ (s.popped? (.server resolved m now)).toList) := by
  by_cases answers : s.Answers m
  · have asks : (requested? (.server resolved m now)).toList = [] := rfl
    rw [asks, List.append_nil]
    obtain ⟨done, head⟩ := orderly.inOrder answers
    cases outstanding : s.outstanding with
    | nil =>
        rw [ids, outstanding] at head
        cases head
    | cons first rest =>
        have own : first.id = m.object := by
          rw [ids, outstanding] at head
          exact Option.some.inj head
        cases tracked : first.tracked with
        | true => exact balanced.answered_tracked orderly answers outstanding own tracked done
        | false => exact balanced.answered_untracked orderly answers outstanding own tracked done
  · have outstanding : (s.step (.server resolved m now)).outstanding = s.outstanding :=
      if_neg answers
    have syncs : (s.tracker.observeServer resolved m now).tracker.syncs = s.tracker.syncs := by
      cases s.tracker.observeServer_event resolved m now with
      | frame wellFormed answersFrame frame syncs => exact syncs
      | neither foreign frame syncs => exact syncs
      | sync wellFormed otherwise answersSync popped frame =>
          have member := balanced.mem_ids_of_answersSync answersSync
          exact absurd ⟨wellFormed, answersSync.1, member⟩ answers
    exact balanced.idle orderly rfl syncs outstanding
      (s.world.overflows_quiet (s.tracker.observeServer_quiet resolved m now))

end Server

/-! ### Requests of the client -/

section Client

variable {id : UInt32}

theorem outstanding_requested (requests : Tracker.requestedSync? resolved m = some id) :
    (s.step (.client resolved m)).outstanding =
      s.outstanding ++ [⟨id, s.tracker.syncs.size < SyncRing.capacity⟩] := by
  simp only [step, requests, Option.toList_some, List.map_cons, List.map_nil]

/-- A sync callback is tracked if there is room for it. -/
theorem trackedIds_requested (requests : Tracker.requestedSync? resolved m = some id) :
    (s.step (.client resolved m)).trackedIds =
      s.trackedIds ++ if s.tracker.syncs.size < SyncRing.capacity then [id] else [] := by
  rw [trackedIds, outstanding_requested requests, List.filter_append, List.map_append, trackedIds]
  congr 1
  by_cases room : s.tracker.syncs.size < SyncRing.capacity <;> simp [room]

theorem distinct_requested (balanced : s.Balanced w requested popped)
    (orderly : s.Orderly (.client resolved m))
    (requests : Tracker.requestedSync? resolved m = some id) :
    (s.step (.client resolved m)).ids.Nodup := by
  have new : id ∉ s.ids := orderly.fresh id requests
  rw [ids, outstanding_requested requests, List.map_append]
  exact List.nodup_append_comm.1 (List.nodup_cons.2 ⟨new, balanced.distinct⟩)

/-- A callback for which there is room goes to the end of the ring. -/
theorem asked_tracked (balanced : s.Balanced w requested popped)
    (orderly : s.Orderly (.client resolved m))
    (requests : Tracker.requestedSync? resolved m = some id)
    (room : s.tracker.syncs.size < SyncRing.capacity)
    (syncs : (s.step (.client resolved m)).tracker.syncs.toList = s.tracker.syncs.toList ++ [id])
    (unreported : (s.tracker.observeClient resolved m).report = none) :
    (s.step (.client resolved m)).Balanced w (requested ++ [id])
      (popped ++ (s.popped? (.client resolved m)).toList) := by
  have longer : (s.step (.client resolved m)).tracker.syncs.size = s.tracker.syncs.size + 1 := by
    rw [← SyncRing.length_toList, ← SyncRing.length_toList, syncs, List.length_append,
      List.length_singleton]
  have given : s.popped? (.client resolved m) = none := popped?_of_size_le (by omega)
  have world : (s.step (.client resolved m)).world = s.world := congrArg s.world.report unreported
  obtain ⟨overflows, total, counted⟩ := balanced.count
  refine ⟨?_, balanced.distinct_requested orderly requests, orderly.apart, overflows, ?_, ?_⟩
  · rw [syncs, trackedIds_requested requests, if_pos room, balanced.ring]
  · rw [given, longer, List.length_append, Option.toList_none, List.append_nil,
      List.length_singleton]
    omega
  · rw [world]
    exact counted

theorem asked_untracked (balanced : s.Balanced w requested popped)
    (orderly : s.Orderly (.client resolved m))
    (requests : Tracker.requestedSync? resolved m = some id)
    (full : ¬ s.tracker.syncs.size < SyncRing.capacity)
    (seen : s.tracker.observeClient resolved m =
      ⟨s.tracker, m, none, some (.untracked id (.overflow SyncRing.capacity))⟩) :
    (s.step (.client resolved m)).Balanced w (requested ++ [id])
      (popped ++ (s.popped? (.client resolved m)).toList) := by
  have tracker : (s.step (.client resolved m)).tracker = s.tracker :=
    congrArg Observed.tracker seen
  have given : s.popped? (.client resolved m) = none := popped?_of_size_le (by rw [tracker])
  have world : (s.step (.client resolved m)).world =
      s.world.report (some (.untracked id (.overflow SyncRing.capacity))) :=
    congrArg (fun seen : Observed => s.world.report seen.report) seen
  obtain ⟨overflows, total, counted⟩ := balanced.count
  refine ⟨?_, balanced.distinct_requested orderly requests, orderly.apart, overflows + 1, ?_, ?_⟩
  · rw [tracker, trackedIds_requested requests, if_neg full, List.append_nil, balanced.ring]
  · rw [given, tracker, List.length_append, Option.toList_none, List.append_nil,
      List.length_singleton]
    omega
  · rw [world, World.overflows_untracked, counted, UInt64.ofNat_add, UInt64.add_assoc]
    rfl

theorem client (balanced : s.Balanced w requested popped)
    (orderly : s.Orderly (.client resolved m)) :
    (s.step (.client resolved m)).Balanced w
      (requested ++ (requested? (.client resolved m)).toList)
      (popped ++ (s.popped? (.client resolved m)).toList) := by
  have same (noSync : Tracker.requestedSync? resolved m = none) :
      (s.step (.client resolved m)).outstanding = s.outstanding := by
    simp only [step, noSync, Option.toList_none, List.map_nil, List.append_nil]
  cases s.tracker.observeClient_request resolved m with
  | neither noSync frame syncs quiet =>
      exact balanced.idle orderly noSync syncs (same noSync) (s.world.overflows_quiet quiet)
  | framed id noSync requests frame syncs quiet =>
      exact balanced.idle orderly noSync syncs (same noSync) (s.world.overflows_quiet quiet)
  | tracked id requests room syncs frame report =>
      have asks : requested? (.client resolved m) = some id := requests
      rw [asks]
      exact balanced.asked_tracked orderly requests room syncs report
  | refused id requests full seen =>
      have asks : requested? (.client resolved m) = some id := requests
      rw [asks]
      exact balanced.asked_untracked orderly requests full seen

end Client

/-- **What an orderly move preserves.** -/
theorem after (balanced : s.Balanced w requested popped) (orderly : s.Orderly move) :
    (s.step move).Balanced w (requested ++ (requested? move).toList)
      (popped ++ machine.out s move) := by
  cases move with
  | server resolved m now => exact balanced.server orderly
  | client resolved m => exact balanced.client orderly
  | take => exact balanced.idle orderly rfl rfl rfl rfl

theorem run {s : Correlation} {requested popped : List UInt32}
    (balanced : s.Balanced w requested popped) {moves : List Tracker.Move}
    (orderly : s.OrderlyRun moves) :
    (machine.run s moves).Balanced w (requested ++ moves.filterMap requested?)
      (popped ++ machine.outputs s moves) := by
  induction moves generalizing s requested popped with
  | nil => simpa using balanced
  | cons move rest ih =>
      obtain ⟨first, others⟩ := orderly
      -- the accounts of the move are put before those of the rest
      have next := ih (balanced.after first) others
      have asked : (requested? move).toList ++ rest.filterMap requested? =
          (move :: rest).filterMap requested? := by
        cases asks : requested? move with
        | none => exact (List.filterMap_cons_none asks).symm
        | some id => exact (List.filterMap_cons_some asks).symm
      rwa [List.append_assoc, List.append_assoc, asked] at next

end Balanced

/-- **Sync callbacks are answered in their order, and survive an overflow.**  Take any run of a
tracker in which sync callbacks get ids that no outstanding one and no frame callback has, and
the server answers them in order, once each, those that overflowed the ring included, and says
nothing else with the opcode of `done` from their ids.  Then the ring holds the outstanding ids
for which there was room, in the order of the requests.  The answer to such a one takes its own
id off the ring and has its serial renumbered; the answer to any other leaves the message and the
tracker as they are.  And the sync callbacks that were asked for are those taken off the ring,
those in the ring and those counted as overflows. -/
theorem syncs_answered_in_order (made : Nat) (w : World) (moves : List Tracker.Move)
    (orderly : (start made w).OrderlyRun moves) :
    let s := machine.run (start made w) moves
    s.tracker = Tracker.machine.run (.start made) moves ∧
      s.tracker.syncs.toList = s.trackedIds ∧
      (∀ resolved m now first rest, s.outstanding = first :: rest → first.id = m.object →
        m.IsDone resolved →
        let seen := s.tracker.observeServer resolved m now
        (first.tracked = true → ∃ origin ring, m.word? 2 = some origin ∧
          s.tracker.syncs.pop = some (m.object, ring) ∧
          let serial := s.tracker.due (some origin)
          seen = ⟨{ s.tracker with syncs := ring }.remember serial origin,
            { m with words := m.words.set 2 serial }, some serial, none⟩) ∧
        (first.tracked = false → seen = s.tracker.pass m)) ∧
      ∃ overflows : Nat,
        (moves.filterMap requested?).length =
          (machine.outputs (start made w) moves).length + s.tracker.syncs.size + overflows ∧
        s.world.overflows = w.overflows + UInt64.ofNat overflows := by
  intro s
  have balanced := (balanced_start made w).run orderly
  refine ⟨tracker_run _ moves, balanced.ring, ?_, balanced.count⟩
  intro resolved m now first rest outstanding own done seen
  exact ⟨fun tracked => balanced.answer_tracked outstanding own tracked done now,
    fun untracked => balanced.answer_untracked outstanding own untracked done now⟩

namespace Example

open Message.Example (message)

def sync (id : UInt32) : Tracker.Move :=
  .client (some ⟨"wl_display", none⟩) (message .fromClient 1 0 [id])

/-- The answer to a sync callback that the map knows. -/
def done (id serial : UInt32) : Message :=
  message .fromServer id 0 [serial]

def callback : Resolved := ⟨"wl_callback", none⟩

/-- The keyboard enters with the serial 41, and sixty-five sync callbacks are asked for, one more
than the ring has room for. -/
def asking : List Tracker.Move :=
  .server (some ⟨"wl_keyboard", none⟩) (message .fromServer 14 1 [41, 12, 0]) 0 ::
    (List.range 65).map fun k => sync (UInt32.ofNat (100 + k))

/-- The first sixty-four are answered. -/
def answering : List Tracker.Move :=
  (List.range 64).map fun k =>
    .server (some callback) (done (UInt32.ofNat (100 + k)) (UInt32.ofNat (500 + k))) 0

/-- The first answer takes its id off the ring and goes out with the serial 42; the last one, for
which there was no room, goes by as it is. -/
theorem last_callback_goes_by :
    let full := machine.run (start 0 (.start .reliable .reliable)) asking
    let drained := machine.run (start 0 (.start .reliable .reliable)) (asking ++ answering)
    (start 0 (.start .reliable .reliable)).OrderlyRun asking ∧
      (∃ ring, full.tracker.syncs.pop = some (100, ring) ∧
        (full.tracker.observeServer (some callback) (done 100 500) 0).tracker.syncs = ring) ∧
      (full.tracker.observeServer (some callback) (done 100 500) 0).message = done 100 42 ∧
      (start 0 (.start .reliable .reliable)).OrderlyRun (asking ++ answering) ∧
      drained.outstanding = [⟨164, false⟩] ∧ drained.world.overflows = 1 ∧
      drained.tracker.observeServer (some callback) (done 164 564) 0 =
        drained.tracker.pass (done 164 564) := by
  intro full drained
  have orderlyFull : (start 0 (.start .reliable .reliable)).OrderlyRun asking := by decide +kernel
  have orderlyDrained :
      (start 0 (.start .reliable .reliable)).OrderlyRun (asking ++ answering) := by
    decide +kernel
  obtain ⟨rest, oldest⟩ : ∃ rest, full.outstanding = ⟨100, true⟩ :: rest := ⟨_, rfl⟩
  have last : drained.outstanding = [⟨164, false⟩] := by decide +kernel
  obtain ⟨-, -, answers, -⟩ :=
    syncs_answered_in_order 0 (.start .reliable .reliable) asking orderlyFull
  obtain ⟨origin, ring, -, pop, seen⟩ :=
    (answers (some callback) (done 100 500) 0 _ rest oldest rfl (by decide)).1 rfl
  obtain ⟨-, -, answersLast, -⟩ :=
    syncs_answered_in_order 0 (.start .reliable .reliable) (asking ++ answering) orderlyDrained
  have goesBy := (answersLast (some callback) (done 164 564) 0 _ [] last rfl (by decide)).2 rfl
  refine ⟨orderlyFull, ⟨ring, pop, ?_⟩, by decide +kernel, orderlyDrained, last,
    by decide +kernel, goesBy⟩
  rw [seen]
  rfl

end Example

end Correlation

end WaylandProxy
