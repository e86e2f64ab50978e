/-
# Proofs.Session.Transparency -- a session that leaves no trace in its output

A session whose passes are bystanders writes its capture again.  The way round is: the lines of
the capture hold messages without flaw (`Capture.held_ofLines`); each goes by the chain and is
sent on as it is (`Replay.Plays.undisturbed`); over channels that do not fail each is written, so
the file gets its line (`Transcript.file_append`, `deliveries_reliable`); and the lines of the file
hold the messages that were sent (`Capture.ofText_encode`).  Only the moments of the session
come between, as the offsets of the new lines.
-/
import WaylandProxy.Proofs.Capture.Load
import WaylandProxy.Proofs.Pass.Bystander
import WaylandProxy.Proofs.Session.Replay
import WaylandProxy.Session.Run
import WaylandProxy.Session.Transcript

namespace WaylandProxy

set_option autoImplicit false

/-! ## What a transcript holds -/

namespace Transcript

def line? (origin : Nat) : Note → Option String
  | .wrote peer _ bytes now => some (Entry.encodeLine (now - origin) (directionTo peer) bytes)
  | _ => none

/-- Lines as text, with a line feed after each. -/
def textOf (lines : List String) : List Char :=
  lines.flatMap fun line => line.toList ++ ['\n']

theorem toList_file_add (origin : Nat) (t : Transcript) (n : Note) :
    (t.add true origin n).file.toList = t.file.toList ++ textOf (line? origin n).toList := by
  cases n with
  | wrote peer connection bytes now =>
      show (t.file ++ (Entry.encodeLine (now - origin) (directionTo peer) bytes ++ "\n")).toList = _
      rw [String.toList_append, String.toList_append]
      simp [line?, textOf]
  | logged entry =>
      simp only [add]
      split <;> simp [line?, textOf]
  | _ => simp [add, line?, textOf]

/-- **The file gets a line for each message that was written**, and nothing else. -/
theorem toList_file_ofNotes (origin : Nat) (notes : List Note) :
    (ofNotes true origin notes).file.toList = textOf (notes.filterMap (line? origin)) := by
  have all : ∀ (notes : List Note) (t : Transcript), (notes.foldl (add true origin) t).file.toList =
      t.file.toList ++ textOf (notes.filterMap (line? origin)) := by
    intro notes
    induction notes with
    | nil => exact fun t => (List.append_nil _).symm
    | cons n rest ih =>
        intro t
        rw [List.foldl_cons, ih, toList_file_add, List.append_assoc]
        cases written : line? origin n <;> simp [textOf, written]
  exact all notes empty

theorem filterMap_line? (origin : Nat) (w : World) :
    w.notes.filterMap (line? origin) = w.attempts.filterMap (line? origin) := by
  unfold World.attempts
  rw [List.filterMap_filter]
  refine List.filterMap_congr fun n _ => ?_
  cases n <;> rfl

theorem file_append (origin : Nat) {w after : World} {lines : List String}
    (more : after.attempts.filterMap (line? origin) =
      w.attempts.filterMap (line? origin) ++ lines) :
    (ofNotes true origin after.notes).file =
      (ofNotes true origin w.notes).file ++ String.ofList (textOf lines) := by
  rw [← String.toList_inj, String.toList_append, toList_file_ofNotes, toList_file_ofNotes,
    filterMap_line?, filterMap_line?, more, String.toList_ofList]
  exact List.flatMap_append

end Transcript

/-! ## What arrives -/

/-- Nothing fails on the channel. -/
def Channel.Reliable (c : Channel) : Prop :=
  ∀ attempt, c.writeFault attempt = none ∧ c.flushFault attempt = none

theorem Channel.Reliable.fate_eq {c : Channel} (reliable : c.Reliable) : c.fate = .arrived := by
  unfold fate
  rw [(reliable _).1, (reliable _).2]

theorem Channel.Reliable.sent {c : Channel} (reliable : c.Reliable) : c.sent.Reliable := by
  unfold Channel.sent
  rw [(reliable _).1]
  exact reliable

/-- What a message that is sent on at a moment is in a capture that counts time from `origin`. -/
def entryOf (origin : Nat) (sent : Message × Nat) : Entry :=
  ⟨sent.2 - origin, sent.1⟩

/-- **Over channels on which nothing fails all messages arrive**, each as one line. -/
theorem deliveries_reliable (origin : Nat) (messages : List (Message × Nat)) :
    ∀ (channels : Peer → Channel), (∀ peer, (channels peer).Reliable) →
      (deliveries channels messages).countP (·.fate = .arrived) = messages.length ∧
        ((deliveries channels messages).flatMap Delivery.attempts).filterMap
          (Transcript.line? origin) = (messages.map (entryOf origin)).map Entry.encode := by
  induction messages with
  | nil => exact fun _ _ => ⟨rfl, rfl⟩
  | cons first rest ih =>
      intro channels reliable
      obtain ⟨m, now⟩ := first
      have arrives := (reliable (Replay.receiver m.direction)).fate_eq
      -- one message uses one of the channels, and leaves nothing that fails there either
      have others : ∀ peer, (Function.update channels (Replay.receiver m.direction)
          (channels (Replay.receiver m.direction)).sent peer).Reliable := by
        intro peer
        by_cases same : peer = Replay.receiver m.direction
        · rw [same, Function.update_self]
          exact (reliable _).sent
        · rw [Function.update_of_ne same]
          exact reliable peer
      obtain ⟨arrived, written⟩ := ih _ others
      have back : Transcript.directionTo (Replay.receiver m.direction) = m.direction := by
        cases m.direction <;> rfl
      simp only [deliveries, arrives]
      constructor
      · rw [List.countP_cons, arrived]
        rfl
      · rw [List.flatMap_cons, List.filterMap_append, written, List.map_cons, List.map_cons]
        simp [Delivery.attempts, Delivery.peer, Transcript.line?, entryOf, Entry.encode, back]

theorem lines_of_written (all : List Entry) {output : String}
    (is : output.toList = Transcript.textOf (all.map Entry.encode)) :
    Text.lines output = all.map Entry.encode := by
  have text : output = Text.ofLines (all.map Entry.encode) := by
    rw [← String.toList_inj, is, Transcript.textOf, Text.toList_ofLines]
    simp only [List.flatMap_map]
  rw [text]
  refine Text.lines_ofLines fun line member => ?_
  obtain ⟨e, -, rfl⟩ := List.mem_map.1 member
  exact e.encode_sound.2

/-! ## A replay among bystanders -/

namespace Replay

variable {σ : Type} [Pass σ] {program : Option String} {among : σ → Prop}

/-- **Bystanders do not disturb a replay.**  No idle opportunity does anything, and every message
is let through as it is without a request for the end. -/
theorem Plays.undisturbed (bystanders : Bystanders program among) {r last : Replay σ}
    {steps : List (Step σ)} (plays : Plays r steps last) (only : r.router.Only among)
    (same : ∀ e ∈ r.schedule.entries, e.message.connection.program = program) :
    (∀ step ∈ steps, step.Calm) ∧
      ∀ p ∈ passages steps, p.routed.router.exit = p.before.exit ∧ p.before.exit = false ∧
        p.routed.forward = true ∧ p.routed.message = p.entry.message := by
  induction plays with
  | stopped | ended => exact ⟨List.forall_mem_nil _, List.forall_mem_nil _⟩
  | @deliver r last entry rest now steps going first after ih =>
      rw [first] at same
      obtain ⟨here, others⟩ := List.forall_mem_cons.1 same
      obtain ⟨message, forward, exit, stays⟩ :=
        Router.route_bystanders bystanders only here now
      obtain ⟨w, router⟩ := r.router_deliver entry rest now
      have onlyAfter : (r.deliver entry rest now).router.Only among := by
        rw [router]
        exact ⟨stays.passes, stays.pinned⟩
      obtain ⟨calm, passages⟩ := ih onlyAfter (by rw [entries_deliver]; exact others)
      exact ⟨List.forall_mem_cons.2 ⟨trivial, calm⟩,
        List.forall_mem_cons.2 ⟨⟨exit, going, forward, message⟩, passages⟩⟩
  | @tick r last rest now steps going kept after ih =>
      obtain ⟨world, exit, stays⟩ := Router.idle_bystanders bystanders only now
      obtain ⟨calm, passages⟩ := ih stays (kept ▸ same)
      have idle : (Step.rest r.router now).Calm := ⟨by rw [world]; exact .refl _, exit⟩
      exact ⟨List.forall_mem_cons.2 ⟨idle, calm⟩, passages⟩
  | wait going kept after ih => exact ih only (kept ▸ same)

/-- What bystanders let through is all that is routed, as it came. -/
theorem letThrough_eq {steps : List (Step σ)}
    (all : ∀ p ∈ passages steps, p.routed.forward = true ∧ p.routed.message = p.entry.message) :
    letThrough steps = (passages steps).map fun p => (p.entry.message, p.now) := by
  unfold letThrough
  rw [List.filter_eq_self.2 fun p member => (all p member).1]
  exact List.map_congr_left fun p member => by rw [(all p member).2]

/-- A replay does not count malformed lines. -/
theorem Plays.skipped {r last : Replay σ} {steps : List (Step σ)} (plays : Plays r steps last) :
    last.stats.skipped = r.stats.skipped := by
  induction plays with
  | stopped | ended => rfl
  | @deliver r last entry rest now steps going first after ih =>
      refine ih.trans ?_
      unfold Replay.deliver afterRoute
      simp only
      split
      · split <;> rfl
      · rfl
  | tick going same after ih | wait going same after ih => exact ih

/-- The entry that a message is written as when it goes by as it is, with time from `origin`. -/
def Passage.written (origin : Nat) (p : Passage σ) : Entry :=
  entryOf origin (p.entry.message, p.now)

/-- **A replay among bystanders sends every entry on**, over channels on which nothing fails. -/
theorem Plays.written_again [SinkFree σ] (bystanders : Bystanders program among) (origin : Nat)
    {r last : Replay σ} {steps : List (Step σ)} (plays : Plays r steps last)
    (only : r.router.Only among) (going : r.router.exit = false)
    (reliable : ∀ peer, (r.router.world.channel peer).Reliable)
    (same : ∀ e ∈ r.schedule.entries, e.message.connection.program = program) :
    (passages steps).map Passage.entry = r.schedule.entries ∧
      last.router.world.attempts.filterMap (Transcript.line? origin) =
        r.router.world.attempts.filterMap (Transcript.line? origin) ++
          ((passages steps).map (Passage.written origin)).map Entry.encode ∧
      last.stats = ⟨r.stats.routed + r.schedule.entries.length,
        r.stats.forwarded + r.schedule.entries.length, r.stats.skipped⟩ := by
  obtain ⟨calm, undisturbed⟩ := plays.undisturbed bystanders only same
  have all : (passages steps).map Passage.entry = r.schedule.entries :=
    plays.all_entries calm going fun p member =>
      (undisturbed p member).1.trans (undisturbed p member).2.1
  have count : (passages steps).length = r.schedule.entries.length := by
    rw [← all, List.length_map]
  have through : letThrough steps = (passages steps).map fun p => (p.entry.message, p.now) :=
    letThrough_eq fun p member => (undisturbed p member).2.2
  have entries : (letThrough steps).map (entryOf origin) =
      (passages steps).map (Passage.written origin) := by
    rw [through, List.map_map]
    rfl
  have length : (letThrough steps).length = r.schedule.entries.length := by
    rw [through, List.length_map, count]
  have sent := plays.sent calm
  obtain ⟨arrived, written⟩ := deliveries_reliable origin (letThrough steps) _ reliable
  refine ⟨all, ?_, ?_⟩
  · rw [sent.attempts, List.filterMap_append, written, entries]
  · have routed := plays.routed
    have forwarded := sent.arrived
    have skipped := plays.skipped
    rw [count] at routed
    rw [arrived, length] at forwarded
    show last.stats = _
    rw [← routed, ← forwarded, ← skipped]

end Replay

/-! ## The session -/

namespace Session

open Replay (Passage Plays passages)

variable {σ : Type}

theorem sparesSinks_reportSkips : ∀ (skips : List (Nat × Fault)) (w : World),
    World.SparesSinks w (skips.foldl Capture.reportSkip w)
  | [], w => .refl w
  | _ :: rest, w =>
    ((World.SparesSinks.count w _).trans (.note _ rfl)).trans (sparesSinks_reportSkips rest _)

/-- Before the replay nothing is sent. -/
theorem begin_eq (c : SessionConfig) (ticks : 1 ≤ c.tickIntervalMs) (storage : Storage)
    (r : Router σ) {text : String} (readable : storage.readText c.capture = .ok text)
    (file : c.output ≠ Config.screenOutput) (writable : storage.makeAnew c.output = .ok ()) :
    ∃ w, World.SparesSinks r.world w ∧ begin c ticks storage r =
      (.ok (start c ticks (Capture.ofText (connection c) text) (withWorld r w)),
        withWorld r w) := by
  have output : outputFault? storage c = none := by
    unfold outputFault?
    rw [if_neg file, writable]
  unfold begin load
  rw [readable]
  refine ⟨_, ?_, by simp only [output]; rfl⟩
  exact (sparesSinks_reportSkips _ r.world).trans (.log _ _ _ _ _)

/-- After the replay nothing is sent. -/
theorem sparesSinks_finish [Pass σ] [SinkFree σ] (replay : Replay σ) :
    World.SparesSinks replay.router.world (finish replay).2.world :=
  ((replay.router.sparesSinks_shutdown).trans (.log _ _ _ _ _)).trans (.log _ _ _ _ _)

/-- Nothing gets in the way of a session: its passes are trace passes in any state and fuzz passes
that wait for another program, in any order; its capture can be read, whatever the text; its output
is a file and can be made; and the sinks take everything. -/
structure Unhindered (c : SessionConfig) (storage : Storage) (r : Router (StageOver σ))
    (text : String) : Prop where
  passes : ∀ p ∈ r.passes, StageOver.Unintrusive c.program p
  unpinned : r.pinned = none
  going : r.exit = false
  reliable : ∀ peer, (r.world.channel peer).Reliable
  readable : storage.readText c.capture = .ok text
  file : c.output ≠ Config.screenOutput
  writable : storage.makeAnew c.output = .ok ()

section Unhindered

variable [EventSource σ] [LoadSource σ] {c : SessionConfig} {storage : Storage}
  {r : Router (StageOver σ)} {text : String}

/-- What a session writes, wherever its idle opportunities fall and whenever its messages go by:
a line for each message of its capture. -/
theorem Unhindered.output (unhindered : Unhindered c storage r text)
    (ticks : 1 ≤ c.tickIntervalMs) (origin : Nat) :
    let found := Capture.ofText (connection c) text
    ∃ replay started, begin c ticks storage r = (.ok replay, started) ∧
      replay.schedule.entries = found.entries ∧
      ∀ steps last, Plays replay steps last →
        let written := (passages steps).map (Passage.written origin)
        (passages steps).map Passage.entry = found.entries ∧
        (finish last).1 =
          ⟨found.entries.length, found.entries.length, found.skipped.length⟩ ∧
        ∃ output, (Transcript.ofNotes true origin (finish last).2.world.notes).file =
            (Transcript.ofNotes true origin r.world.notes).file ++ output ∧
          (Capture.ofText (connection c) output).entries =
            (written.filter fun e => e.InRange).map Entry.truncated ∧
          (Capture.ofText (connection c) output).skipped.length =
            written.countP fun e => ¬ e.InRange := by
  intro found
  obtain ⟨w, before, begun⟩ := begin_eq c ticks storage r unhindered.readable unhindered.file
    unhindered.writable
  let beginning := start c ticks found (withWorld r w)
  -- a message that was read from a line is one that can be written on a line
  have held : ∀ e ∈ found.entries, e.message.flaw? = none ∧
      e.message.connection = connection c := by
    intro e member
    obtain ⟨line, holds⟩ := Capture.held_ofLines _ 1 e member
    obtain ⟨wellFormed, same, -⟩ := holds.sound
    exact ⟨wellFormed, same⟩
  have channels : beginning.router.world.channel = r.world.channel := before.channel
  have only : beginning.router.Only (StageOver.Bystander c.program) :=
    ⟨fun p member => (unhindered.passes p member).bystander, unhindered.unpinned⟩
  refine ⟨beginning, withWorld r w, begun, rfl, fun steps last plays => ?_⟩
  obtain ⟨all, lines, stats⟩ := plays.written_again StageOver.bystanders origin only
    unhindered.going (channels ▸ unhindered.reliable) fun e member => by
      rw [(held e member).2]
      rfl
  have sound : ∀ e ∈ (passages steps).map (Passage.written origin),
      e.message.flaw? = none ∧ e.message.connection = connection c := by
    rw [List.forall_mem_map]
    intro p member
    have all : (passages steps).map Passage.entry = found.entries := all
    exact held p.entry (all ▸ List.mem_map_of_mem member)
  -- nothing is written before the replay or after it
  have added : (finish last).2.world.attempts.filterMap (Transcript.line? origin) =
      r.world.attempts.filterMap (Transcript.line? origin) ++
        ((passages steps).map (Passage.written origin)).map Entry.encode := by
    have spared : beginning.router.world.attempts = r.world.attempts := before.attempts
    rw [(sparesSinks_finish last).attempts, lines, spared]
  have again := lines_of_written ((passages steps).map (Passage.written origin))
    (String.toList_ofList (l := Transcript.textOf _))
  obtain ⟨entries, skipped⟩ := Capture.ofLines_encode sound 1
  rw [← again] at entries skipped
  refine ⟨all, stats.trans ?_, _, Transcript.file_append origin added, entries, skipped⟩
  show (⟨0 + found.entries.length, 0 + found.entries.length, found.skipped.length⟩ :
    ReplayStats) = _
  rw [Nat.zero_add]

/-- **An unintrusive session writes its capture again.**  Take a session that nothing gets in the
way of (`Unhindered`) and a period for its idle opportunities.  Its replay begins without a fault,
and run to its end at any clock it is one of the replays that are meant here, with each message at
what the clock says of a moment between its own offset and the latest one.

Wherever the idle opportunities fall and whenever the messages go by, the session counts each
message of its capture as routed and as forwarded and the malformed lines as skipped, and what it
adds to its file has a line for each of these messages.  Read again, these are the messages that
went by at fewer than `2 ^ 64` milliseconds from `origin`, which are all that the offset of a line
can hold; the other lines are skipped.  So if all went by before that, the added text is a capture
in which no line is malformed and whose messages are those of the input, one for one, with their
directions and their words. -/
theorem unintrusive_session_is_transparent (unhindered : Unhindered c storage r text)
    (ticks : 1 ≤ c.tickIntervalMs) (origin : Nat) :
    let found := Capture.ofText (connection c) text
    ∃ replay started, begin c ticks storage r = (.ok replay, started) ∧
      (∀ clock, ∃ steps, Plays replay steps (replay.run clock 0) ∧
        run c storage clock r ticks =
          (.ok (finish (replay.run clock 0)).1, (finish (replay.run clock 0)).2) ∧
        ∀ p ∈ passages steps, ∃ moment, p.now = clock moment ∧ p.entry.offset ≤ moment ∧
          ∃ e ∈ found.entries, moment ≤ e.offset) ∧
      ∀ steps last, Plays replay steps last →
        let written := (passages steps).map (Passage.written origin)
        let after := (finish last).2
        (finish last).1 =
          ⟨found.entries.length, found.entries.length, found.skipped.length⟩ ∧
        ∃ output, (Transcript.ofNotes true origin after.world.notes).file =
            (Transcript.ofNotes true origin r.world.notes).file ++ output ∧
          let again := Capture.ofText (connection c) output
          (again.entries = (written.filter fun e => e.InRange).map Entry.truncated ∧
            again.skipped.length = written.countP fun e => ¬ e.InRange) ∧
          ((∀ p ∈ passages steps, (p.written origin).InRange) →
            again.skipped = [] ∧
              again.entries.map Entry.message = found.entries.map Entry.message) := by
  intro found
  obtain ⟨replay, started, begun, entries, plays⟩ := unhindered.output ticks origin
  refine ⟨replay, started, begun, fun clock => ?_, fun steps last played => ?_⟩
  · obtain ⟨steps, played, moments⟩ := Replay.exists_plays clock replay 0
    refine ⟨steps, played, by unfold run; rw [begun], fun p member => ?_⟩
    obtain ⟨moment, told, due, early | early⟩ := moments p member
    -- a message that is due at once goes by at no moment later than its own offset
    · have given : p.entry ∈ found.entries :=
        (plays steps _ played).1 ▸ List.mem_map_of_mem member
      exact ⟨moment, told, due, p.entry, given, Nat.le_trans early (Nat.zero_le _)⟩
    · exact ⟨moment, told, due, entries ▸ early⟩
  · obtain ⟨all, stats, output, file, held, skipped⟩ := plays steps last played
    refine ⟨stats, output, file, ⟨held, skipped⟩, fun inTime => ?_⟩
    have inRange : ∀ e ∈ (passages steps).map (Passage.written origin), e.InRange :=
      List.forall_mem_map.2 inTime
    have kept : ((passages steps).map (Passage.written origin)).filter (fun e => e.InRange) =
        (passages steps).map (Passage.written origin) := by simpa using inRange
    have none :
        (((passages steps).map (Passage.written origin)).countP fun e => ¬ e.InRange) = 0 := by
      simpa using inRange
    rw [kept] at held
    rw [none, List.length_eq_zero_iff] at skipped
    refine ⟨skipped, ?_⟩
    rw [held, ← all, List.map_map, List.map_map, List.map_map]
    rfl

end Unhindered

namespace Example

open Message.Example (message)

/-- A capture with a comment, odd spacing and a line that holds nothing. -/
def capture : String :=
  "# two messages\n +5 C 010000000000 0c00\n5\tC 0100000000000C0003000000 \r\n" ++
    "1 S 0300000000000c0007000000"

/-- A session of an unknown program. -/
def config : SessionConfig :=
  ⟨"in", "out", none, 5, 0⟩

/-- Any file has this text, and any can be made. -/
def storage (text : String) : Storage :=
  ⟨fun _ => .ok (Text.Utf8.encode text), fun _ => .ok ()⟩

def other : Options :=
  { block := true, verbose := false, program := some "weston", delayMin := 10, delayMax := 1000,
    mode := .seed 0 }

/-- A trace pass whose screen fails, and a fuzz pass that waits for another program. -/
def chain : Router Stage where
  passes := [.trace (.create ⟨some "gone"⟩),
    .fuzz ((Fuzz.create 0).arm other (.script ⟨[⟨.leave, 0⟩]⟩))]
  pinned := none
  objects := .initial
  world := .start .reliable .reliable
  exit := false
  finalized := false

/-- Nothing gets in the way of a session over a text with this chain. -/
theorem unhindered_chain (text : String)
    (readable : (storage text).readText config.capture = .ok text) :
    Unhindered config (storage text) chain text where
  passes := by
    unfold chain
    rw [List.forall_mem_cons, List.forall_mem_singleton]
    exact ⟨.trace _, .fuzz 0 _ rfl nofun⟩
  unpinned := rfl
  going := rfl
  reliable peer attempt := by cases peer <;> exact ⟨rfl, rfl⟩
  readable := readable
  file := by decide
  writable := rfl

theorem ticks : 1 ≤ config.tickIntervalMs := by decide

theorem file_chain : (Transcript.ofNotes true 0 chain.world.notes).file = "" := rfl

/-- A request and an event come out as they were, although the replay begins three milliseconds
after the time of the output; the line with four fields is skipped. -/
theorem two_messages_written_again :
    Unhindered config (storage capture) chain capture ∧ 1 ≤ config.tickIntervalMs ∧
      ∃ stats after output,
        run config (storage capture) (· + millis 3) chain ticks = (.ok stats, after) ∧
        (Transcript.ofNotes true 0 after.world.notes).file = output ∧
        (Capture.ofText (connection config) output).skipped = [] ∧
        (Capture.ofText (connection config) output).entries.map Entry.message =
          [message .fromClient 1 0 [3], message .fromServer 3 0 [7]] ∧
        stats.routed = 2 ∧ stats.forwarded = 2 ∧ stats.skipped = 1 := by
  have unhindered := unhindered_chain capture (by decide)
  obtain ⟨replay, started, -, runs, plays⟩ :=
    unintrusive_session_is_transparent unhindered ticks 0
  obtain ⟨steps, played, ended, moments⟩ := runs (· + millis 3)
  obtain ⟨stats, output, file, -, same⟩ := plays steps _ played
  have offsets : ∀ e ∈ (Capture.ofText (connection config) capture).entries,
      e.offset + millis 3 < millis (2 ^ 64) := by decide +kernel
  obtain ⟨skipped, messages⟩ := same fun p member => by
    obtain ⟨moment, told, -, e, given, early⟩ := moments p member
    have within := offsets e given
    show p.now - 0 < millis (2 ^ 64)
    omega
  rw [file_chain, String.empty_append] at file
  rw [stats] at ended
  exact ⟨unhindered, ticks, _, _, output, ended, file, skipped, messages.trans (by decide +kernel),
    by decide +kernel, by decide +kernel, by decide +kernel⟩

/-- One request, at the last millisecond that the offset of a line can hold. -/
def lateCapture : String :=
  "18446744073709551615 C 0100000000000c0003000000"

/-- **A session can lose what its capture holds.**  The replay begins a millisecond after the time
of the output, so the request is written at a millisecond that no line can hold: nothing is found in
the output but a line that is skipped. -/
theorem late_message_not_found :
    Unhindered config (storage lateCapture) chain lateCapture ∧
      (Capture.ofText (connection config) lateCapture).entries.map Entry.message =
        [message .fromClient 1 0 [3]] ∧
      (Capture.ofText (connection config) lateCapture).skipped = [] ∧
      ∃ stats after output,
        run config (storage lateCapture) (· + millis 1) chain ticks = (.ok stats, after) ∧
        stats.routed = 1 ∧ stats.forwarded = 1 ∧
        (Transcript.ofNotes true 0 after.world.notes).file = output ∧
        (Capture.ofText (connection config) output).entries = [] ∧
        (Capture.ofText (connection config) output).skipped.length = 1 := by
  have unhindered := unhindered_chain lateCapture (by decide)
  have found : Capture.ofText (connection config) lateCapture =
      ⟨[⟨millis (2 ^ 64 - 1), message .fromClient 1 0 [3]⟩], []⟩ := by decide +kernel
  obtain ⟨replay, started, begun, entries, plays⟩ := unhindered.output ticks 0
  obtain ⟨steps, played, moments⟩ := Replay.exists_plays (· + millis 1) replay 0
  obtain ⟨all, stats, output, file, held, skipped⟩ := plays steps _ played
  have ended : run config (storage lateCapture) (· + millis 1) chain ticks =
      (.ok (finish (replay.run (· + millis 1) 0)).1, (finish (replay.run (· + millis 1) 0)).2) := by
    unfold run
    rw [begun]
  -- no message goes by before its offset, which is the last one that a line can hold
  have late : ∀ p ∈ passages steps, ¬ (p.written 0).InRange := by
    intro p member
    obtain ⟨moment, told, due, -⟩ := moments p member
    have given : p.entry ∈ (Capture.ofText (connection config) lateCapture).entries :=
      all ▸ List.mem_map_of_mem member
    rw [found, List.mem_singleton] at given
    rw [given] at due
    have due : millis (2 ^ 64 - 1) ≤ moment := due
    show ¬ p.now - 0 < millis (2 ^ 64)
    unfold millis at *
    omega
  have length : (passages steps).length = 1 := by
    rw [← List.length_map Passage.entry, all, found]
    rfl
  have nothing :
      ((passages steps).map (Passage.written 0)).filter (fun e => e.InRange) = [] := by
    simpa [List.filter_eq_nil_iff] using late
  have one : (((passages steps).map (Passage.written 0)).countP fun e => ¬ e.InRange) = 1 := by
    rw [List.countP_eq_length.2 (by simpa using late), List.length_map, length]
  rw [nothing] at held
  rw [one] at skipped
  rw [file_chain, String.empty_append] at file
  rw [stats] at ended
  rw [found]
  exact ⟨unhindered, rfl, rfl, _, _, output, ended, by rw [found]; rfl, by rw [found]; rfl, file,
    held, skipped⟩

end Example

end Session

end WaylandProxy
