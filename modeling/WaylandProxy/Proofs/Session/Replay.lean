/-
# Proofs.Session.Replay -- what a replay does with its entries

A replay takes steps: an entry is routed and, if the chain lets it, sent on, or the passes get
their idle opportunity.  `Plays` says which lists of steps are replays, wherever the idle
opportunities fall; that the entries are taken from the front, one for each routing, and that
nothing follows a request for the end, is all that it asks.  The schedule keeps to it at every
clock (`exists_plays`).

Everything is then proved by induction on `Plays`: each routing is told apart from the rest by
its step (`deliver_eq`), and an idle opportunity that injects nothing changes neither the
attempts nor the counts.
-/
import WaylandProxy.Proofs.Pass.SinkFree
import WaylandProxy.Proofs.Wire.Words

namespace WaylandProxy

set_option autoImplicit false

/-! ## What comes next -/

/-- What comes next takes the first entry, if its moment has come, or leaves the entries; and while
there are any it waits for no later moment than the first one's. -/
def Schedule.Kept (s : Schedule) (now : Nat) : Beat → Prop
  | .over => s.entries = []
  | .deliver entry rest => s.entries = entry :: rest.entries ∧ entry.offset ≤ now
  | .tick rest => rest.entries = s.entries
  | .wait moment rest => rest.entries = s.entries ∧ ∀ e ∈ s.entries.head?, moment ≤ e.offset

theorem Schedule.next_kept (s : Schedule) (now : Nat) : s.Kept now (s.next now) := by
  unfold next
  split
  · rename_i entry rest entries
    split
    · rename_i due
      exact ⟨entries, due⟩
    · unfold tickOrWait
      split
      · rfl
      · refine ⟨rfl, fun e first => ?_⟩
        rw [entries] at first
        cases first
        exact Nat.min_le_right _ _
  · rename_i entries
    simp only
    split
    · exact entries
    · unfold tickOrWait
      split
      · rfl
      · refine ⟨rfl, fun e first => ?_⟩
        rw [entries] at first
        cases first

namespace Replay

variable {σ : Type}

/-- A message that is routed: the router before, the entry and the moment. -/
structure Passage (σ : Type) where
  before : Router σ
  entry : Entry
  now : Nat

def Passage.routed [Pass σ] (p : Passage σ) : Routed σ :=
  p.before.route p.entry.message p.now

inductive Step (σ : Type) where
  | passage (p : Passage σ)
  /-- The passes get their idle opportunity. -/
  | rest (before : Router σ) (now : Nat)

namespace Step

def passage? : Step σ → Option (Passage σ)
  | .passage p => some p
  | .rest .. => none

/-- If the step is an idle opportunity, it injects nothing and does not ask for the end. -/
def Calm [Pass σ] : Step σ → Prop
  | .passage _ => True
  | .rest before now =>
    World.SparesSinks before.world (before.idle now).world ∧ (before.idle now).exit = before.exit

/-- No pass counts a message as lost in the step. -/
def Uncounting [Pass σ] : Step σ → Prop
  | .passage p => p.routed.router.world.lost = p.before.world.lost
  | .rest before now => (before.idle now).world.lost = before.world.lost

end Step

def passages (steps : List (Step σ)) : List (Passage σ) :=
  steps.filterMap Step.passage?

/-- The messages that the chain lets through, as the passes left them, and when. -/
def letThrough [Pass σ] (steps : List (Step σ)) : List (Message × Nat) :=
  ((passages steps).filter fun p => p.routed.forward).map fun p => (p.routed.message, p.now)

/-- The replay takes these steps and ends. -/
inductive Plays [Pass σ] : Replay σ → List (Step σ) → Replay σ → Prop where
  | stopped {r : Replay σ} (exit : r.router.exit = true) : Plays r [] r.stopped
  | ended {r : Replay σ} (going : r.router.exit = false) (nothing : r.schedule.entries = []) :
    Plays r [] r
  | deliver {r last : Replay σ} {entry : Entry} {rest : Schedule} {now : Nat}
    {steps : List (Step σ)} (going : r.router.exit = false)
    (first : r.schedule.entries = entry :: rest.entries)
    (after : Plays (r.deliver entry rest now) steps last) :
    Plays r (.passage ⟨r.router, entry, now⟩ :: steps) last
  | tick {r last : Replay σ} {rest : Schedule} {now : Nat} {steps : List (Step σ)}
    (going : r.router.exit = false) (same : rest.entries = r.schedule.entries)
    (after : Plays (r.tick rest now) steps last) : Plays r (.rest r.router now :: steps) last
  | wait {r last : Replay σ} {rest : Schedule} {steps : List (Step σ)}
    (going : r.router.exit = false) (same : rest.entries = r.schedule.entries)
    (after : Plays { r with schedule := rest } steps last) : Plays r steps last

theorem letThrough_cons [Pass σ] (step : Step σ) (steps : List (Step σ)) :
    letThrough (step :: steps) = letThrough [step] ++ letThrough steps := by
  have split : step :: steps = [step] ++ steps := rfl
  unfold letThrough passages
  rw [split, List.filterMap_append, List.filter_append, List.map_append]

/-! ## The order of the entries -/

@[simp] theorem entries_deliver [Pass σ] (r : Replay σ) (entry : Entry) (rest : Schedule)
    (now : Nat) : (r.deliver entry rest now).schedule.entries = rest.entries := by
  unfold deliver afterRoute
  simp only
  split <;> rfl

/-- Of the router, sending a message on changes the world only. -/
theorem router_deliver [Pass σ] (r : Replay σ) (entry : Entry) (rest : Schedule) (now : Nat) :
    ∃ w, (r.deliver entry rest now).router =
      { (⟨r.router, entry, now⟩ : Passage σ).routed.router with world := w } := by
  unfold deliver afterRoute
  simp only
  split <;> exact ⟨_, rfl⟩

theorem exit_deliver [Pass σ] (r : Replay σ) (entry : Entry) (rest : Schedule) (now : Nat) :
    (r.deliver entry rest now).router.exit =
      (⟨r.router, entry, now⟩ : Passage σ).routed.router.exit := by
  obtain ⟨w, same⟩ := r.router_deliver entry rest now
  rw [same]

@[simp] theorem routed_deliver [Pass σ] (r : Replay σ) (entry : Entry) (rest : Schedule)
    (now : Nat) : (r.deliver entry rest now).stats.routed = r.stats.routed + 1 := by
  unfold deliver afterRoute
  simp only
  split
  · split <;> rfl
  · rfl

namespace Plays

variable [Pass σ] {r last : Replay σ} {steps : List (Step σ)}

theorem entries_prefix (plays : Plays r steps last) :
    (passages steps).map Passage.entry <+: r.schedule.entries := by
  induction plays with
  | stopped | ended => exact List.nil_prefix
  | deliver going first after ih =>
      rw [entries_deliver] at ih
      rw [first]
      exact List.cons_prefix_cons.2 ⟨rfl, ih⟩
  | tick going same after ih | wait going same after ih => exact same ▸ ih

/-- Once the end was asked for there are no more steps. -/
theorem nothing_after_exit (plays : Plays r steps last) (exit : r.router.exit = true) :
    steps = [] := by
  cases plays with
  | stopped | ended => rfl
  | deliver going | tick going | wait going => cases exit.symm.trans going

/-- The routing that asked for the end is the last step. -/
theorem last_of_exit (plays : Plays r steps last) :
    ∀ {before after : List (Step σ)} {p : Passage σ}, steps = before ++ .passage p :: after →
      p.routed.router.exit = true → after = [] := by
  induction plays with
  | stopped | ended =>
      intro before after p split
      cases before <;> cases split
  | @deliver r last entry rest now steps going first after ih =>
      intro before afterwards p split exit
      cases before with
      | nil =>
          cases split
          exact after.nothing_after_exit ((exit_deliver r entry rest now).trans exit)
      | cons step before =>
          cases split
          exact ih rfl exit
  | tick going same after ih =>
      intro before afterwards p split exit
      cases before with
      | nil => cases split
      | cons step before =>
          cases split
          exact ih rfl exit
  | wait going same after ih => exact fun split exit => ih split exit

/-- If neither a routing nor an idle opportunity asks for the end, all entries are routed. -/
theorem all_entries (plays : Plays r steps last) (calm : ∀ step ∈ steps, step.Calm)
    (going : r.router.exit = false)
    (routings : ∀ p ∈ passages steps, p.routed.router.exit = false) :
    (passages steps).map Passage.entry = r.schedule.entries := by
  induction plays with
  -- it was not stopped, since nobody asked for the end
  | stopped exit => cases going.symm.trans exit
  | ended going nothing => exact nothing.symm
  | @deliver r last entry rest now steps going first after ih =>
      obtain ⟨here, others⟩ := List.forall_mem_cons.1 routings
      have later := ih (List.forall_mem_cons.1 calm).2 ((exit_deliver r entry rest now).trans here)
        others
      rw [entries_deliver] at later
      rw [first, ← later]
      rfl
  | tick going same after ih =>
      obtain ⟨idle, others⟩ := List.forall_mem_cons.1 calm
      exact (ih others (idle.2.trans going) routings).trans same
  | wait going same after ih => exact (ih calm going routings).trans same

end Plays

/-! ## The schedule keeps to it -/

theorem run_of_going [Pass σ] (clock : Nat → Nat) {r : Replay σ} (now : Nat)
    (going : r.router.exit = false) :
    r.run clock now =
      match r.schedule.next now with
      | .over => r
      | .deliver entry rest => run clock (r.deliver entry rest (clock now)) now
      | .tick rest => run clock (r.tick rest (clock now)) now
      | .wait moment rest => run clock { r with schedule := rest } moment := by
  rw [run, if_neg (by simp [going])]
  split <;> rename_i next <;> rw [next]

/-- **A replay takes some steps and ends**, and each message comes by at what the clock says of a
moment that is not before its own, and no later than where the schedule started or one of the
entries stands. -/
theorem exists_plays [Pass σ] (clock : Nat → Nat) (r : Replay σ) (now : Nat) :
    ∃ steps, Plays r steps (r.run clock now) ∧
      ∀ p ∈ passages steps, ∃ moment, p.now = clock moment ∧ p.entry.offset ≤ moment ∧
        (moment ≤ now ∨ ∃ e ∈ r.schedule.entries, moment ≤ e.offset) := by
  induction r, now using @Replay.run.induct σ _ clock with
  | case1 r now exit =>
      rw [run, if_pos exit]
      exact ⟨[], .stopped exit, List.forall_mem_nil _⟩
  | case2 r now going next =>
      have going := Bool.eq_false_iff.2 going
      have kept := r.schedule.next_kept now
      rw [next] at kept
      rw [run_of_going clock now going, next]
      exact ⟨[], .ended going kept, List.forall_mem_nil _⟩
  | case3 r now going entry rest next ih =>
      have going := Bool.eq_false_iff.2 going
      have kept := r.schedule.next_kept now
      rw [next] at kept
      obtain ⟨first, come⟩ := kept
      obtain ⟨steps, plays, moments⟩ := ih
      rw [run_of_going clock now going, next]
      refine ⟨_, .deliver going first plays,
        List.forall_mem_cons.2 ⟨⟨now, rfl, come, .inl (Nat.le_refl now)⟩, ?_⟩⟩
      intro p member
      obtain ⟨moment, told, due, early | ⟨e, among, early⟩⟩ := moments p member
      · exact ⟨moment, told, due, .inl early⟩
      · rw [entries_deliver] at among
        exact ⟨moment, told, due, .inr ⟨e, first ▸ List.mem_cons_of_mem entry among, early⟩⟩
  | case4 r now going rest next ih =>
      have going := Bool.eq_false_iff.2 going
      have kept := r.schedule.next_kept now
      rw [next] at kept
      obtain ⟨steps, plays, moments⟩ := ih
      rw [run_of_going clock now going, next]
      refine ⟨_, .tick going kept plays, fun p member => ?_⟩
      obtain ⟨moment, told, due, early⟩ := moments p member
      exact ⟨moment, told, due, kept ▸ early⟩
  | case5 r now going moment rest next ih =>
      have going := Bool.eq_false_iff.2 going
      have kept := r.schedule.next_kept now
      rw [next] at kept
      obtain ⟨same, waits⟩ := kept
      obtain ⟨steps, plays, moments⟩ := ih
      rw [run_of_going clock now going, next]
      refine ⟨steps, .wait going same plays, fun p member => ?_⟩
      obtain ⟨moment', told, due, early | early⟩ := moments p member
      · -- one comes by later, so the first of them is waited for
        have some : (passages steps).map Passage.entry ≠ [] := fun none => by
          rw [List.map_eq_nil_iff.1 none] at member
          cases member
        obtain ⟨e, others, first⟩ := List.exists_cons_of_ne_nil
          (plays.entries_prefix.ne_nil some)
        rw [same] at first
        have within := waits e (by rw [first]; rfl)
        exact ⟨moment', told, due, .inr ⟨e, first ▸ List.mem_cons_self, Nat.le_trans early within⟩⟩
      · exact ⟨moment', told, due, .inr (same ▸ early)⟩

/-! ## What is sent on -/

/-- From one replay to the next these messages were sent on, and nothing else was tried. -/
structure Sent (r after : Replay σ) (messages : List (Message × Nat)) : Prop where
  attempts : after.router.world.attempts = r.router.world.attempts ++
    (deliveries r.router.world.channel messages).flatMap Delivery.attempts
  channel : after.router.world.channel = channelsAfter r.router.world.channel messages
  arrived : after.stats.forwarded = r.stats.forwarded +
    (deliveries r.router.world.channel messages).countP (·.fate = .arrived)

namespace Sent

variable {r middle after : Replay σ}

theorem of_sparesSinks (spares : World.SparesSinks r.router.world after.router.world)
    (same : after.stats.forwarded = r.stats.forwarded) : Sent r after [] :=
  ⟨by rw [spares.attempts]; exact (List.append_nil _).symm, spares.channel, same⟩

theorem trans {messages more : List (Message × Nat)} (first : Sent r middle messages)
    (second : Sent middle after more) : Sent r after (messages ++ more) where
  attempts := by
    rw [second.attempts, first.attempts, first.channel, deliveries_append, List.flatMap_append,
      List.append_assoc]
  channel := by rw [second.channel, first.channel, channelsAfter_append]
  arrived := by
    rw [second.arrived, first.arrived, first.channel, deliveries_append, List.countP_append,
      Nat.add_assoc]

end Sent

theorem letThrough_passage [Pass σ] (p : Passage σ) :
    letThrough [.passage p] = if p.routed.forward then [(p.routed.message, p.now)] else [] := by
  unfold letThrough passages
  cases forward : p.routed.forward <;> simp [Step.passage?, forward]

theorem afterRoute_held (r : Replay σ) (rest : Schedule) (now : Nat) {routed : Routed σ}
    (held : routed.forward = false) :
    r.afterRoute rest now routed =
      ⟨routed.router, rest, { r.stats with routed := r.stats.routed + 1 }⟩ := by
  unfold afterRoute
  simp [held]

theorem afterRoute_forwarded (r : Replay σ) (rest : Schedule) (now : Nat) {routed : Routed σ}
    (through : routed.forward = true) {arrived : Bool} {after : World}
    (sent : forward routed.message now routed.router.world = (arrived, after)) :
    r.afterRoute rest now routed =
      ⟨{ routed.router with world := after }, rest,
        { r.stats with
          routed := r.stats.routed + 1
          forwarded := r.stats.forwarded + if arrived then 1 else 0 }⟩ := by
  unfold afterRoute
  simp only [through, if_true, sent]
  cases arrived <;> rfl

section Steps

variable [Pass σ] [SinkFree σ] (r : Replay σ) (entry : Entry) (rest : Schedule) (now : Nat)

/-- A message that came by is sent on if the chain lets it through, and is counted as lost if it
does not arrive. -/
theorem deliver_sent :
    let p : Passage σ := ⟨r.router, entry, now⟩
    Sent r (r.deliver entry rest now) (letThrough [.passage p]) ∧
      ∀ peer, (r.deliver entry rest now).router.world.lost peer = p.routed.router.world.lost peer +
        UInt64.ofNat ((deliveries r.router.world.channel (letThrough [.passage p])).countP
          (Delivery.misses peer)) := by
  intro p
  have spares : World.SparesSinks r.router.world p.routed.router.world :=
    r.router.sparesSinks_route entry.message now
  rw [letThrough_passage]
  cases through : p.routed.forward with
  | false =>
      have held : r.deliver entry rest now =
          ⟨p.routed.router, rest, { r.stats with routed := r.stats.routed + 1 }⟩ :=
        r.afterRoute_held rest now through
      rw [held]
      exact ⟨.of_sparesSinks spares rfl, fun peer => (UInt64.add_zero _).symm⟩
  | true =>
      obtain ⟨after, sent, attempts, channel, lost⟩ :=
        forward_eq p.routed.message now p.routed.router.world
      have done : r.deliver entry rest now = _ := r.afterRoute_forwarded rest now through sent
      -- the chain left the channels as they were, so they decide what becomes of the message
      have same : delivery p.routed.message now p.routed.router.world =
          delivery p.routed.message now r.router.world := by
        unfold delivery
        rw [spares.channel]
      rw [same] at attempts lost done
      rw [spares.attempts] at attempts
      rw [spares.channel] at channel
      have one : deliveries r.router.world.channel [(p.routed.message, p.now)] =
          [delivery p.routed.message now r.router.world] := rfl
      rw [if_pos rfl, one, done]
      refine ⟨⟨?_, channel, ?_⟩, fun peer => ?_⟩
      · rw [one, List.flatMap_singleton]
        exact attempts
      · rw [one, List.countP_singleton]
      · rw [List.countP_singleton]
        refine (lost peer).trans ?_
        split <;> rfl

end Steps

namespace Plays

variable [Pass σ] [SinkFree σ] {r last : Replay σ} {steps : List (Step σ)}

/-- What the chain lets through is sent on, and nothing else. -/
theorem sent (plays : Plays r steps last) (calm : ∀ step ∈ steps, step.Calm) :
    Sent r last (letThrough steps) := by
  induction plays with
  | @stopped r exit => exact .of_sparesSinks (.log _ _ _ _ _) rfl
  | ended => exact .of_sparesSinks (.refl _) rfl
  | @deliver r last entry rest now steps going first after ih =>
      rw [letThrough_cons]
      exact (r.deliver_sent entry rest now).1.trans (ih (List.forall_mem_cons.1 calm).2)
  | @tick r last rest now steps going same after ih =>
      obtain ⟨idle, others⟩ := List.forall_mem_cons.1 calm
      have nothing : Sent r (r.tick rest now) [] := .of_sparesSinks idle.1 rfl
      exact nothing.trans (ih others)
  | @wait r last rest steps going same after ih =>
      have unchanged : Sent r { r with schedule := rest } [] := .of_sparesSinks (.refl _) rfl
      exact unchanged.trans (ih calm)

/-- What does not arrive is counted as lost for its peer. -/
theorem lost (plays : Plays r steps last) (calm : ∀ step ∈ steps, step.Calm)
    (uncounting : ∀ step ∈ steps, step.Uncounting) (peer : Peer) :
    last.router.world.lost peer = r.router.world.lost peer +
      UInt64.ofNat ((deliveries r.router.world.channel (letThrough steps)).countP
        (Delivery.misses peer)) := by
  induction plays with
  | stopped | ended => exact (UInt64.add_zero _).symm
  | @deliver r last entry rest now steps going first after ih =>
      obtain ⟨sent, counted⟩ := r.deliver_sent entry rest now
      obtain ⟨here, others⟩ := List.forall_mem_cons.1 uncounting
      have spared : (⟨r.router, entry, now⟩ : Passage σ).routed.router.world.lost =
        r.router.world.lost := here
      rw [ih (List.forall_mem_cons.1 calm).2 others, counted, sent.channel, spared,
        letThrough_cons _ steps, deliveries_append, List.countP_append, UInt64.ofNat_add,
        UInt64.add_assoc]
  | @tick r last rest now steps going same after ih =>
      obtain ⟨idle, calmOthers⟩ := List.forall_mem_cons.1 calm
      obtain ⟨here, others⟩ := List.forall_mem_cons.1 uncounting
      have spared : (r.tick rest now).router.world.lost = r.router.world.lost := here
      have kept : (r.tick rest now).router.world.channel = r.router.world.channel := idle.1.channel
      rw [ih calmOthers others, spared, kept]
      rfl
  | wait going same after ih => exact ih calm uncounting

omit [SinkFree σ] in
theorem routed (plays : Plays r steps last) :
    last.stats.routed = r.stats.routed + (passages steps).length := by
  induction plays with
  | stopped | ended => rfl
  | @deliver r last entry rest now steps going first after ih =>
      rw [ih, routed_deliver, Nat.add_assoc, Nat.add_comm 1]
      rfl
  | tick going same after ih | wait going same after ih => exact ih

end Plays

/-- **A replay keeps the order, the direction and the accounts.**  Take a chain of passes whose
handlers have no sink, and any replay of it, whatever the offsets of its entries, wherever the
idle opportunities fall and whatever the sinks refuse; every run is such a replay, at every clock.
Let no idle opportunity of it inject anything or ask for the end.

Then the entries are routed from the front: none if the end was asked for before, and otherwise
all of them, unless a routing asks for the end; that one is the last step.  Each message that the
chain lets through is sent on once, in this order, in the words that the passes left and to the
peer across from the one it came from; nothing else is tried, and what becomes of one message is
up to the channel of its peer alone.  And the replay counts what was routed and what arrived, and
what did not arrive is counted for its peer. -/
theorem replay_keeps_order_and_accounts [Pass σ] [SinkFree σ] (r : Replay σ) :
    (∀ clock now, ∃ steps, Plays r steps (r.run clock now)) ∧
    ∀ steps last, Plays r steps last → (∀ step ∈ steps, step.Calm) →
      let sent := deliveries r.router.world.channel (letThrough steps)
      ((passages steps).map Passage.entry <+: r.schedule.entries ∧
        (r.router.exit = true → steps = []) ∧
        (r.router.exit = false → (∀ p ∈ passages steps, p.routed.router.exit = false) →
          (passages steps).map Passage.entry = r.schedule.entries) ∧
        ∀ before p after, steps = before ++ .passage p :: after → p.routed.router.exit = true →
          after = []) ∧
      (last.router.world.attempts = r.router.world.attempts ++ sent.flatMap Delivery.attempts ∧
        sent.map (fun d => (d.message, d.now)) = letThrough steps ∧
        ∀ p ∈ passages steps, p.routed.message.direction = p.entry.message.direction ∧
          p.routed.message.connection = p.entry.message.connection) ∧
      last.stats.routed = r.stats.routed + (passages steps).length ∧
      last.stats.forwarded = r.stats.forwarded + sent.countP (·.fate = .arrived) ∧
      ((∀ step ∈ steps, step.Uncounting) → ∀ peer, last.router.world.lost peer =
        r.router.world.lost peer + UInt64.ofNat (sent.countP (Delivery.misses peer))) := by
  refine ⟨fun clock now => ?_, fun steps last plays calm => ?_⟩
  · obtain ⟨steps, plays, -⟩ := exists_plays clock r now
    exact ⟨steps, plays⟩
  · have sent := plays.sent calm
    refine ⟨⟨plays.entries_prefix, plays.nothing_after_exit, plays.all_entries calm,
      fun before p after => plays.last_of_exit⟩, ⟨sent.attempts, map_deliveries _ _, ?_⟩,
      plays.routed, sent.arrived, plays.lost calm⟩
    exact fun p _ => p.before.peers_route p.entry.message p.now

namespace Example

open Message.Example (message)

/-- A request whose callback is 3. -/
def sync : Entry := ⟨millis 5, message .fromClient 1 0 [3]⟩

/-- An event, recorded before the request. -/
def done : Entry := ⟨millis 1, message .fromServer 3 0 [7]⟩

/-- What the operator says at the first two messages. -/
def operator : List (List UInt8) :=
  [Text.Utf8.encode "next\n", Text.Utf8.encode "quit\n"]

/-- A replay of a request, an event and a request to a server that is gone. -/
def quitting : Replay Stage :=
  .start
    { passes := [.trace (.create ⟨none⟩)]
      pinned := some (.interactive (.create operator ⟨none⟩))
      objects := .initial
      world := .start .reliable (.failing (fun _ => some "gone") fun _ => none)
      exit := false
      finalized := false }
    (.start [sync, done, sync] 1 0 (by decide))

def left (entries : List Entry) : Schedule :=
  .start entries 1 0 (by decide)

def asked : Replay Stage :=
  quitting.deliver sync (left [done, sync]) 10

def waited : Replay Stage :=
  asked.tick (left [done, sync]) 20

/-- The first two entries are routed, with an idle opportunity between them. -/
def steps : List (Step Stage) :=
  [.passage ⟨quitting.router, sync, 10⟩, .rest asked.router 20,
    .passage ⟨waited.router, done, 30⟩]

def ended : Replay Stage :=
  (waited.deliver done (left [sync]) 30).stopped

theorem steps_played : Plays quitting steps ended :=
  .deliver rfl rfl (.tick (by decide) rfl (.deliver (by decide) rfl (.stopped (by decide))))

theorem steps_calm : ∀ step ∈ steps, step.Calm := by
  have idle : (Step.rest asked.router 20).Calm := ⟨⟨rfl, rfl⟩, rfl⟩
  unfold steps
  rw [List.forall_mem_cons, List.forall_mem_cons, List.forall_mem_singleton]
  exact ⟨trivial, idle, trivial⟩

theorem steps_uncounting : ∀ step ∈ steps, step.Uncounting := by
  have first : (Step.passage ⟨quitting.router, sync, 10⟩).Uncounting :=
    World.lost_of_metrics (by rfl)
  have idle : (Step.rest asked.router 20).Uncounting := World.lost_of_metrics (by rfl)
  have second : (Step.passage ⟨waited.router, done, 30⟩).Uncounting :=
    World.lost_of_metrics (by rfl)
  unfold steps
  rw [List.forall_mem_cons, List.forall_mem_cons, List.forall_mem_singleton]
  exact ⟨first, idle, second⟩

/-- The server does not take the request, the event arrives although the operator quits at it, and
the second request is not routed. -/
theorem event_arrives_after_lost_request :
    Plays quitting steps ended ∧ (∀ step ∈ steps, step.Calm) ∧
      [sync, done] <+: [sync, done, sync] ∧
      ended.router.world.attempts =
        [.writeFailed .server, .wrote .client ⟨1, none⟩ done.message.toBytes 30,
          .flushed .client] ∧
      ended.stats.routed = 2 ∧ ended.stats.forwarded = 1 ∧ ended.router.world.lost .server = 1 := by
  obtain ⟨⟨order, -⟩, ⟨attempts, -⟩, routed, arrived, lost⟩ :=
    (replay_keeps_order_and_accounts quitting).2 steps ended steps_played steps_calm
  exact ⟨steps_played, steps_calm, order, attempts.trans (by decide), routed,
    arrived.trans (by decide), (lost steps_uncounting .server).trans (by decide)⟩

end Example

end Replay

end WaylandProxy
