/-
# Proofs.Pass.DroppedSync -- a sync request that is dropped stays in the ring

The fuzz pass sees a request before the operator drops it, and nothing tells it afterwards.  So
the ring takes the callback of a sync request that the server never gets, and as nobody will
answer it, it stays at the head once what was ahead of it is answered: from then on no answer
finds its own id there.

`Exchange` goes along with a router and keeps the sync requests that were forwarded and not
answered yet, and the callbacks that were lost in this way; each of the former is `behind` if
something was lost before it.  What the ring holds is accounted for by both (`Drift`): the ids of
the requests that are not behind, and then, if something was lost, the first of it.  So an answer
takes its own id off the ring exactly if its request is not behind, and the ring is what the
server owes exactly if nothing was lost (`answered_in_place_iff`).  A request that is dropped
while the ring is full is not lost: there was no room for it anyway.
-/
import WaylandProxy.Proofs.Pass.Readiness
import WaylandProxy.Proofs.Serial.Correlation

namespace WaylandProxy

set_option autoImplicit false

/-- A sync request that was forwarded and not answered yet. -/
structure Unanswered where
  id : UInt32
  /-- Something was lost before it. -/
  behind : Bool
  deriving DecidableEq, Repr

/-! ## What the ring holds -/

/-- The ring holds the requests that are not behind, in their order, and then, if something was
lost, the first that was lost. -/
def Drift (ring : List UInt32) (unanswered : List Unanswered) (lost : List UInt32) : Prop :=
  ∃ front back stuck, unanswered = front ++ back ∧ ring = front.map Unanswered.id ++ stuck ∧
    (∀ u ∈ front, u.behind = false) ∧ (∀ u ∈ back, u.behind = true) ∧
    stuck.head? = lost.head? ∧ (lost = [] → back = [])

namespace Drift

variable {ring lost : List UInt32} {unanswered rest : List Unanswered} {first : Unanswered}
  {id : UInt32}

theorem nil : Drift [] [] [] :=
  ⟨[], [], [], rfl, rfl, nofun, nofun, rfl, fun _ => rfl⟩

/-- With nothing lost the ring is what is unanswered. -/
theorem ring_of_none (drift : Drift ring unanswered []) :
    ring = unanswered.map Unanswered.id ∧ ∀ u ∈ unanswered, u.behind = false := by
  obtain ⟨front, back, stuck, rfl, rfl, ahead, -, head, none⟩ := drift
  have empty : stuck = [] := List.head?_eq_none_iff.1 head
  rw [empty, none rfl, List.append_nil, List.append_nil]
  exact ⟨rfl, ahead⟩

/-- What was lost first is in the ring. -/
theorem lost_mem (drift : Drift ring unanswered lost) (lostFirst : lost.head? = some id) :
    id ∈ ring := by
  obtain ⟨front, back, stuck, -, rfl, -, -, head, -⟩ := drift
  exact List.mem_append_right _ (List.mem_of_head? (head.trans lostFirst))

/-- The head of the ring is unanswered or lost. -/
theorem head_mem (drift : Drift ring unanswered lost) (head : ring.head? = some id) :
    id ∈ unanswered.map Unanswered.id ∨ id ∈ lost := by
  obtain ⟨front, back, stuck, rfl, rfl, -, -, same, -⟩ := drift
  cases front with
  | nil => exact .inr (List.mem_of_head? (same.symm.trans head))
  | cons u front =>
      cases head
      exact .inl (by simp)

theorem forwarded (drift : Drift ring unanswered []) (id : UInt32) :
    Drift (ring ++ [id]) (unanswered ++ [⟨id, false⟩]) [] := by
  obtain ⟨rfl, ahead⟩ := drift.ring_of_none
  have ahead' : ∀ u ∈ unanswered ++ [⟨id, false⟩], u.behind = false :=
    List.forall_mem_append.2 ⟨ahead, List.forall_mem_singleton.2 rfl⟩
  exact ⟨unanswered ++ [⟨id, false⟩], [], [], by simp, by simp, ahead', nofun, rfl, fun _ => rfl⟩

/-- A request is forwarded after something was lost; the ring may have had room for it. -/
theorem forwarded_behind (drift : Drift ring unanswered lost) (some : lost ≠ []) (id : UInt32)
    {after : List UInt32} (grown : after = ring ++ [id] ∨ after = ring) :
    Drift after (unanswered ++ [⟨id, true⟩]) lost := by
  obtain ⟨front, back, stuck, rfl, rfl, ahead, behind, head, -⟩ := drift
  have behind' : ∀ u ∈ back ++ [⟨id, true⟩], u.behind = true :=
    List.forall_mem_append.2 ⟨behind, List.forall_mem_singleton.2 rfl⟩
  obtain ⟨l, others, rfl⟩ := List.exists_cons_of_ne_nil some
  obtain ⟨tail, rfl⟩ := List.head?_eq_some_iff.1 head
  rcases grown with rfl | rfl
  · exact ⟨front, back ++ [⟨id, true⟩], l :: tail ++ [id], by simp, by simp, ahead, behind', rfl,
      nofun⟩
  · exact ⟨front, back ++ [⟨id, true⟩], l :: tail, by simp, rfl, ahead, behind', rfl, nofun⟩

theorem dropped (drift : Drift ring unanswered lost) (id : UInt32) :
    Drift (ring ++ [id]) unanswered (lost ++ [id]) := by
  obtain ⟨front, back, stuck, rfl, rfl, ahead, behind, head, -⟩ := drift
  refine ⟨front, back, stuck ++ [id], rfl, by simp, ahead, behind, ?_, by simp⟩
  rw [List.head?_append, List.head?_append, head]

/-- The oldest request, if it is not behind, is at the head of the ring. -/
theorem answered (drift : Drift ring (first :: rest) lost) (ahead : first.behind = false) :
    ∃ tail, ring = first.id :: tail ∧ Drift tail rest lost := by
  obtain ⟨front, back, stuck, split, rfl, fronts, backs, head, none⟩ := drift
  cases front with
  | nil =>
      cases split
      cases ahead.symm.trans (backs first List.mem_cons_self)
  | cons u front =>
      cases split
      exact ⟨front.map Unanswered.id ++ stuck, rfl, front, back, stuck, rfl, rfl,
        fun u known => fronts u (List.mem_cons_of_mem _ known), backs, head, none⟩

/-- The oldest request, if it is behind, is not: what was lost first is there. -/
theorem answered_behind (drift : Drift ring (first :: rest) lost) (behind : first.behind = true) :
    ring.head? = lost.head? ∧ Drift ring rest lost := by
  obtain ⟨front, back, stuck, split, rfl, fronts, backs, head, none⟩ := drift
  cases front with
  | cons u front =>
      cases split
      cases behind.symm.trans (fronts first List.mem_cons_self)
  | nil =>
      cases split
      exact ⟨head, [], rest, stuck, rfl, rfl, nofun,
        fun u known => backs u (List.mem_cons_of_mem _ known), head,
        fun empty => by cases none empty⟩

end Drift

/-! ## A router and what the server owes -/

/-- A router with the sync requests that the server has to answer, oldest first, and the callbacks
of requests that were dropped after the ring took them. -/
structure Exchange (σ : Type) where
  router : Router (StageOver σ)
  unanswered : List Unanswered
  lost : List UInt32

namespace Exchange

variable {σ : Type}

/-- The ids that the server has to answer. -/
def ids (s : Exchange σ) : List UInt32 :=
  s.unanswered.map Unanswered.id

def tracker? (s : Exchange σ) : Option Tracker :=
  s.router.fuzz?.map Fuzz.tracker

def hasRoom (s : Exchange σ) : Bool :=
  s.tracker?.any fun t => t.syncs.size < SyncRing.capacity

def requested? (s : Exchange σ) (m : Message) : Option UInt32 :=
  if m.direction = .fromClient then Tracker.requestedSync? (s.router.objects.resolve m) m else none

/-- A well-formed event with the opcode of `done`. -/
def SaysDone (m : Message) : Prop :=
  m.direction = .fromServer ∧ m.flaw? = none ∧ m.opcode = Tracker.doneOpcode

instance (m : Message) : Decidable (SaysDone m) :=
  inferInstanceAs (Decidable (_ ∧ _ ∧ _))

/-- What the peers owe each other in a message. -/
structure OrderlyMessage (s : Exchange σ) (m : Message) : Prop where
  /-- A new sync callback has an id of its own. -/
  fresh : ∀ id ∈ s.requested? m, id ∉ s.ids ∧ id ∉ s.lost
  /-- The server answers what was forwarded, in its order, and nothing else. -/
  inOrder : SaysDone m → m.object ∈ s.ids →
    m.IsDone (s.router.objects.resolve m) ∧ s.ids.head? = some m.object
  /-- The server knows nothing of a callback that was lost. -/
  unknown : SaysDone m → m.object ∉ s.lost

instance (s : Exchange σ) (m : Message) : Decidable (s.OrderlyMessage m) :=
  have : Decidable (∀ id ∈ s.requested? m, id ∉ s.ids ∧ id ∉ s.lost) :=
    Option.decidableForallMem _
  decidable_of_iff ((∀ id ∈ s.requested? m, id ∉ s.ids ∧ id ∉ s.lost) ∧
      (SaysDone m → m.object ∈ s.ids →
        m.IsDone (s.router.objects.resolve m) ∧ s.ids.head? = some m.object) ∧
      (SaysDone m → m.object ∉ s.lost))
    ⟨fun all => ⟨all.1, all.2.1, all.2.2⟩, fun all => ⟨all.fresh, all.inOrder, all.unknown⟩⟩

/-- What the peers owe each other in the message of a move. -/
def OrderlyIn (s : Exchange σ) : Router.Move → Prop
  | .route m _ => s.OrderlyMessage m
  | .idle _ => True

instance (s : Exchange σ) (move : Router.Move) : Decidable (s.OrderlyIn move) :=
  match move with
  | .route m _ => inferInstanceAs (Decidable (s.OrderlyMessage m))
  | .idle _ => inferInstanceAs (Decidable True)

/-- The ring of the one fuzz pass is accounted for. -/
structure Accounted (options : Options) (s : Exchange σ) (p : Fuzz σ) : Prop where
  sole : s.router.SoleFuzz p
  configured : p.options = some options
  /-- The first message has decided that the pass applies, or there was none yet. -/
  decided : p.applies = none ∧ s.unanswered = [] ∨ p.applies = some true
  drift : Drift p.tracker.syncs.toList s.unanswered s.lost
  disjoint : ∀ id ∈ s.ids, id ∉ s.lost
  few : s.unanswered.length ≤ SyncRing.capacity
  apart : ∀ id ∈ p.tracker.frame, id ∉ s.ids ∧ id ∉ s.lost

namespace Accounted

variable {options : Options} {s : Exchange σ} {p : Fuzz σ} {m : Message} {now : Nat}

theorem tracker?_eq (accounted : Accounted options s p) : s.tracker? = some p.tracker := by
  unfold tracker?
  rw [accounted.sole.fuzz?_eq]
  rfl

theorem start {made : Nat} {source : σ} {r : Router (StageOver σ)}
    (sole : r.SoleFuzz ((Fuzz.create made).arm options source)) :
    Accounted options ⟨r, [], []⟩ ((Fuzz.create made).arm options source) where
  sole := sole
  configured := rfl
  decided := .inl ⟨rfl, rfl⟩
  drift := .nil
  disjoint := nofun
  few := Nat.zero_le _
  apart := nofun

/-- The pass applies to a message, if the connection of the first one is one that the options are
for. -/
theorem applies (accounted : Accounted options s p)
    (meant : p.applies = none → options.Admits m.connection) : p.appliesTo m = true := by
  obtain ⟨undecided, -⟩ | decided := accounted.decided
  · exact Fuzz.appliesTo_of_program accounted.configured undecided (meant undecided)
  · unfold Fuzz.appliesTo
    rw [decided]
    rfl

/-- A request for a sync callback takes a place in the ring, if there is one. -/
theorem ring_requested (applies : p.appliesTo m = true) {id : UInt32}
    (requests : s.requested? m = some id) (now : Nat) :
    (p.follow (s.router.objects.resolve m) m now).tracker.syncs.toList =
      if p.tracker.syncs.size < SyncRing.capacity then p.tracker.syncs.toList ++ [id]
      else p.tracker.syncs.toList := by
  obtain ⟨client, requests⟩ : m.direction = .fromClient ∧
      Tracker.requestedSync? (s.router.objects.resolve m) m = some id := by
    unfold requested? at requests
    split at requests
    · rename_i client
      exact ⟨client, requests⟩
    · cases requests
  rw [Fuzz.follow_request applies client]
  cases p.tracker.observeClient_request (s.router.objects.resolve m) m with
  | tracked other requests' room syncs frame report =>
      cases requests.symm.trans requests'
      rw [if_pos room, syncs]
  | refused other requests' full seen => rw [if_neg full, seen]
  | framed other noSync requests' frame syncs quiet => cases noSync.symm.trans requests
  | neither noSync frame syncs quiet => cases noSync.symm.trans requests

/-- A message that neither asks for a sync callback nor answers one leaves the ring alone. -/
theorem ring_kept (accounted : Accounted options s p) (applies : p.appliesTo m = true)
    (orderly : s.OrderlyMessage m) (asksNot : s.requested? m = none)
    (answersNot : ¬ (SaysDone m ∧ m.object ∈ s.ids)) (now : Nat) :
    (p.follow (s.router.objects.resolve m) m now).tracker.syncs = p.tracker.syncs := by
  cases direction : m.direction with
  | fromClient =>
      have noSync : Tracker.requestedSync? (s.router.objects.resolve m) m = none := by
        rw [← asksNot, requested?, if_pos direction]
      rw [Fuzz.follow_request applies direction]
      cases p.tracker.observeClient_request (s.router.objects.resolve m) m with
      | tracked id requests room syncs frame report => cases noSync.symm.trans requests
      | refused id requests full seen => cases noSync.symm.trans requests
      | framed id noSync requests frame syncs quiet => exact syncs
      | neither noSync frame syncs quiet => exact syncs
  | fromServer =>
      rw [Fuzz.follow_event applies direction]
      split
      · rfl
      cases p.tracker.observeServer_event (s.router.objects.resolve m) m now with
      | frame wellFormed answers frame syncs => exact syncs
      | neither foreign frame syncs => exact syncs
      | sync wellFormed otherwise answers popped frame =>
          -- the head of the ring would have to be unanswered or lost
          have isDone : SaysDone m := ⟨direction, wellFormed, answers.1⟩
          have head := answers.2
          rw [SyncRing.oldest?_eq_head?] at head
          obtain unanswered | lost := accounted.drift.head_mem head
          · exact absurd ⟨isDone, unanswered⟩ answersNot
          · exact absurd lost (orderly.unknown isDone)

/-- A `done` is never kept back. -/
theorem follow_done (applies : p.appliesTo m = true) (server : m.direction = .fromServer)
    (done : m.IsDone (s.router.objects.resolve m)) (now : Nat) :
    p.follow (s.router.objects.resolve m) m now =
      p.tracker.observeServer (s.router.objects.resolve m) m now := by
  have open_ : p.keepsBack (s.router.objects.resolve m) = false := by
    unfold Fuzz.keepsBack
    cases resolved : s.router.objects.resolve m with
    | none => simp
    | some r =>
        have callback := done.2.2.2 r resolved
        simp [callback, Fuzz.blockedInterfaces]
  rw [Fuzz.follow_event applies server, open_]
  rfl

variable {first : Unanswered} {rest : List Unanswered}

/-- **The answer to a request that is not behind** takes its own id off the ring, and its serial
is renumbered. -/
theorem answered (accounted : Accounted options s p) (applies : p.appliesTo m = true)
    (unanswered : s.unanswered = first :: rest) (own : first.id = m.object)
    (ahead : first.behind = false) (server : m.direction = .fromServer)
    (done : m.IsDone (s.router.objects.resolve m)) (now : Nat) :
    ∃ origin ring, m.word? 2 = some origin ∧ p.tracker.syncs.pop = some (m.object, ring) ∧
      let serial := p.tracker.due (some origin)
      p.follow (s.router.objects.resolve m) m now =
        ⟨{ p.tracker with syncs := ring }.remember serial origin,
          { m with words := m.words.set 2 serial }, some serial, none⟩ := by
  have member : m.object ∈ s.ids := by simp [ids, unanswered, own]
  obtain ⟨tail, ring, -⟩ := (unanswered ▸ accounted.drift).answered ahead
  rw [follow_done applies server done]
  refine Tracker.observeServer_done (fun frame => (accounted.apart _ frame.2).1 member) ?_ done now
  rw [ring, own]
  rfl

/-- **The answer to a request that is behind** goes by, and the ring stays. -/
theorem answered_behind (accounted : Accounted options s p) (applies : p.appliesTo m = true)
    (unanswered : s.unanswered = first :: rest) (own : first.id = m.object)
    (behind : first.behind = true) (server : m.direction = .fromServer)
    (done : m.IsDone (s.router.objects.resolve m)) (now : Nat) :
    p.follow (s.router.objects.resolve m) m now = p.tracker.pass m := by
  have member : m.object ∈ s.ids := by simp [ids, unanswered, own]
  obtain ⟨head, -⟩ := (unanswered ▸ accounted.drift).answered_behind behind
  rw [follow_done applies server done]
  refine Tracker.observeServer_done_other (fun frame => (accounted.apart _ frame.2).1 member)
    (fun same => ?_) done now
  exact accounted.disjoint _ member (List.mem_of_head? (head.symm.trans same))

end Accounted

/-! ## Moves -/

variable [EventSource σ] [LoadSource σ]

/-- The state after a move: a sync request is owed if it was forwarded, and lost if it was dropped
after the ring took it; an answer settles the oldest one. -/
def step (s : Exchange σ) : Router.Move → Exchange σ
  | .idle now => { s with router := s.router.idle now }
  | .route m now =>
    let done := s.router.route m now
    match s.requested? m with
    | some id =>
      if done.forward then
        { s with router := done.router, unanswered := s.unanswered ++ [⟨id, !s.lost.isEmpty⟩] }
      else { s with router := done.router, lost := if s.hasRoom then s.lost ++ [id] else s.lost }
    | none =>
      { s with
        router := done.router
        unanswered :=
          if SaysDone m ∧ m.object ∈ s.ids then s.unanswered.tail else s.unanswered }

def run (s : Exchange σ) (moves : List Router.Move) : Exchange σ :=
  moves.foldl step s

theorem router_step (s : Exchange σ) (move : Router.Move) :
    (s.step move).router = s.router.step move := by
  cases move with
  | idle now => rfl
  | route m now =>
      unfold step
      simp only
      split
      · split <;> rfl
      · rfl

theorem router_run (s : Exchange σ) (moves : List Router.Move) :
    (s.run moves).router = (Router.machine σ).run s.router moves := by
  induction moves generalizing s with
  | nil => rfl
  | cons move rest ih =>
      have first : (s.step move).router = (Router.machine σ).step s.router move :=
        s.router_step move
      rw [Machine.run_cons, ← first]
      exact ih (s.step move)

/-- What the peers owe each other in a move. -/
structure Orderly (s : Exchange σ) (move : Router.Move) : Prop where
  inMessage : s.OrderlyIn move
  /-- No more are unanswered than the ring has room for. -/
  few : (s.step move).unanswered.length ≤ SyncRing.capacity
  /-- The frame callback has an id of its own. -/
  apart : ∀ id ∈ (s.step move).tracker?.bind Tracker.frame,
    id ∉ (s.step move).ids ∧ id ∉ (s.step move).lost

instance (s : Exchange σ) (move : Router.Move) : Decidable (s.Orderly move) :=
  have : Decidable (∀ id ∈ (s.step move).tracker?.bind Tracker.frame,
      id ∉ (s.step move).ids ∧ id ∉ (s.step move).lost) := Option.decidableForallMem _
  decidable_of_iff (s.OrderlyIn move ∧ (s.step move).unanswered.length ≤ SyncRing.capacity ∧
      ∀ id ∈ (s.step move).tracker?.bind Tracker.frame,
        id ∉ (s.step move).ids ∧ id ∉ (s.step move).lost)
    ⟨fun all => ⟨all.1, all.2.1, all.2.2⟩, fun all => ⟨all.inMessage, all.few, all.apart⟩⟩

def OrderlyRun : Exchange σ → List Router.Move → Prop
  | _, [] => True
  | s, move :: rest => s.Orderly move ∧ OrderlyRun (s.step move) rest

instance decidableOrderlyRun : ∀ (s : Exchange σ) (moves : List Router.Move),
    Decidable (s.OrderlyRun moves)
  | _, [] => inferInstanceAs (Decidable True)
  | s, move :: rest =>
    have := decidableOrderlyRun (s.step move) rest
    inferInstanceAs (Decidable (s.Orderly move ∧ (s.step move).OrderlyRun rest))

namespace Accounted

variable {options : Options} {s : Exchange σ} {p : Fuzz σ} {m : Message} {now : Nat}

/-- A request for a sync callback leaves the ring accounted for, whether it was forwarded or
dropped. -/
theorem drift_requested (accounted : Accounted options s p) (applies : p.appliesTo m = true)
    {id : UInt32} (requests : s.requested? m = some id)
    (few : (s.step (.route m now)).unanswered.length ≤ SyncRing.capacity) :
    Drift (p.follow (s.router.objects.resolve m) m now).tracker.syncs.toList
      (s.step (.route m now)).unanswered (s.step (.route m now)).lost := by
  have ring := ring_requested applies requests now
  have room : s.hasRoom = decide (p.tracker.syncs.size < SyncRing.capacity) := by
    rw [hasRoom, accounted.tracker?_eq]
    rfl
  simp only [step, requests] at few ⊢
  cases forward : (s.router.route m now).forward with
  | true =>
      simp only [forward, if_true] at few ⊢
      cases lost : s.lost with
      | nil =>
          -- with nothing lost the ring is what is unanswered, so there is room
          have drift := accounted.drift
          rw [lost] at drift
          have length := congrArg List.length drift.ring_of_none.1
          rw [SyncRing.length_toList, List.length_map] at length
          rw [List.length_append, List.length_singleton] at few
          rw [ring, if_pos (by omega)]
          exact drift.forwarded id
      | cons l others =>
          have drift := accounted.drift
          rw [lost] at drift
          refine drift.forwarded_behind (by simp) id ?_
          rw [ring]
          split
          · exact .inl rfl
          · exact .inr rfl
  | false =>
      simp only [Bool.false_eq_true, if_false, room, decide_eq_true_eq]
      rw [ring]
      split
      · exact accounted.drift.dropped id
      · exact accounted.drift

omit [EventSource σ] [LoadSource σ] in
theorem drift_answered (accounted : Accounted options s p) (applies : p.appliesTo m = true)
    (orderly : s.OrderlyMessage m) (isDone : SaysDone m) (member : m.object ∈ s.ids) :
    Drift (p.follow (s.router.objects.resolve m) m now).tracker.syncs.toList
      s.unanswered.tail s.lost := by
  obtain ⟨done, head⟩ := orderly.inOrder isDone member
  obtain ⟨first, unanswered, own⟩ : ∃ first, s.unanswered.head? = some first ∧
      first.id = m.object := by
    rw [ids, List.head?_map] at head
    exact Option.map_eq_some_iff.1 head
  obtain ⟨rest, unanswered⟩ := List.head?_eq_some_iff.1 unanswered
  have drift := accounted.drift
  rw [unanswered] at drift
  rw [unanswered, List.tail_cons]
  cases behind : first.behind with
  | true =>
      rw [accounted.answered_behind applies unanswered own behind isDone.1 done now]
      exact (drift.answered_behind behind).2
  | false =>
      obtain ⟨origin, ring, -, pop, seen⟩ :=
        accounted.answered applies unanswered own behind isDone.1 done now
      obtain ⟨tail, before, after⟩ := drift.answered behind
      rw [SyncRing.toList_of_pop pop, List.cons.injEq] at before
      rw [seen]
      exact before.2 ▸ after

/-- The ring and what is unanswered and lost after a message. -/
theorem drift_route (accounted : Accounted options s p) (applies : p.appliesTo m = true)
    (orderly : s.OrderlyMessage m)
    (few : (s.step (.route m now)).unanswered.length ≤ SyncRing.capacity) :
    Drift (p.follow (s.router.objects.resolve m) m now).tracker.syncs.toList
      (s.step (.route m now)).unanswered (s.step (.route m now)).lost := by
  cases requests : s.requested? m with
  | some id => exact accounted.drift_requested applies requests few
  | none =>
      simp only [step, requests]
      by_cases answers : SaysDone m ∧ m.object ∈ s.ids
      · rw [if_pos answers]
        exact accounted.drift_answered applies orderly answers.1 answers.2
      · rw [if_neg answers, accounted.ring_kept applies orderly requests answers]
        exact accounted.drift

/-- What is owed and what is lost stay apart. -/
theorem disjoint_route (accounted : Accounted options s p) (orderly : s.OrderlyMessage m) :
    ∀ id ∈ (s.step (.route m now)).ids, id ∉ (s.step (.route m now)).lost := by
  have before := accounted.disjoint
  cases requests : s.requested? m with
  | some new =>
      -- the new id is nowhere yet, whichever of the two it goes to
      obtain ⟨notOwed, notLost⟩ := orderly.fresh new requests
      simp only [step, requests]
      split
      · intro id known lost
        simp only [ids, List.map_append, List.mem_append, List.map_cons, List.map_nil,
          List.mem_singleton] at known
        rcases known with old | rfl
        · exact before id old lost
        · exact notLost lost
      · intro id known lost
        split at lost
        · rcases List.mem_append.1 lost with old | isNew
          · exact before id known old
          · exact notOwed (List.mem_singleton.1 isNew ▸ known)
        · exact before id known lost
  | none =>
      simp only [step, requests]
      split
      · intro id known
        exact before id (List.mem_of_mem_tail (List.map_tail ▸ known))
      · exact before

/-- **A message** leaves the ring accounted for. -/
theorem route (accounted : Accounted options s p)
    (meant : p.applies = none → options.Admits m.connection) (orderly : s.Orderly (.route m now)) :
    ∃ after, Accounted options (s.step (.route m now)) after ∧ after.applies = some true := by
  have applies := accounted.applies meant
  obtain ⟨after, sole, followed, -⟩ := Router.route_follows accounted.sole m now
  have router : (s.step (.route m now)).router = (s.router.route m now).router := s.router_step _
  have sole : (s.step (.route m now)).router.SoleFuzz after := router ▸ sole
  have decided : after.applies = some true := by rw [followed.applies, applies]
  refine ⟨after, ⟨sole, followed.options.trans accounted.configured, .inr decided, ?_,
    accounted.disjoint_route orderly.inMessage, orderly.few, ?_⟩, decided⟩
  · rw [followed.tracker]
    exact accounted.drift_route applies orderly.inMessage orderly.few
  · intro id frame
    refine orderly.apart id ?_
    unfold tracker?
    rw [sole.fuzz?_eq]
    exact frame

/-- **An idle opportunity** has nothing to do with it. -/
theorem idle (accounted : Accounted options s p) (now : Nat) :
    ∃ after, Accounted options (s.step (.idle now)) after ∧ after.applies = p.applies := by
  obtain ⟨after, sole, rested⟩ := Router.idle_rests accounted.sole now
  obtain ⟨syncs, frame⟩ : after.tracker.syncs = p.tracker.syncs ∧
      after.tracker.frame = p.tracker.frame := by
    obtain same | issued := rested.tracker
    · rw [same]
      exact ⟨rfl, rfl⟩
    · rw [issued]
      exact ⟨rfl, rfl⟩
  exact ⟨after, ⟨sole, rested.options.trans accounted.configured,
    rested.applies ▸ accounted.decided, syncs ▸ accounted.drift, accounted.disjoint, accounted.few,
    frame ▸ accounted.apart⟩, rested.applies⟩

/-- **A run** leaves the ring accounted for. -/
theorem run {moves : List Router.Move} (accounted : Accounted options s p)
    (meant : p.applies = none → ∀ first ∈ ((Router.routed moves).map Prod.fst).head?,
      options.Admits first.connection)
    (orderly : s.OrderlyRun moves) :
    ∃ after, Accounted options (s.run moves) after := by
  induction moves generalizing s p with
  | nil => exact ⟨p, accounted⟩
  | cons move rest ih =>
      obtain ⟨first, others⟩ := orderly
      cases move with
      | route m now =>
          -- the first message decides that the pass applies, so of the later ones nothing is asked
          obtain ⟨after, next, decided⟩ :=
            accounted.route (fun undecided => meant undecided m rfl) first
          exact ih next (fun undecided => by cases undecided.symm.trans decided) others
      | idle now =>
          obtain ⟨after, next, same⟩ := accounted.idle now
          exact ih next (fun undecided => meant (same ▸ undecided)) others

end Accounted

/-- **An answer finds its id in the ring exactly if nothing was lost before its request.**  Take a
router with one fuzz pass, armed for the connection of the first message, among trace and
interactive passes, and any run in which the server answers the sync requests that were
forwarded, in their order and once each, with no more of them unanswered than the ring has room
for and each id given to one callback at a time.

The ring is what the server owes exactly if no sync request was dropped after the ring took it;
the callback of the first one that was is still in the ring.  The answer to a request that is not
behind one of those takes its own id off the ring, and its serial is adopted or renumbered; none
is behind if there are none.  The answer to a request that is behind one leaves the tracker as it
was and goes by as the server wrote it. -/
theorem answered_in_place_iff (made : Nat) (options : Options) (source : σ)
    (r : Router (StageOver σ)) (sole : r.SoleFuzz ((Fuzz.create made).arm options source))
    (moves : List Router.Move)
    (meant : ∀ first ∈ ((Router.routed moves).map Prod.fst).head?, options.Admits first.connection)
    (orderly : (⟨r, [], []⟩ : Exchange σ).OrderlyRun moves) :
    let s := (⟨r, [], []⟩ : Exchange σ).run moves
    s.router = (Router.machine σ).run r moves ∧
      ∃ p, s.router.SoleFuzz p ∧
        (p.tracker.syncs.toList = s.ids ↔ s.lost = []) ∧
        (∀ id ∈ s.lost.head?, id ∈ p.tracker.syncs.toList) ∧
        (s.lost = [] → ∀ u ∈ s.unanswered, u.behind = false) ∧
        ∀ first rest m now, s.unanswered = first :: rest → first.id = m.object →
          m.direction = .fromServer → m.IsDone (s.router.objects.resolve m) →
          let done := s.router.route m now
          ∃ q, done.router.SoleFuzz q ∧
            (first.behind = false → ∃ origin ring, m.word? 2 = some origin ∧
              p.tracker.syncs.pop = some (m.object, ring) ∧
              let serial := p.tracker.due (some origin)
              q.tracker = { p.tracker with syncs := ring }.remember serial origin ∧
                done.message = { m with words := m.words.set 2 serial }) ∧
            (first.behind = true → p.tracker.syncs.toList.head? = s.lost.head? ∧
              q.tracker = p.tracker ∧ done.message = m) := by
  intro s
  obtain ⟨p, accounted⟩ := (Accounted.start sole).run (fun _ => meant) orderly
  refine ⟨router_run _ moves, p, accounted.sole, ⟨fun same => ?_, fun none => ?_⟩,
    fun id => accounted.drift.lost_mem, fun none => ?_, ?_⟩
  · -- what was lost first is in the ring, and nobody owes it
    cases lost : s.lost with
    | nil => rfl
    | cons id others =>
        have first : s.lost.head? = some id := by rw [lost, List.head?_cons]
        have owed : id ∈ s.ids := same ▸ accounted.drift.lost_mem first
        exact absurd (List.mem_of_head? first) (accounted.disjoint id owed)
  · exact (Drift.ring_of_none (none ▸ accounted.drift)).1
  · exact (Drift.ring_of_none (none ▸ accounted.drift)).2
  · intro first rest m now unanswered own server isDone done
    have decided : p.applies = some true := by
      obtain ⟨-, empty⟩ | decided := accounted.decided
      · cases empty.symm.trans unanswered
      · exact decided
    have applies : p.appliesTo m = true :=
      accounted.applies fun undecided => by cases undecided.symm.trans decided
    obtain ⟨q, soleQ, followed, message⟩ := Router.route_follows accounted.sole m now
    refine ⟨q, soleQ, fun ahead => ?_, fun behind => ?_⟩
    · obtain ⟨origin, ring, word, pop, seen⟩ :=
        accounted.answered applies unanswered own ahead server isDone now
      refine ⟨origin, ring, word, pop, ?_, ?_⟩
      · rw [followed.tracker, seen]
      · rw [show done.message = _ from message, seen]
    · have seen := accounted.answered_behind applies unanswered own behind server isDone now
      refine ⟨(Drift.answered_behind (unanswered ▸ accounted.drift) behind).1, ?_, ?_⟩
      · rw [followed.tracker, seen]
        rfl
      · rw [show done.message = _ from message, seen]
        rfl

namespace Example

open Message.Example (message)
open Router.Example (options leaving)

/-- A fuzz pass and an interactive pass, for a client that has a keyboard; the operator says these
lines. -/
def chain (lines : List (List UInt8)) : Router Stage where
  passes := [.inr (.inl ((Fuzz.create 0).arm options leaving))]
  pinned := some (.inr (.inr (.create lines ⟨none⟩)))
  objects := ⟨[(1, "wl_display"), (14, "wl_keyboard")]⟩
  world := .start .reliable .reliable
  exit := false
  finalized := false

/-- Let the message go by, and stop at the next one. -/
def next : List UInt8 :=
  [110, 10]

/-- Drop the message, and do not stop again. -/
def drop : List UInt8 :=
  [100, 10]

def atStart (lines : List (List UInt8)) : Exchange Source :=
  ⟨chain lines, [], []⟩

theorem sole (lines : List (List UInt8)) :
    (chain lines).SoleFuzz ((Fuzz.create 0).arm options leaving) :=
  ⟨[], [], some (.create lines ⟨none⟩), rfl, rfl⟩

def sync (id : UInt32) : Router.Move :=
  .route (message .fromClient 1 0 [id]) 0

/-- The keyboard enters with the serial 41. -/
def enter : Router.Move :=
  .route (message .fromServer 14 1 [41, 12, 0]) 0

def done (id serial : UInt32) : Message :=
  message .fromServer id 0 [serial]

/-- The second of three requests is dropped. -/
def asking : List Router.Move :=
  [enter, sync 10, sync 11, sync 12]

/-- The first one is answered. -/
def answering : List Router.Move :=
  asking ++ [.route (done 10 500) 0]

/-- The operator drops the third message. -/
abbrev third : Exchange Source :=
  atStart [next, next, drop]

/-- The request before the one that was dropped is answered in place, and its answer goes out with
the serial 42; the answer to the one after it goes by as it is. -/
theorem asked_before_answered_in_place :
    third.OrderlyRun asking ∧ (third.run asking).lost = [11] ∧
      (∀ first ∈ ((Router.routed asking).map Prod.fst).head?, options.Admits first.connection) ∧
      (∃ p ring, (third.run asking).router.SoleFuzz p ∧ p.tracker.syncs.pop = some (10, ring)) ∧
      ((third.run asking).router.route (done 10 500) 0).message = done 10 42 ∧
      third.OrderlyRun answering ∧ (third.run answering).unanswered = [⟨12, true⟩] ∧
      ∃ p q, (third.run answering).router.SoleFuzz p ∧
        ((third.run answering).router.route (done 12 501) 0).router.SoleFuzz q ∧
        p.tracker.syncs.toList.head? = some 11 ∧ q.tracker = p.tracker ∧
        ((third.run answering).router.route (done 12 501) 0).message = done 12 501 := by
  have meant {moves : List Router.Move} :
      ∀ first ∈ ((Router.routed moves).map Prod.fst).head?, options.Admits first.connection := by
    intro first is wanted program
    cases program
  have orderly : third.OrderlyRun asking := by decide
  have orderlyAfter : third.OrderlyRun answering := by decide
  have unanswered : (third.run asking).unanswered = [⟨10, false⟩, ⟨12, true⟩] := by decide
  have unansweredAfter : (third.run answering).unanswered = [⟨12, true⟩] := by decide
  have lostAfter : (third.run answering).lost = [11] := by decide
  obtain ⟨-, p, soleP, -, -, -, answers⟩ := answered_in_place_iff 0 options leaving
    (chain [next, next, drop]) (sole _) asking meant orderly
  obtain ⟨_, -, ahead, -⟩ := answers ⟨10, false⟩ _ (done 10 500) 0 unanswered rfl rfl (by decide)
  obtain ⟨_, ring, -, pop, -⟩ := ahead rfl
  obtain ⟨-, p', soleP', -, -, -, answersAfter⟩ := answered_in_place_iff 0 options leaving
    (chain [next, next, drop]) (sole _) answering meant orderlyAfter
  obtain ⟨q, soleQ, -, behind⟩ :=
    answersAfter ⟨12, true⟩ _ (done 12 501) 0 unansweredAfter rfl rfl (by decide)
  obtain ⟨head, same, message⟩ := behind rfl
  exact ⟨orderly, by decide, meant, ⟨p, ring, soleP, pop⟩, by decide, orderlyAfter,
    unansweredAfter, p', q, soleP', soleQ, head.trans (congrArg List.head? lostAfter), same,
    message⟩

abbrev oneDropped : Exchange Source :=
  (atStart [drop]).run [sync 10, enter, sync 11]

abbrev answered : Routed Stage :=
  oneDropped.router.route (done 11 500) 0

/-- The ring holds the id of the request that was dropped, and keeps it at its head.  So the answer
to the other one does not find its own id there, and goes out with the serial 500 after 41. -/
theorem dropped_sync_stays_at_head :
    (chain [drop]).SoleFuzz ((Fuzz.create 0).arm options leaving) ∧
      ((chain [drop]).route (message .fromClient 1 0 [10]) 0).forward = false ∧
      (atStart [drop]).OrderlyRun [sync 10, enter, sync 11, .route (done 11 500) 0] ∧
      oneDropped.unanswered.map Unanswered.id = [11] ∧ oneDropped.lost = [10] ∧
      (done 11 500).IsDone (oneDropped.router.objects.resolve (done 11 500)) ∧
      oneDropped.tracker?.map (fun t => (t.frame, t.syncs.toList, t.serial)) =
        some (none, [10, 11], some 41) ∧
      answered.router.fuzz?.map (fun q => (q.tracker.syncs.toList, q.tracker.serial)) =
        some ([10, 11], some 41) ∧
      answered.forward = true ∧ answered.message = done 11 500 :=
  ⟨sole _, by decide, by decide, by decide, by decide, by decide, by decide, by decide, by decide,
    by decide⟩

end Example

end Exchange

end WaylandProxy
