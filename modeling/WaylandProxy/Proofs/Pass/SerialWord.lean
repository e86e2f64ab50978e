/-
# Proofs.Pass.SerialWord -- routing touches one serial, and the map does not notice

In a chain of trace passes, at most one fuzz pass and perhaps an interactive pass, whatever
state they are in, a message comes out as it went in but for at most one word, and that word
is a serial: one of the tables for the interface that the message resolves to, or the serial of
the answer to the oldest pending sync callback (`Router.OneSerialTouched`).  So nothing that
tells whether a message is well formed changes.

The map of objects is shown what came out.  As it never reads a serial, over a whole run it is
the map that the messages lead to as they came in (`route_touches_one_serial`).
-/
import WaylandProxy.Proofs.Pass.Following
import WaylandProxy.Proofs.Pass.SerialSequence

namespace WaylandProxy

set_option autoImplicit false

open Message (SameBut)

namespace Router

variable {σ : Type}

/-- The chain has any trace passes, perhaps an interactive pass at the end, and no other. -/
def NoFuzz (r : Router (StageOver σ)) : Prop :=
  ∃ (traces : List Trace) (last : Option Interactive),
    r.passes = traces.map .inl ∧ r.pinned = last.map fun q => .inr (.inr q)

/-- The chain has any trace passes, at most one fuzz pass, and perhaps an interactive pass at
the end. -/
def AtMostOneFuzz (r : Router (StageOver σ)) : Prop :=
  r.NoFuzz ∨ ∃ p, r.SoleFuzz p

/-- What routing may make of a message: at most one word is another, and only a serial. -/
structure OneSerialTouched (r : Router (StageOver σ)) (m left : Message) : Prop where
  direction : left.direction = m.direction
  connection : left.connection = m.connection
  object : left.object = m.object
  header : left.header = m.header
  length : left.words.length = m.words.length
  flaw : left.flaw? = m.flaw?
  word : left = m ∨ ∃ p index value, r.fuzz? = some p ∧
    p.tracker.IsSerial (r.objects.resolve m) m index ∧
    left = { m with words := m.words.set index value }

/-- The messages of a run, each with its moment. -/
def routed (moves : List Move) : List (Message × Nat) :=
  moves.filterMap fun
    | .route m now => some (m, now)
    | .idle _ => none

theorem OneSerialTouched.refl (r : Router (StageOver σ)) (m : Message) :
    r.OneSerialTouched m m :=
  ⟨rfl, rfl, rfl, rfl, rfl, rfl, .inl rfl⟩

/-- A message that differs at most in what the tracker treats as a serial is touched as
allowed. -/
theorem OneSerialTouched.of_sameBut {r : Router (StageOver σ)} {p : Fuzz σ} {m left : Message}
    (fuzz : r.fuzz? = some p)
    (same : SameBut (p.tracker.serialWord? (r.objects.resolve m) m) m left) :
    r.OneSerialTouched m left := by
  have serial (index : Nat) (treated : p.tracker.serialWord? (r.objects.resolve m) m = some index) :
      p.tracker.IsSerial (r.objects.resolve m) m index :=
    Tracker.isSerial_of_serialWord? treated
  have argument (index : Nat)
      (treated : p.tracker.serialWord? (r.objects.resolve m) m = some index) :
      Message.firstArgument ≤ index :=
    (serial index treated).argument
  refine ⟨same.direction, same.connection, same.object_eq argument, same.header_eq argument,
    same.length, same.flaw?_eq argument, ?_⟩
  obtain unchanged | ⟨index, value, treated, -, set⟩ := same.eq_or_set
  · exact .inl unchanged
  · exact .inr ⟨p, index, value, fuzz, serial index treated, set⟩

variable [EventSource σ] [LoadSource σ]

/-! ## Without a fuzz pass -/

/-- Without a fuzz pass a message comes out as it went in. -/
theorem NoFuzz.route {r : Router (StageOver σ)} (none : r.NoFuzz) (m : Message) (now : Nat) :
    (r.route m now).router.NoFuzz ∧ (r.route m now).message = m := by
  obtain ⟨traces, last, passes, pinned⟩ := none
  obtain ⟨shown, came, chain⟩ :=
    through_traces m.direction ⟨r.objects, now⟩ ([] : List (StageOver σ)) traces
      ⟨m, false, r.exit, r.world⟩
  obtain ⟨last', done, looked, ending⟩ :=
    throughPinned_untouched (σ := σ) m.direction ⟨r.objects, now⟩ last shown
  rw [List.append_nil] at chain
  unfold Router.route
  simp only [passes, pinned, chain, through, ending, List.append_nil]
  exact ⟨⟨traces, last', rfl, rfl⟩, looked.message.trans came.message⟩

theorem NoFuzz.idle {r : Router (StageOver σ)} (none : r.NoFuzz) (now : Nat) :
    (r.idle now).NoFuzz := by
  obtain ⟨traces, last, passes, pinned⟩ := none
  have rested := idleAll_traces now ([] : List (StageOver σ)) traces ⟨r.exit, r.world⟩
  rw [List.append_nil] at rested
  unfold Router.idle
  rw [passes, rested, pinned]
  cases last with
  | none => exact ⟨traces, Option.none, List.append_nil _, rfl⟩
  | some q =>
      simp only [Option.map_some, Pass.rest_inr, q.rest_eq, Prod.map_apply, id]
      exact ⟨traces, some q, List.append_nil _, rfl⟩

/-! ## One message, one move -/

namespace AtMostOneFuzz

variable {r : Router (StageOver σ)}

theorem route_touched (few : r.AtMostOneFuzz) (m : Message) (now : Nat) :
    r.OneSerialTouched m (r.route m now).message := by
  obtain none | ⟨p, sole⟩ := few
  · rw [(none.route m now).2]
    exact .refl r m
  · obtain ⟨after, -, -, left⟩ := route_follows sole m now
    rw [left]
    exact .of_sameBut sole.fuzz?_eq (p.follow_sameBut _ m now)

theorem step (few : r.AtMostOneFuzz) (move : Move) : (r.step move).AtMostOneFuzz := by
  obtain none | ⟨p, sole⟩ := few
  · cases move with
    | route m now => exact .inl (none.route m now).1
    | idle now => exact .inl (none.idle now)
  · cases move with
    | route m now =>
        obtain ⟨after, sole', -, -⟩ := route_follows sole m now
        exact .inr ⟨after, sole'⟩
    | idle now =>
        obtain ⟨after, sole', -⟩ := idle_rests sole now
        exact .inr ⟨after, sole'⟩

/-- A message changes the map as if it had not been touched, and nothing else changes it. -/
theorem objects_step (few : r.AtMostOneFuzz) (move : Move) :
    (r.step move).objects =
      (routed [move]).foldl (fun objects sent => objects.observe sent.1) r.objects := by
  cases move with
  | idle now => exact objects_idle r now
  | route m now =>
      obtain none | ⟨p, sole⟩ := few
      · have observed :
            (r.route m now).router.objects = r.objects.observe (r.route m now).message := rfl
        rw [(none.route m now).2] at observed
        exact observed
      · exact objects_route sole m now

end AtMostOneFuzz

/-! ## Runs -/

theorem AtMostOneFuzz.run {r : Router (StageOver σ)} (few : r.AtMostOneFuzz)
    (moves : List Move) :
    ((machine σ).run r moves).AtMostOneFuzz ∧
      ((machine σ).run r moves).objects =
        (routed moves).foldl (fun objects sent => objects.observe sent.1) r.objects := by
  induction moves generalizing r with
  | nil => exact ⟨few, rfl⟩
  | cons move rest ih =>
      obtain ⟨kind, objects⟩ := ih (few.step move)
      refine ⟨kind, objects.trans ?_⟩
      -- the map takes in the messages as they came, since no serial counts for it
      have split : routed (move :: rest) = routed [move] ++ routed rest :=
        List.filterMap_append (l := [move])
      rw [split, List.foldl_append, ← few.objects_step move]

/-- **Routing touches one serial, and the map does not notice.**  Take any chain of trace
passes, at most one fuzz pass and at most one interactive pass, in any state, over any map of
objects, and any run.  Then whatever message comes next keeps its direction, its connection, its
object, its header and its number of words, hence whether it is well formed; at most one word
changes, and it is a serial.  And the map of objects is the one that the messages of the run lead
to as they came in. -/
theorem route_touches_one_serial (r : Router (StageOver σ)) (few : r.AtMostOneFuzz)
    (moves : List Move) :
    let after := (machine σ).run r moves
    (∀ m now, after.OneSerialTouched m (after.route m now).message) ∧
      after.objects = ((routed moves).map Prod.fst).foldl ObjectMap.observe r.objects := by
  intro after
  obtain ⟨kind, objects⟩ := few.run moves
  refine ⟨fun m now => kind.route_touched m now, ?_⟩
  rw [List.foldl_map]
  exact objects

namespace Example

open Message.Example (message)

/-- After the session a key of the server comes out with another serial and is the same message
otherwise, and the map is the one that the server's own serials lead to. -/
theorem key_touched_in_its_serial :
    let after := (machine Source).run chain session
    let key := message .fromServer 14 3 [200, 9, 30, 0]
    chain.AtMostOneFuzz ∧ after.OneSerialTouched key (after.route key (millis 70)).message ∧
      (after.route key (millis 70)).message = message .fromServer 14 3 [44, 9, 30, 0] ∧
      after.objects = ((routed session).map Prod.fst).foldl ObjectMap.observe chain.objects := by
  intro after key
  have few : chain.AtMostOneFuzz :=
    .inr ⟨_, [.create ⟨none⟩], [], some { Interactive.create [] ⟨none⟩ with stop := false }, rfl,
      rfl⟩
  obtain ⟨touched, objects⟩ := route_touches_one_serial chain few session
  exact ⟨few, touched key (millis 70), by decide, objects⟩

end Example

end Router

end WaylandProxy
