/-
# Proofs.Pass.LostCallback -- a callback whose id changed hands

The tracker knows a callback by its id, and waits for its answer until an event with the opcode
of `done` comes from there.  The server may free the id and never answer, as it does when the
surface of a frame callback is gone; the map forgets the id then, but the tracker waits on.  Once
the client has given the id to another object, the first event of that object with this opcode is
taken for the answer.  An `enter` of a pointer sets the clock to its serial, and the serial goes
out as the server wrote it, past the one sequence.

There is no other way to be mistaken.  As long as a client gives out only ids that are free, an
id that the tracker waits for is a callback to the map, or was lost in this way
(`Watched.callbacks`).  So an event from an object that is no callback is taken for an answer only
if its id is a lost one, and any other event leaves clock and callbacks alone and has its serial
renumbered (`mistaken_only_if_lost`).
-/
import WaylandProxy.Proofs.Object.Lifetime
import WaylandProxy.Proofs.Pass.SerialWord

namespace WaylandProxy

set_option autoImplicit false

namespace Fuzz

variable {σ : Type} {p : Fuzz σ} {options : Options} {resolved : Option Resolved} {m : Message}

/-- Without block mode nothing is kept from the tracker. -/
theorem drops_of_open (configured : p.options = some options) (unblocked : options.block = false) :
    p.drops resolved m = false := by
  have blocks : p.blocks = false := by
    unfold Fuzz.blocks
    rw [configured]
    exact unblocked
  simp [drops, keepsBack, blocks]

/-- A pass applies to a connection of the program that it waits for. -/
theorem appliesTo_of_program (configured : p.options = some options) (undecided : p.applies = none)
    (meant : ∀ wanted ∈ options.program, m.connection.program = some wanted) :
    p.appliesTo m = true := by
  unfold appliesTo wants
  rw [undecided, configured]
  simp only [Option.getD_none, Option.bind_some]
  cases program : options.program with
  | none => rfl
  | some wanted => exact decide_eq_true (meant wanted program)

/-- A pass that applies to a message applies to all after it. -/
theorem Followed.appliesTo {now : Nat} {after : Fuzz σ} (followed : p.Followed resolved m now after)
    (applies : p.appliesTo m = true) (next : Message) : after.appliesTo next = true := by
  unfold Fuzz.appliesTo
  rw [followed.applies, applies]
  rfl

/-- An idle opportunity does not decide what the pass applies to. -/
theorem Rested.appliesTo_eq {after : Fuzz σ} (rested : p.Rested after) (m : Message) :
    after.appliesTo m = p.appliesTo m := by
  unfold appliesTo wants
  rw [rested.applies, rested.options]

end Fuzz

namespace Router

variable {σ : Type}

/-- The id that the server frees while the tracker waits for an answer from it. -/
def lost? (r : Router (StageOver σ)) : Move → Option UInt32
  | .route m _ =>
    r.fuzz?.bind fun p => (r.objects.freed? m).filter fun id => p.tracker.Awaits id
  | .idle _ => none

/-- The router as a machine that gives out the ids of callbacks that are lost. -/
def losing (σ : Type) [EventSource σ] [LoadSource σ] :
    Machine (Router (StageOver σ)) Move UInt32 where
  step := step
  out r move := (r.lost? move).toList

/-- The fuzz pass sees every message that is to come, last of all `m`, the client gives out free
ids, and every id that the tracker waits for is a callback to the map, or was lost. -/
structure Watched (options : Options) (coming : List Message) (m : Message) (lost : List UInt32)
    (r : Router (StageOver σ)) (p : Fuzz σ) : Prop where
  sole : r.SoleFuzz p
  configured : p.options = some options
  applies : ∀ first ∈ (coming ++ [m]).head?, p.appliesTo first = true
  fresh : r.objects.FreshIds coming
  callbacks : ∀ id, p.tracker.Awaits id →
    r.objects.interfaceOf id = some "wl_callback" ∨ id ∈ lost

namespace Watched

variable {options : Options} {coming : List Message} {m : Message} {lost : List UInt32}
  {r : Router (StageOver σ)} {p : Fuzz σ}

theorem start {made : Nat} {source : σ}
    (sole : r.SoleFuzz ((Fuzz.create made).arm options source))
    (meant : ∀ first ∈ (coming ++ [m]).head?, ∀ wanted ∈ options.program,
      first.connection.program = some wanted)
    (fresh : r.objects.FreshIds coming) :
    Watched options coming m [] r ((Fuzz.create made).arm options source) where
  sole := sole
  configured := rfl
  applies := fun first isFirst => Fuzz.appliesTo_of_program rfl rfl (meant first isFirst)
  fresh := fresh
  callbacks := by
    rintro id (frame | inRing)
    · cases frame
    · cases inRing

/-- What a pass makes of a message that it sees is what its tracker makes of it. -/
theorem follow_eq (watched : Watched options coming m lost r p) (unblocked : options.block = false)
    {first : Message} (isFirst : first ∈ (coming ++ [m]).head?) (now : Nat) :
    p.follow (r.objects.resolve first) first now =
      p.tracker.observe (r.objects.resolve first) first now :=
  Fuzz.follow_seen (watched.applies first isFirst)
    (Fuzz.drops_of_open watched.configured unblocked)

/-- A callback that is waited for after a message was waited for before, or the client has just
asked for it. -/
theorem awaited {first : Message} {now : Nat} {id : UInt32}
    (awaits : (p.tracker.observe (r.objects.resolve first) first now).tracker.Awaits id) :
    p.tracker.Awaits id ∨ (r.objects.observe first).interfaceOf id = some "wl_callback" := by
  unfold Tracker.observe at awaits
  cases direction : first.direction with
  | fromServer =>
      rw [direction] at awaits
      exact .inl awaits.of_observeServer
  | fromClient =>
      rw [direction] at awaits
      obtain before | requested := awaits.of_observeClient
      · exact .inl before
      · exact .inr (ObjectMap.interfaceOf_requested direction requested)

variable [EventSource σ] [LoadSource σ]

theorem route {first : Message} (watched : Watched options (first :: coming) m lost r p)
    (unblocked : options.block = false) (now : Nat) :
    ∃ after, Watched options coming m (lost ++ (r.lost? (.route first now)).toList)
      (r.route first now).router after := by
  obtain ⟨after, sole, followed, -⟩ := route_follows watched.sole first now
  obtain ⟨free, fresh⟩ := watched.fresh
  have objects := objects_route watched.sole first now
  refine ⟨after, sole, followed.options.trans watched.configured,
    fun next _ => followed.appliesTo (watched.applies first rfl) next, by rwa [objects], ?_⟩
  · intro id awaits
    rw [followed.tracker, watched.follow_eq unblocked rfl] at awaits
    rw [objects]
    obtain before | requested := awaited awaits
    · obtain known | already := watched.callbacks id before
      · obtain still | freed := ObjectMap.known_until_freed free known
        · exact .inl still
        · -- the id is freed while it is waited for
          have gone : r.lost? (.route first now) = some id := by
            unfold lost?
            simp only
            rw [watched.sole.fuzz?_eq, Option.bind_some, freed]
            exact Option.filter_some_pos (decide_eq_true before)
          right
          rw [gone]
          exact List.mem_append_right _ (List.mem_singleton_self id)
      · exact .inr (List.mem_append_left _ already)
    · exact .inl requested

theorem idle (watched : Watched options coming m lost r p) (now : Nat) :
    ∃ after, Watched options coming m lost (r.idle now) after := by
  obtain ⟨after, sole, rested⟩ := idle_rests watched.sole now
  have objects := objects_idle r now
  -- the tick may issue a serial, and leaves the callbacks alone
  have same (id : UInt32) : after.tracker.Awaits id ↔ p.tracker.Awaits id := by
    obtain same | issued := rested.tracker
    · rw [same]
    · rw [issued]
      rfl
  refine ⟨after, sole, rested.options.trans watched.configured,
    fun first isFirst => (rested.appliesTo_eq first).trans (watched.applies first isFirst),
    objects ▸ watched.fresh, ?_⟩
  · intro id awaits
    rw [objects]
    exact watched.callbacks id ((same id).1 awaits)

theorem run (unblocked : options.block = false) {moves : List Move}
    (watched : Watched options ((routed moves).map Prod.fst) m lost r p) :
    ∃ after, Watched options [] m (lost ++ (losing σ).outputs r moves) ((losing σ).run r moves)
      after := by
  induction moves generalizing r p lost with
  | nil => exact ⟨p, by simpa [routed] using watched⟩
  | cons move rest ih =>
      cases move with
      | route first now =>
          -- the rest of the run goes on with what is lost here
          obtain ⟨after, next⟩ := Watched.route watched unblocked now
          obtain ⟨last, done⟩ := ih next
          exact ⟨last, by simpa [losing, step] using done⟩
      | idle now =>
          obtain ⟨after, next⟩ := Watched.idle watched now
          obtain ⟨last, done⟩ := ih next
          exact ⟨last, by simpa [losing, step, lost?] using done⟩

end Watched

variable [EventSource σ] [LoadSource σ]

/-- **An event is taken for an answer only if the callback was lost.**  Take a chain with one fuzz
pass that does not block and is for the connection, and any run in which the client gives out
only ids that the map does not know.  A well-formed event from an object that is not a callback
leaves the clock and the callbacks alone and has its serial renumbered exactly if it is not taken
for the answer to a callback that the tracker waits for.  It is taken for one only if its id is
one that the server freed while the tracker waited for an answer from it. -/
theorem mistaken_only_if_lost (made : Nat) {options : Options} (unblocked : options.block = false)
    {source : σ} {r : Router (StageOver σ)}
    (sole : r.SoleFuzz ((Fuzz.create made).arm options source)) (moves : List Move) (m : Message)
    (meant : ∀ first ∈ ((routed moves).map Prod.fst ++ [m]).head?, ∀ wanted ∈ options.program,
      first.connection.program = some wanted)
    (fresh : r.objects.FreshIds ((routed moves).map Prod.fst)) (server : m.direction = .fromServer)
    (wellFormed : m.flaw? = none) (now : Nat) {interface : String}
    (known : ((losing σ).run r moves).objects.interfaceOf m.object = some interface)
    (other : interface ≠ "wl_callback") :
    let before := (losing σ).run r moves
    let done := before.route m now
    ∃ p q, before.SoleFuzz p ∧ done.router.SoleFuzz q ∧
      (p.tracker.LeftAlone (before.objects.resolve m) m q.tracker done.message ↔
        ¬ (p.tracker.AnswersFrame m ∨ p.tracker.AnswersSync m)) ∧
      (p.tracker.AnswersFrame m ∨ p.tracker.AnswersSync m →
        m.object ∈ (losing σ).outputs r moves) := by
  intro before done
  obtain ⟨p, watched⟩ := (Watched.start sole meant fresh).run unblocked
  obtain ⟨q, soleQ, followed, left⟩ := route_follows watched.sole m now
  have seen := watched.follow_eq unblocked rfl now
  unfold Tracker.observe at seen
  rw [server] at seen
  have tracker := followed.tracker
  rw [seen] at tracker left
  refine ⟨p, q, watched.sole, soleQ, ?_, ?_⟩
  · have alone := Tracker.leftAlone_iff (t := p.tracker) wellFormed (before.objects.resolve m) now
    rw [tracker, show done.message = _ from left]
    exact alone
  · intro answers
    obtain callback | lost := watched.callbacks m.object (Tracker.awaits_of_answers answers)
    · exact absurd (Option.some.inj (known.symm.trans callback)) other
    · exact lost

namespace Example

open Message.Example (message)

/-- A fuzz pass for a connection that has just been made. -/
def unused : Router Stage where
  passes := [.inr (.inl ((Fuzz.create 0).arm options leaving))]
  pinned := none
  objects := .initial
  world := .start .reliable .reliable
  exit := false
  finalized := false

/-- The client binds the compositor as 4 and the seat as 7. -/
def globals : List Message :=
  [message .fromClient 1 1 [2],
    message .fromClient 2 0 [1, 14, 0x635f6c77, 0x6f706d6f, 0x6f746973, 0x72, 4, 4],
    message .fromClient 2 0 [2, 8, 0x735f6c77, 0x746165, 7, 7]]

/-- The client asks for a frame of the surface 12, destroys the surface, and the server frees the
callback 20 with it.  The keyboard enters another surface with the serial 41.  Then the client
makes two pointers, of which one gets the free id 20. -/
def handover : List Message :=
  [message .fromClient 4 0 [12], message .fromClient 4 0 [21], message .fromClient 12 3 [20],
    message .fromClient 12 0 [], message .fromServer 1 1 [20], message .fromServer 1 1 [12],
    message .fromClient 7 1 [14], message .fromServer 14 1 [41, 21, 0],
    message .fromClient 7 0 [20], message .fromClient 7 0 [22]]

def connect : List Move :=
  (globals ++ handover).map fun m => .route m 0

/-- A pointer enters the other surface. -/
def enter (pointer serial : UInt32) : Message :=
  message .fromServer pointer 0 [serial, 21, 0, 0]

/-- The pointer with an id of its own is none of the lost callback's: its serial goes on from
41. -/
theorem own_id_not_mistaken :
    let before := (losing Source).run unused connect
    let done := before.route (enter 22 100) 0
    unused.SoleFuzz ((Fuzz.create 0).arm options leaving) ∧
      unused.objects.FreshIds ((routed connect).map Prod.fst) ∧
      (enter 22 100).flaw? = none ∧
      before.objects.interfaceOf (enter 22 100).object = some "wl_pointer" ∧
      (losing Source).outputs unused connect = [20] ∧ done.message = enter 22 42 ∧
      ∃ p q, before.SoleFuzz p ∧ done.router.SoleFuzz q ∧
        p.tracker.LeftAlone (before.objects.resolve (enter 22 100)) (enter 22 100) q.tracker
          done.message := by
  intro before done
  have sole : unused.SoleFuzz ((Fuzz.create 0).arm options leaving) := ⟨[], [], none, rfl, rfl⟩
  have fresh : unused.objects.FreshIds ((routed connect).map Prod.fst) := by decide
  have wellFormed : (enter 22 100).flaw? = none := by decide
  have known : before.objects.interfaceOf (enter 22 100).object = some "wl_pointer" := by decide
  have lost : (losing Source).outputs unused connect = [20] := by decide
  obtain ⟨p, q, soleP, soleQ, alone, onlyLost⟩ :=
    mistaken_only_if_lost 0 rfl sole connect (enter 22 100) (by decide) fresh rfl wellFormed 0 known
      (by decide)
  rw [lost] at onlyLost
  have mine : (enter 22 100).object ∉ [(20 : UInt32)] := by decide
  exact ⟨sole, fresh, wellFormed, known, lost, by decide, p, q, soleP, soleQ,
    alone.2 fun answers => mine (onlyLost answers)⟩

/-- The pointer with the id of the lost callback is taken for it: it sets the clock to its serial,
and the serial 100 goes out after 41. -/
theorem enter_taken_for_done :
    let before := (losing Source).run unused connect
    let done := before.route (enter 20 100) (millis 50)
    unused.SoleFuzz ((Fuzz.create 0).arm options leaving) ∧
      options.block = false ∧ options.program = none ∧ unused.objects = .initial ∧
      unused.objects.FreshIds ((routed connect).map Prod.fst) ∧
      (enter 20 100).flaw? = none ∧
      before.objects.resolve (enter 20 100) = some ⟨"wl_pointer", some "enter"⟩ ∧
      SerialPlace.find? SerialPlace.issuing "wl_pointer" (enter 20 100).opcode = some 2 ∧
      before.fuzz?.map (fun p => (p.tracker.frame, p.tracker.clock, p.tracker.serial)) =
        some (some 20, ⟨0, 0⟩, some 41) ∧
      done.router.fuzz?.map (fun q => (q.tracker.frame, q.tracker.clock, q.tracker.serial)) =
        some (none, ⟨millis 50, 100⟩, some 41) ∧
      done.message = enter 20 100 ∧
      ∀ p q, before.fuzz? = some p → done.router.fuzz? = some q →
        ¬ p.tracker.LeftAlone (before.objects.resolve (enter 20 100)) (enter 20 100) q.tracker
          done.message := by
  intro before done
  have waiting : before.fuzz?.map (fun p => (p.tracker.frame, p.tracker.clock, p.tracker.serial)) =
      some (some 20, ⟨0, 0⟩, some 41) := by decide
  have answered : done.router.fuzz?.map
      (fun q => (q.tracker.frame, q.tracker.clock, q.tracker.serial)) =
      some (none, ⟨millis 50, 100⟩, some 41) := by decide
  refine ⟨⟨[], [], none, rfl, rfl⟩, rfl, rfl, rfl, by decide, by decide, by decide, by decide,
    waiting, answered, by decide, ?_⟩
  intro p q isP isQ alone
  rw [isP] at waiting
  rw [isQ] at answered
  have frame := alone.frame
  cases (congrArg Prod.fst (Option.some.inj waiting)).symm.trans
    (frame.symm.trans (congrArg Prod.fst (Option.some.inj answered)))

end Example

end Router

end WaylandProxy
