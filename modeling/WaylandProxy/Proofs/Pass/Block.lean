/-
# Proofs.Pass.Block -- block mode leaves the client only synthesized input

A pass in block mode keeps an event from the client if its object is a pointer or a keyboard to
the map of objects.  What an object is to the map is what the messages so far have made of its id
(`InputAfter`): since the client made it a pointer or a keyboard, by a request to a seat or by a
bind under one of the two names, or since the start if it was one there, the server has not freed
it and the client has not made it anything else.

Nothing else is kept from the client, and what is kept back is neither changed nor seen by the
tracker.  No message makes the chain write to the client.  So of all the events that reach the
client, those of pointers and keyboards are the ones that the synthesizer wrote at an idle
opportunity (`only_synthesized_input`).
-/
import WaylandProxy.Proofs.Object.Binding
import WaylandProxy.Proofs.Pass.Interference
import WaylandProxy.Proofs.Pass.LostCallback
import WaylandProxy.Proofs.Pass.Readiness

namespace WaylandProxy

set_option autoImplicit false

/-! ## Pointers and keyboards -/

/-- The interface is that of a pointer or of a keyboard. -/
def Interface.IsInput (name : String) : Prop :=
  name = "wl_pointer" ∨ name = "wl_keyboard"

namespace Creation

def pointer : Creation :=
  ⟨"wl_seat", 0, 0, "wl_pointer"⟩

def keyboard : Creation :=
  ⟨"wl_seat", 1, 0, "wl_keyboard"⟩

theorem name?_pointer : pointer.name? = some "get_pointer" := by decide

theorem name?_keyboard : keyboard.name? = some "get_keyboard" := by decide

/-- These are the only known creations of input objects. -/
theorem eq_of_input : ∀ creation ∈ known, Interface.IsInput creation.created →
    creation = pointer ∨ creation = keyboard := by
  unfold Interface.IsInput
  decide

end Creation

namespace ObjectMap

variable {objects : ObjectMap} {m : Message} {id : UInt32}

/-- A request that makes an id a pointer or a keyboard. -/
inductive MakesInput (objects : ObjectMap) (m : Message) (id : UInt32) : Prop where
  | pointer (asks : objects.resolve m = some ⟨"wl_seat", some "get_pointer"⟩)
      (new : m.args.head? = some id)
  | keyboard (asks : objects.resolve m = some ⟨"wl_seat", some "get_keyboard"⟩)
      (new : m.args.head? = some id)
  | bind {interface : String} (asks : objects.resolve m = some ⟨"wl_registry", some "bind"⟩)
      (carries : boundBy m = some (id, interface)) (input : Interface.IsInput interface)

/-- A message after which an id is no pointer and no keyboard: the server frees it, or the client
binds it to another interface. -/
inductive EndsInput (objects : ObjectMap) (m : Message) (id : UInt32) : Prop where
  | deleted (tells : objects.resolve m = some ⟨"wl_display", some "delete_id"⟩)
      (gone : m.args.head? = some id)
  | rebound (binds : objects.Binds (fun name => ¬ Interface.IsInput name) m id)

/-- By the messages so far the id is that of a pointer or of a keyboard. -/
def InputAfter (start : ObjectMap) (history : List Message) (id : UInt32) : Prop :=
  start.Since (fun objects => objects.IsOf Interface.IsInput id)
    (fun objects m => objects.MakesInput m id) (fun objects m => objects.EndsInput m id) history

/-- These are all the requests that bind an id to the interface of a pointer or a keyboard. -/
theorem makesInput_iff : objects.MakesInput m id ↔ objects.Binds Interface.IsInput m id := by
  unfold Binds
  constructor
  · rintro (⟨asks, new⟩ | ⟨asks, new⟩ | @⟨interface, asks, carries, input⟩)
    · rw [← Creation.name?_pointer] at asks
      rw [List.head?_eq_getElem?] at new
      exact ⟨_, bound?_eq_some_iff.2 (.inr ⟨.pointer, by decide, asks, rfl, new⟩), .inl rfl⟩
    · rw [← Creation.name?_keyboard] at asks
      rw [List.head?_eq_getElem?] at new
      exact ⟨_, bound?_eq_some_iff.2 (.inr ⟨.keyboard, by decide, asks, rfl, new⟩), .inr rfl⟩
    · exact ⟨interface, bound?_eq_some_iff.2 (.inl ⟨asks, carries⟩), input⟩
  · rintro ⟨interface, bound, input⟩
    obtain ⟨asks, carries⟩ | ⟨creation, isKnown, asks, rfl, new⟩ := bound?_eq_some_iff.1 bound
    · exact .bind asks carries input
    · obtain rfl | rfl := Creation.eq_of_input creation isKnown input
      · rw [Creation.name?_pointer] at asks
        exact .pointer asks (List.head?_eq_getElem?.trans new)
      · rw [Creation.name?_keyboard] at asks
        exact .keyboard asks (List.head?_eq_getElem?.trans new)

theorem endsInput_iff : objects.EndsInput m id ↔
    objects.freed? m = some id ∨ objects.Binds (fun name => ¬ Interface.IsInput name) m id := by
  rw [freed?_eq_some_iff]
  constructor
  · rintro (⟨tells, gone⟩ | binds)
    · exact .inl ⟨tells, gone⟩
    · exact .inr binds
  · rintro (⟨tells, gone⟩ | binds)
    · exact .deleted tells gone
    · exact .rebound binds

/-- **A pointer or a keyboard by the messages so far** is one to the map. -/
theorem inputAfter_iff {start : ObjectMap} {history : List Message} :
    start.InputAfter history id ↔ (start.after history).IsOf Interface.IsInput id := by
  unfold InputAfter
  refine since_iff (fun objects m => ?_) start history
  rw [makesInput_iff, endsInput_iff]
  exact isOf_observe_iff

end ObjectMap

/-! ## The pass -/

namespace Fuzz

variable {σ : Type} {p : Fuzz σ} {m : Message}

theorem drops_iff (blocks : p.blocks = true) (applies : p.appliesTo m = true)
    (objects : ObjectMap) :
    p.drops (objects.resolve m) m = true ↔
      m.direction = .fromServer ∧ objects.IsOf Interface.IsInput m.object := by
  unfold drops keepsBack ObjectMap.resolve ObjectMap.IsOf Interface.IsInput
  cases objects.interfaceOf m.object with
  | none => simp
  | some interface => simp [applies, blocks, blockedInterfaces]

variable [EventSource σ]

/-- The tick of the synthesizer that an idle opportunity leads to. -/
def tick? (p : Fuzz σ) (now : Nat) (w : World) : Option (Tick σ) :=
  let (p, w) := p.checkReadiness now w
  p.synth.map fun s => s.tick now p.tracker w

/-- What is tried with the client at an idle opportunity is what the synthesizer's tick tries. -/
theorem traffic_inject (p : Fuzz σ) (now : Nat) (w : World) :
    (p.inject now w).2.traffic =
      ((p.tick? now w).map fun tick => tick.world.traffic).getD w.traffic := by
  have ready := (p.checkReadiness_idled now w).traffic
  unfold inject tick?
  generalize p.checkReadiness now w = checked at ready
  obtain ⟨p', w'⟩ := checked
  simp only
  cases p'.synth with
  | none => exact ready
  | some s => exact (settle_idled _ _ _).traffic

end Fuzz

def Note.event? : Note → Option Message
  | .wrote .client connection bytes _ => some (.ofBytes connection bytes)
  | _ => none

namespace Router

variable {σ : Type} [EventSource σ] [LoadSource σ]

/-! ## What reaches the client -/

/-- The event that a move forwards to the client. -/
def forwarded? (r : Router (StageOver σ)) : Move → Option Message
  | .route m now =>
    let done := r.route m now
    if m.direction = .fromServer ∧ done.forward then some done.message else none
  | .idle _ => none

theorem forwarded?_eq_some_iff {r : Router (StageOver σ)} {m event : Message} {now : Nat} :
    r.forwarded? (.route m now) = some event ↔
      m.direction = .fromServer ∧ (r.route m now).forward = true ∧
        (r.route m now).message = event := by
  unfold forwarded?
  simp only
  split <;> simp_all

/-- The events that reach the client during a move: one that is forwarded, and those that are
written to the client. -/
def reaching (r : Router (StageOver σ)) (move : Move) : List Message :=
  (r.forwarded? move).toList ++ (r.trafficOf move).filterMap Note.event?

/-- The events that the synthesizer writes to the client during a move. -/
def synthesized (r : Router (StageOver σ)) : Move → List Message
  | .route _ _ => []
  | .idle now =>
    let tick := r.fuzz?.bind fun p => p.tick? now r.world.drained
    (tick.map fun tick => tick.world.traffic.filterMap Note.event?).getD []

variable {r : Router (StageOver σ)} {p : Fuzz σ}

/-- A message makes no pass write to the client. -/
theorem reaching_route (sole : r.SoleFuzz p) (m : Message) (now : Nat) :
    r.reaching (.route m now) = (r.forwarded? (.route m now)).toList := by
  obtain ⟨-, after, -, took⟩ := route_took sole m now
  have silent : r.trafficOf (.route m now) = [] := by
    unfold trafficOf step
    rw [took.traffic, List.drop_length]
  unfold reaching
  rw [silent]
  exact List.append_nil _

/-- At an idle opportunity nothing reaches the client but what the synthesizer writes. -/
theorem reaching_idle (sole : r.SoleFuzz p) (now : Nat) :
    r.reaching (.idle now) = r.synthesized (.idle now) := by
  have world := (idle_sole sole now).2
  have written : r.trafficOf (.idle now) = (p.inject now r.world.drained).2.traffic := by
    unfold trafficOf step
    rw [world, World.traffic_after, List.drop_left]
  unfold reaching synthesized
  simp only
  rw [written, p.traffic_inject, sole.fuzz?_eq, Option.bind_some]
  cases p.tick? now r.world.drained <;> rfl

/-! ## Runs -/

/-- The chain has one fuzz pass, with these options, and no pass at its end, and the fuzz pass is
for the connection of the message that comes next. -/
structure Guards (options : Options) (coming : List Message) (r : Router (StageOver σ))
    (p : Fuzz σ) : Prop where
  sole : r.SoleFuzz p
  unpinned : r.pinned = none
  configured : p.options = some options
  applies : ∀ next ∈ coming.head?, p.appliesTo next = true

namespace Guards

variable {options : Options} {moves : List Move}

omit [EventSource σ] [LoadSource σ] in
/-- A pass that has just been armed is for the connection that its options admit. -/
theorem start {made : Nat} {source : σ} {coming : List Message}
    (sole : r.SoleFuzz ((Fuzz.create made).arm options source)) (unpinned : r.pinned = none)
    (meant : ∀ first ∈ coming.head?, options.Admits first.connection) :
    Guards options coming r ((Fuzz.create made).arm options source) :=
  ⟨sole, unpinned, rfl,
    fun first isFirst => Fuzz.appliesTo_of_program rfl rfl (meant first isFirst)⟩

theorem step {move : Move} (guards : Guards options ((routed (move :: moves)).map Prod.fst) r p) :
    ∃ after, Guards options ((routed moves).map Prod.fst) (r.step move) after := by
  obtain ⟨sole, unpinned, configured, applies⟩ := guards
  cases move with
  | route m now =>
      obtain ⟨after, sole', followed, -⟩ := route_follows sole m now
      exact ⟨after, sole', pinned_route unpinned m now, followed.options.trans configured,
        fun next _ => followed.appliesTo (applies m rfl) next⟩
  | idle now =>
      obtain ⟨after, sole', rested⟩ := idle_rests sole now
      exact ⟨after, sole', pinned_idle unpinned now, rested.options.trans configured,
        fun next isNext => (rested.appliesTo_eq next).trans (applies next isNext)⟩

theorem run : ∀ {moves : List Move} {more : List Move} {r : Router (StageOver σ)} {p : Fuzz σ},
    Guards options ((routed (moves ++ more)).map Prod.fst) r p →
      ∃ after, Guards options ((routed more).map Prod.fst) ((machine σ).run r moves) after
  | [], _, _, p, guards => ⟨p, guards⟩
  | _ :: _, _, _, _, guards => by
      obtain ⟨after, next⟩ := guards.step
      exact next.run

/-- Block mode keeps back the events of pointers and keyboards, and nothing else. -/
theorem forward_eq_false_iff {m : Message} {now : Nat} (block : options.block = true)
    (guards : Guards options ((routed [.route m now]).map Prod.fst) r p) :
    (r.route m now).forward = false ↔
      m.direction = .fromServer ∧ r.objects.IsOf Interface.IsInput m.object := by
  have blocks : p.blocks = true := by
    unfold Fuzz.blocks
    rw [guards.configured]
    exact block
  rw [forward_route guards.sole guards.unpinned, Bool.not_eq_false',
    Fuzz.drops_iff blocks (guards.applies m rfl)]

end Guards

/-- **Block mode leaves the client only synthesized input.**  Take a chain whose only fuzz pass,
with nothing after it that holds messages up, blocks and is for the connection of the first
message, over any map of objects, and any run of messages and idle opportunities.

* Of the messages that may come next, those that are not forwarded are the events of the server
  whose object is a pointer or a keyboard by the messages so far.
* A message that is not forwarded is left as it is, and the tracker does not see it.
* If an event of a pointer or a keyboard reaches the client in the next move, the synthesizer has
  written it. -/
theorem only_synthesized_input (made : Nat) {options : Options} (block : options.block = true)
    {source : σ} {r : Router (StageOver σ)}
    (sole : r.SoleFuzz ((Fuzz.create made).arm options source)) (unpinned : r.pinned = none)
    (moves : List Move) (move : Move)
    (meant : ∀ first ∈ ((routed (moves ++ [move])).map Prod.fst).head?,
      options.Admits first.connection) :
    let history := (routed moves).map Prod.fst
    let before := (machine σ).run r moves
    (∀ m now, move = .route m now →
      let done := before.route m now
      (done.forward = false ↔
        m.direction = .fromServer ∧ r.objects.InputAfter history m.object) ∧
      (done.forward = false → done.message = m ∧
        ∃ p q, before.SoleFuzz p ∧ done.router.SoleFuzz q ∧ q.tracker = p.tracker)) ∧
    ∀ event ∈ before.reaching move, r.objects.InputAfter history event.object →
      event ∈ before.synthesized move := by
  intro history before
  obtain ⟨p, guards⟩ : ∃ p, Guards options ((routed [move]).map Prod.fst) before p :=
    (Guards.start sole unpinned meant).run
  have objects : before.objects = r.objects.after history :=
    (AtMostOneFuzz.run (.inr ⟨_, sole⟩) moves).2.trans List.foldl_map.symm
  have input (id : UInt32) :
      r.objects.InputAfter history id ↔ before.objects.IsOf Interface.IsInput id := by
    rw [ObjectMap.inputAfter_iff, objects]
  constructor
  · rintro m now rfl
    refine ⟨(guards.forward_eq_false_iff block).trans (and_congr_right' (input m.object).symm),
      fun kept => ?_⟩
    rw [forward_route guards.sole guards.unpinned, Bool.not_eq_false'] at kept
    obtain ⟨q, soleQ, followed, left⟩ := route_follows guards.sole m now
    have tracker := followed.tracker
    rw [Fuzz.follow_dropped kept] at left tracker
    exact ⟨left, p, q, guards.sole, soleQ, tracker⟩
  · intro event reaches isInput
    cases move with
    | idle now => rwa [reaching_idle guards.sole] at reaches
    | route m now =>
        rw [reaching_route guards.sole, Option.mem_toList] at reaches
        obtain ⟨server, forward, rfl⟩ := forwarded?_eq_some_iff.1 reaches
        -- the event that is forwarded has the object of the one that came, so it is kept back
        have object := (AtMostOneFuzz.route_touched (.inr ⟨p, guards.sole⟩) m now).object
        rw [object, input] at isInput
        have kept := (guards.forward_eq_false_iff block).2 ⟨server, isInput⟩
        cases kept.symm.trans forward

namespace Example

open Message.Example (message)

def blocking : Options :=
  { options with block := true }

/-- A blocking pass for a connection that has just been made. -/
def shut : Router Stage :=
  { unused with passes := [.inr (.inl ((Fuzz.create 0).arm blocking leaving))] }

/-- The client binds its globals, draws the surface 12 and makes the pointer 13 and the
keyboard 14; then the keyboard enters the surface. -/
def ready : List Move :=
  (globals ++ [message .fromClient 4 0 [12], message .fromClient 7 0 [13],
    message .fromClient 7 1 [14], message .fromClient 12 2 [0, 0, 64, 64],
    message .fromClient 12 6 [], message .fromServer 14 1 [41, 12, 0]]).map fun m => .route m 0

def motion : Message :=
  message .fromServer 13 2 [0, 256, 256]

/-- A motion of the pointer is kept back and the leave of the synthesizer is not; after the server
has freed the id, an event from there goes by. -/
theorem motion_kept_back_until_deleted :
    let history := (routed ready).map Prod.fst
    let before := (machine Source).run shut ready
    let deleted := (machine Source).run shut (ready ++ [.route (message .fromServer 1 1 [13]) 0])
    shut.SoleFuzz ((Fuzz.create 0).arm blocking leaving) ∧ blocking.block = true ∧
      shut.pinned = none ∧ (∀ first ∈ history.head?, blocking.Admits first.connection) ∧
      (before.route motion 0).forward = false ∧ (before.route motion 0).message = motion ∧
      shut.objects.InputAfter history 13 ∧
      before.reaching (.idle (millis 50)) =
        [message .fromServer 13 1 [1, 12], message .fromServer 13 5 []] ∧
      (∀ event ∈ before.reaching (.idle (millis 50)), event.object = 13 →
        event ∈ before.synthesized (.idle (millis 50))) ∧
      (deleted.route motion 0).forward = true := by
  intro history before deleted
  have sole : shut.SoleFuzz ((Fuzz.create 0).arm blocking leaving) := ⟨[], [], none, rfl, rfl⟩
  have admits (m : Message) : blocking.Admits m.connection := fun _ program => nomatch program
  obtain ⟨kept, -⟩ := only_synthesized_input 0 rfl sole rfl ready (.route motion 0)
    fun first _ => admits first
  obtain ⟨-, written⟩ := only_synthesized_input 0 rfl sole rfl ready (.idle (millis 50))
    fun first _ => admits first
  obtain ⟨back, left⟩ := kept motion 0 rfl
  have dropped : (before.route motion 0).forward = false := by decide
  have pointer : shut.objects.InputAfter history 13 := (back.1 dropped).2
  exact ⟨sole, rfl, rfl, fun first _ => admits first, dropped, (left dropped).1, pointer, by decide,
    fun event reaches same => written event reaches (same ▸ pointer), by decide⟩

end Example

end Router

end WaylandProxy
