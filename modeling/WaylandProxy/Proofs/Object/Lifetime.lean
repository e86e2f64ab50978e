/-
# Proofs.Object.Lifetime -- which id a message binds or frees

A message changes the map in one of two ways: a request binds an id (`ObjectMap.bound?`), an
event of the display frees one (`ObjectMap.freed?`).  `observe_eq` says that this is all.

A client gives out ids that are free; a run in which it always does is one of fresh ids
(`ObjectMap.FreshIds`).  There an id that the map knows keeps its interface until the server
frees it (`known_until_freed`).
-/
import WaylandProxy.Proofs.Object.Observation
import WaylandProxy.Proofs.Serial.Callback

namespace WaylandProxy

set_option autoImplicit false

namespace ObjectMap

/-- The id that a request binds, and its interface. -/
def bound? (objects : ObjectMap) (m : Message) : Option (UInt32 × String) :=
  match m.direction with
  | .fromClient => (objects.interfaceOf m.object).bind fun interface => boundByRequest interface m
  | .fromServer => none

/-- The id that an event frees. -/
def freed? (objects : ObjectMap) (m : Message) : Option UInt32 :=
  match m.direction with
  | .fromClient => none
  | .fromServer => (objects.interfaceOf m.object).bind fun interface => freedByEvent interface m

/-- A message binds an id, or frees one, or does nothing. -/
theorem observe_eq (objects : ObjectMap) (m : Message) :
    objects.observe m =
      match objects.bound? m with
      | some (id, interface) => objects.insert id interface
      | none =>
        match objects.freed? m with
        | some id => objects.erase id
        | none => objects := by
  unfold observe bound? freed?
  cases objects.interfaceOf m.object with
  | none => cases m.direction <;> rfl
  | some interface =>
      cases m.direction with
      | fromClient =>
          simp only [Option.bind_some]
          cases boundByRequest interface m <;> rfl
      | fromServer =>
          simp only [Option.bind_some]
          cases freedByEvent interface m <;> rfl

/-- Every id that the client binds in these messages is one that the map does not know. -/
def FreshIds : ObjectMap → List Message → Prop
  | _, [] => True
  | objects, m :: rest =>
    (∀ made ∈ objects.bound? m, objects.interfaceOf made.1 = none) ∧
      FreshIds (objects.observe m) rest

instance decidableFreshIds : ∀ (objects : ObjectMap) (messages : List Message),
    Decidable (objects.FreshIds messages)
  | _, [] => inferInstanceAs (Decidable True)
  | objects, m :: rest =>
    have := decidableFreshIds (objects.observe m) rest
    inferInstanceAs (Decidable ((∀ made ∈ objects.bound? m, objects.interfaceOf made.1 = none) ∧
      (objects.observe m).FreshIds rest))

variable {objects : ObjectMap} {m : Message} {id : UInt32} {interface : String}

/-- An id that the map knows keeps its interface until the server frees it. -/
theorem known_until_freed (fresh : ∀ made ∈ objects.bound? m, objects.interfaceOf made.1 = none)
    (known : objects.interfaceOf id = some interface) :
    (objects.observe m).interfaceOf id = some interface ∨ objects.freed? m = some id := by
  rw [observe_eq]
  cases bound : objects.bound? m with
  | some made =>
      obtain ⟨new, created⟩ := made
      have free : objects.interfaceOf new = none := fresh _ bound
      have differs : id ≠ new := by
        rintro rfl
        cases known.symm.trans free
      left
      rw [interfaceOf_insert, if_neg differs]
      exact known
  | none =>
      cases freed : objects.freed? m with
      | none => exact .inl known
      | some gone =>
          by_cases same : id = gone
          · exact .inr (congrArg some same.symm)
          · left
            simp only [interfaceOf_erase, if_neg same]
            exact known

/-- A request that the tracker takes for one that makes a callback is one to the map. -/
theorem bound?_of_requestedId? {opcode : UInt16} {creation : Creation}
    (creates : Creation.find? interface opcode = some creation) (first : creation.argument = 0)
    (noBind : interface ≠ "wl_registry") (client : m.direction = .fromClient)
    (requests : Tracker.requestedId? interface opcode (objects.resolve m) m = some id) :
    objects.bound? m = some (id, creation.created) := by
  obtain ⟨-, resolved, isOpcode, has⟩ := Tracker.requestedId?_eq_some.1 requests
  have known : objects.interfaceOf m.object = some interface := by
    unfold resolve at resolved
    rw [Option.map_map] at resolved
    simpa using resolved
  have argument : m.args[creation.argument]? = some id := by
    rw [first, Message.args, List.getElem?_drop]
    exact has
  unfold bound? boundByRequest
  rw [client, known]
  simp only [Option.bind_some]
  rw [if_neg fun bind => noBind bind.1, isOpcode, creates, Option.bind_some, argument]
  rfl

/-- A callback that the client asks for is known to the map as one. -/
theorem interfaceOf_requested (client : m.direction = .fromClient)
    (requests : Tracker.requestedSync? (objects.resolve m) m = some id ∨
      Tracker.requestedFrame? (objects.resolve m) m = some id) :
    (objects.observe m).interfaceOf id = some "wl_callback" := by
  have bound : objects.bound? m = some (id, "wl_callback") := by
    obtain sync | frame := requests
    · exact bound?_of_requestedId? rfl rfl (by decide) client sync
    · exact bound?_of_requestedId? rfl rfl (by decide) client frame
  rw [observe_eq, bound]
  exact (interfaceOf_insert _ _ _ _).trans (if_pos rfl)

end ObjectMap

end WaylandProxy
