/-
# Object.Map -- the interface behind each object id

The map starts with the display at id 1 and learns from the traffic it is shown.  A
request that creates an object binds its id, a registry bind binds the id it carries
under the interface it names, and the display's `delete_id` event forgets an id.
Everything else, and a request whose arguments are cut short, leaves the map alone.

`interfaceOf_insert` and `interfaceOf_erase` say what a binding and a deletion do to
the interface of every id.
-/
import WaylandProxy.Object.Interface
import WaylandProxy.Wire.Argument

namespace WaylandProxy

set_option autoImplicit false

/-- The interface a message addresses, and the method if its opcode is known. -/
structure Resolved where
  interface : String
  method : Option String
  deriving DecidableEq, Repr

/-- The interfaces of the objects alive, by id; each id occurs once. -/
structure ObjectMap where
  entries : List (UInt32 × String)
  deriving DecidableEq, Repr

namespace ObjectMap

def displayId : UInt32 := 1

/-- The opcode of the registry's request to bind a global. -/
def bindOpcode : UInt16 := 0

/-- The opcode of the display's event that an id is free again. -/
def deleteIdOpcode : UInt16 := 1

/-- The map before any traffic: the display alone. -/
def initial : ObjectMap :=
  ⟨[(displayId, "wl_display")]⟩

def interfaceOf (m : ObjectMap) (id : UInt32) : Option String :=
  m.entries.lookup id

def erase (m : ObjectMap) (id : UInt32) : ObjectMap :=
  ⟨m.entries.filter fun entry => entry.1 ≠ id⟩

/-- The map with an id bound to an interface, whatever it was bound to before. -/
def insert (m : ObjectMap) (id : UInt32) (interface : String) : ObjectMap :=
  ⟨(id, interface) :: (m.erase id).entries⟩

def size (m : ObjectMap) : Nat :=
  m.entries.length

theorem lookup_cons_eq (id key : UInt32) (name : String) (rest : List (UInt32 × String)) :
    ((key, name) :: rest).lookup id = if id = key then some name else rest.lookup id := by
  by_cases h : id = key
  · simp [h]
  · have other : (id == key) = false := beq_false_of_ne h
    simp [List.lookup_cons, other, h]

theorem interfaceOf_erase (m : ObjectMap) (id other : UInt32) :
    (m.erase id).interfaceOf other = if other = id then none else m.interfaceOf other := by
  unfold interfaceOf erase
  induction m.entries with
  | nil => simp
  | cons entry rest ih =>
    obtain ⟨key, name⟩ := entry
    by_cases hk : key = id
    · simp only [List.filter_cons, hk, ne_eq, not_true_eq_false, decide_false, Bool.false_eq_true,
        if_false, lookup_cons_eq, ih]
      split <;> simp_all
    · simp only [List.filter_cons, hk, ne_eq, not_false_eq_true, decide_true, if_true,
        lookup_cons_eq, ih]
      split <;> simp_all

theorem interfaceOf_insert (m : ObjectMap) (id other : UInt32) (interface : String) :
    (m.insert id interface).interfaceOf other =
      if other = id then some interface else m.interfaceOf other := by
  have erased := interfaceOf_erase m id other
  unfold interfaceOf insert at *
  rw [lookup_cons_eq]
  split <;> simp_all

/-- The interface and method that a message addresses; none for an unknown object. -/
def resolve (m : ObjectMap) (msg : Message) : Option Resolved :=
  (m.interfaceOf msg.object).map fun interface =>
    ⟨interface, Interface.method? interface msg.direction msg.opcode⟩

/-- The id and the interface that a bind request carries: after the global's name
and before the id stand the interface's name and version. -/
def boundBy (msg : Message) : Option (UInt32 × String) :=
  match (Reader.ofArgs msg.args).uint with
  | (none, _) => none
  | (some _, r) =>
    match r.string with
    | (none, _) => none
    | (some interface, r) =>
      match r.uint with
      | (none, _) => none
      | (some _, r) =>
        match r.uint with
        | (none, _) => none
        | (some id, _) => some (id, interface)

/-- What a request to an object of `interface` binds: an id and its interface. -/
def boundByRequest (interface : String) (msg : Message) : Option (UInt32 × String) :=
  if interface = "wl_registry" ∧ msg.opcode = bindOpcode then boundBy msg
  else
    (Creation.find? interface msg.opcode).bind fun creation =>
      msg.args[creation.argument]?.map fun id => (id, creation.created)

/-- The id that an event from an object of `interface` frees. -/
def freedByEvent (interface : String) (msg : Message) : Option UInt32 :=
  if interface = "wl_display" ∧ msg.opcode = deleteIdOpcode then msg.args.head? else none

def observe (m : ObjectMap) (msg : Message) : ObjectMap :=
  match m.interfaceOf msg.object with
  | none => m
  | some interface =>
    match msg.direction with
    | .fromClient =>
      match boundByRequest interface msg with
      | none => m
      | some (id, created) => m.insert id created
    | .fromServer =>
      match freedByEvent interface msg with
      | none => m
      | some id => m.erase id

end ObjectMap

end WaylandProxy
