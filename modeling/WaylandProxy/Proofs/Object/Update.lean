/-
# Proofs.Object.Update -- one message, at most one binding

What a message does to the map is said by one relation: `Rebinds objects m id binding` says that the
message deletes the binding of an id (`binding` is nothing) or binds it to an interface.  There are
three ways and no others: the display's `delete_id` with its first argument, a known creation with
its new id, and the registry's `bind` with the id behind the interface's name.  A message rebinds
one id at most (`Rebinds.unique`); the id gets what the relation says (`Rebinds.interfaceOf_eq`),
and every other one keeps what it had (`interfaceOf_observe`).

The name in a bind request is a text of any length, so where the id stands depends on the length
that the request claims for it (`idIndex`).  Reading goes through the arguments one after the other;
it finds the word there and the name before it, if there are enough words and the name is a text,
and nothing otherwise (`boundBy_eq_some_iff`).  A request that was built from a name is read back
(`boundBy_of_built`), so the id is of that interface until a message rebinds it
(`interfaceOf_after`).
-/
import Mathlib.Data.List.Nodup
import WaylandProxy.Proofs.Object.Binding
import WaylandProxy.Proofs.Wire.Reading

namespace WaylandProxy

set_option autoImplicit false

/-! ## The tables of names -/

/-- A method has a name exactly if it is in the table of its interface. -/
theorem Interface.method?_eq_some_iff {interface name : String} {direction : Direction}
    {opcode : UInt16} :
    method? interface direction opcode = some name ↔
      ∃ i ∈ known, i.name = interface ∧ (i.methods direction)[opcode.toNat]? = some name := by
  have distinct : (known.map Interface.name).Nodup := by decide
  constructor
  · intro named
    obtain ⟨i, found, here⟩ := Option.bind_eq_some_iff.1 named
    exact ⟨i, List.mem_of_find?_eq_some found, by simpa using List.find?_some found, here⟩
  · rintro ⟨i, isKnown, rfl, here⟩
    obtain ⟨other, found⟩ : ∃ other, find? i.name = some other :=
      Option.isSome_iff_exists.1 (List.find?_isSome.2 ⟨i, isKnown, by simp⟩)
    have same : other.name = i.name := by simpa using List.find?_some found
    obtain rfl : other = i :=
      List.inj_on_of_nodup_map distinct (List.mem_of_find?_eq_some found) isKnown same
    unfold method?
    rw [found]
    exact here

namespace ObjectMap

variable {objects : ObjectMap} {m : Message} {id : UInt32} {interface : String}

/-! ## The arguments of a bind request -/

/-- How many bytes a bind request claims for the interface's name, with the null that ends it. -/
def nameLength (args : List UInt32) : Nat :=
  (args[1]?.getD 0).toNat

/-- The interface's name, if these bytes are a text. -/
def carriedName? (args : List UInt32) : Option String :=
  Text.Utf8.decode?
    (Reader.dropNull (((args.drop 2).flatMap Message.wordBytes).take (nameLength args)))

/-- Where the id stands: behind the global's name, the length and the words of the interface's name,
and the version. -/
def idIndex (args : List UInt32) : Nat :=
  3 + (nameLength args + 3) / 4

/-- **What a bind request binds** is the word at the place of the id, to the name before it; nothing
if there is no such word or the name is no text. -/
theorem boundBy_eq_some_iff :
    boundBy m = some (id, interface) ↔
      m.args[idIndex m.args]? = some id ∧ carriedName? m.args = some interface := by
  unfold boundBy
  rcases m.args with _ | ⟨global, _ | ⟨length, rest⟩⟩
  · simp [Reader.ofArgs, Reader.uint]
  · simp [Reader.ofArgs, Reader.uint, Reader.skip, Reader.string, idIndex, nameLength]
  · have place : (global :: length :: rest)[idIndex (global :: length :: rest)]? =
        (rest.drop ((length.toNat + 3) / 4))[1]? := by
      rw [List.getElem?_drop]
      simp only [idIndex, nameLength, List.getElem?_cons_succ, List.getElem?_cons_zero,
        Option.getD_some, Nat.add_comm 3]
    have name : carriedName? (global :: length :: rest) =
        Text.Utf8.decode?
          (Reader.dropNull ((rest.flatMap Message.wordBytes).take length.toNat)) := rfl
    have first : (Reader.ofArgs (global :: length :: rest)).uint =
        (some global, ⟨length :: rest, 1⟩) := rfl
    rw [place, name]
    simp only [first]
    by_cases enough : (length.toNat + 3) / 4 ≤ rest.length
    · rw [Reader.string_cons enough]
      generalize Text.Utf8.decode? _ = carried
      -- after the name come the version and the id, if anything does
      rcases rest.drop ((length.toNat + 3) / 4) with _ | ⟨version, _ | ⟨new, others⟩⟩ <;>
        cases carried <;> simp [Reader.uint, Reader.skip]
    · rw [Reader.string_cut enough, List.drop_eq_nil_of_le (by omega)]
      simp

/-- **A bind request that was built** binds the id to the name it was built with. -/
theorem boundBy_of_built {name version : UInt32}
    (args : m.args = [Argument.uint name, .string interface, .uint version, .newId id].flatMap
      Argument.toWords)
    (countable : (Text.Utf8.encode interface ++ [0]).length < 2 ^ 32) :
    boundBy m = some (id, interface) := by
  have words : m.args = name :: (Argument.counted (Text.Utf8.encode interface ++ [0]) ++
      [version, id]) := by
    rw [args]
    simp [Argument.toWords]
  have first (rest : List UInt32) : (Reader.ofArgs (name :: rest)).uint = (some name, ⟨rest, 1⟩) :=
    rfl
  unfold boundBy
  rw [words]
  simp only [first, Reader.string_counted [version, id] 1 countable]
  rfl

/-! ## One message -/

/-- The message deletes the binding of the id, or binds it to an interface. -/
inductive Rebinds (objects : ObjectMap) (m : Message) : UInt32 → Option String → Prop where
  /-- The display says that the id is free. -/
  | deleted {id : UInt32} (server : m.direction = .fromServer)
      (display : objects.interfaceOf m.object = some "wl_display")
      (deletes : m.opcode = deleteIdOpcode) (first : m.args.head? = some id) :
      Rebinds objects m id none
  /-- A known creation makes an object with the id. -/
  | created {id : UInt32} {creation : Creation} (client : m.direction = .fromClient)
      (isKnown : creation ∈ Creation.known)
      (target : objects.interfaceOf m.object = some creation.interface)
      (creates : m.opcode = creation.opcode) (argument : m.args[creation.argument]? = some id) :
      Rebinds objects m id (some creation.created)
  /-- The registry binds a global of the interface to the id. -/
  | bound {id : UInt32} {interface : String} (client : m.direction = .fromClient)
      (registry : objects.interfaceOf m.object = some "wl_registry")
      (binds : m.opcode = bindOpcode) (argument : m.args[idIndex m.args]? = some id)
      (named : carriedName? m.args = some interface) : Rebinds objects m id (some interface)

theorem rebinds_none_iff : objects.Rebinds m id none ↔ objects.freed? m = some id := by
  constructor
  · rintro ⟨server, display, deletes, first⟩
    simp [freed?, server, display, freedByEvent, deletes, first]
  · intro freed
    unfold freed? at freed
    cases server : m.direction with
    | fromClient =>
        rw [server] at freed
        cases freed
    | fromServer =>
        rw [server] at freed
        obtain ⟨target, known, frees⟩ := Option.bind_eq_some_iff.1 freed
        obtain ⟨⟨rfl, deletes⟩, first⟩ := Option.ite_none_right_eq_some.1 frees
        exact .deleted server known deletes first

theorem rebinds_some_iff :
    objects.Rebinds m id (some interface) ↔ objects.bound? m = some (id, interface) := by
  rw [bound?_eq_some_iff_request]
  constructor
  · intro rebinds
    cases rebinds with
    | created client isKnown target creates argument =>
        exact ⟨client, _, target, boundByRequest_eq_some_iff.2
          (.inr ⟨_, isKnown, rfl, creates.symm, rfl, argument⟩)⟩
    | bound client registry binds argument named =>
        exact ⟨client, _, registry, boundByRequest_eq_some_iff.2
          (.inl ⟨rfl, binds, boundBy_eq_some_iff.2 ⟨argument, named⟩⟩)⟩
  · rintro ⟨client, target, known, made⟩
    obtain ⟨rfl, binds, carries⟩ | ⟨creation, isKnown, rfl, creates, rfl, argument⟩ :=
      boundByRequest_eq_some_iff.1 made
    · obtain ⟨argument, named⟩ := boundBy_eq_some_iff.1 carries
      exact .bound client known binds argument named
    · exact .created client isKnown known creates.symm argument

namespace Rebinds

variable {binding : Option String}

/-- Who deletes does not bind. -/
theorem bound?_eq_none (deletes : objects.Rebinds m id none) : objects.bound? m = none := by
  obtain ⟨server, -, -, -⟩ := deletes
  simp [bound?, server]

/-- **The id gets what the message says.** -/
theorem interfaceOf_eq (rebinds : objects.Rebinds m id binding) :
    (objects.observe m).interfaceOf id = binding := by
  rw [observe_eq]
  cases binding with
  | none =>
      rw [rebinds.bound?_eq_none, rebinds_none_iff.1 rebinds]
      exact (interfaceOf_erase _ _ _).trans (if_pos rfl)
  | some interface =>
      rw [rebinds_some_iff.1 rebinds]
      exact (interfaceOf_insert _ _ _ _).trans (if_pos rfl)

/-- **A message rebinds one id at most**, and in one way. -/
theorem unique {other : UInt32} {binding' : Option String} (rebinds : objects.Rebinds m id binding)
    (rebinds' : objects.Rebinds m other binding') : id = other ∧ binding = binding' := by
  cases binding with
  | none =>
      cases binding' with
      | none =>
          have freed := rebinds_none_iff.1 rebinds
          exact ⟨Option.some.inj (freed.symm.trans (rebinds_none_iff.1 rebinds')), rfl⟩
      | some interface' =>
          have bound := rebinds_some_iff.1 rebinds'
          rw [rebinds.bound?_eq_none] at bound
          cases bound
  | some interface =>
      cases binding' with
      | none =>
          have bound := rebinds_some_iff.1 rebinds
          rw [rebinds'.bound?_eq_none] at bound
          cases bound
      | some interface' =>
          have bound := rebinds_some_iff.1 rebinds
          cases bound.symm.trans (rebinds_some_iff.1 rebinds')
          exact ⟨rfl, rfl⟩

end Rebinds

/-- A message that rebinds nothing leaves the map as it is. -/
theorem observe_of_not_rebinds (nothing : ∀ id binding, ¬ objects.Rebinds m id binding) :
    objects.observe m = objects := by
  rw [observe_eq]
  cases bound : objects.bound? m with
  | some made => exact absurd (rebinds_some_iff.2 bound) (nothing made.1 (some made.2))
  | none =>
      cases freed : objects.freed? m with
      | some gone => exact absurd (rebinds_none_iff.2 freed) (nothing gone none)
      | none => rfl

/-- **An id that the message does not rebind keeps its interface.** -/
theorem interfaceOf_observe (kept : ∀ binding, ¬ objects.Rebinds m id binding) :
    (objects.observe m).interfaceOf id = objects.interfaceOf id := by
  rw [observe_eq]
  cases bound : objects.bound? m with
  | some made =>
      have differs : id ≠ made.1 := by
        rintro rfl
        exact kept (some made.2) (rebinds_some_iff.2 bound)
      exact (interfaceOf_insert _ _ _ _).trans (if_neg differs)
  | none =>
      cases freed : objects.freed? m with
      | some gone =>
          have differs : id ≠ gone := by
            rintro rfl
            exact kept none (rebinds_none_iff.2 freed)
          exact (interfaceOf_erase _ _ _).trans (if_neg differs)
      | none => rfl

/-- An id that no message of a history rebinds keeps its interface. -/
theorem interfaceOf_after {start : ObjectMap} {history : List Message}
    (kept : ∀ earlier m later, history = earlier ++ m :: later →
      ∀ binding, ¬ (start.after earlier).Rebinds m id binding) :
    (start.after history).interfaceOf id = start.interfaceOf id := by
  induction history using List.reverseRecOn with
  | nil => rfl
  | append_singleton history m ih =>
      rw [after_concat, interfaceOf_observe (kept history m [] rfl)]
      -- what stands before the last message stands in the whole history
      refine ih fun earlier other later split => kept earlier other (later ++ [m]) ?_
      rw [split, List.append_assoc, List.cons_append]

/-! ## The law -/

/-- No creation is a request to the registry. -/
theorem interface_ne_registry {creation : Creation} (isKnown : creation ∈ Creation.known) :
    creation.interface ≠ "wl_registry" := by
  have noBind : ∀ creation ∈ Creation.known, creation.interface ≠ "wl_registry" := by decide
  exact noBind creation isKnown

/-- A creation rebinds the id in its argument, and nothing else. -/
theorem rebinds_iff_of_creation {creation : Creation} {binding : Option String}
    (isKnown : creation ∈ Creation.known) (client : m.direction = .fromClient)
    (target : objects.interfaceOf m.object = some creation.interface)
    (creates : m.opcode = creation.opcode) :
    objects.Rebinds m id binding ↔
      m.args[creation.argument]? = some id ∧ binding = some creation.created := by
  constructor
  · intro rebinds
    cases rebinds with
    | deleted server =>
        rw [client] at server
        cases server
    | created client' isKnown' target' creates' argument =>
        rename_i other
        -- interface and opcode tell the creations apart
        have same : creation.interface = other.interface :=
          Option.some.inj (target.symm.trans target')
        have found := Creation.find?_eq_some_iff.2 ⟨isKnown, same, creates.symm.trans creates'⟩
        cases found.symm.trans (Creation.find?_eq_some_iff.2 ⟨isKnown', rfl, rfl⟩)
        exact ⟨argument, rfl⟩
    | bound client' registry =>
        exact absurd (Option.some.inj (target.symm.trans registry)) (interface_ne_registry isKnown)
  · rintro ⟨argument, rfl⟩
    exact .created client isKnown target creates argument

/-- The registry rebinds the id that a bind request carries, and nothing else. -/
theorem rebinds_iff_of_registry {binding : Option String} (client : m.direction = .fromClient)
    (registry : objects.interfaceOf m.object = some "wl_registry") :
    objects.Rebinds m id binding ↔
      m.opcode = bindOpcode ∧ m.args[idIndex m.args]? = some id ∧
        ∃ interface, carriedName? m.args = some interface ∧ binding = some interface := by
  constructor
  · intro rebinds
    cases rebinds with
    | deleted server =>
        rw [client] at server
        cases server
    | created client' isKnown target =>
        exact absurd (Option.some.inj (target.symm.trans registry)) (interface_ne_registry isKnown)
    | bound client' registry' binds argument named => exact ⟨binds, argument, _, named, rfl⟩
  · rintro ⟨binds, argument, interface, named, rfl⟩
    exact .bound client registry binds argument named

def bindArguments (global : UInt32) (interface : String) (version id : UInt32) : List Argument :=
  [.uint global, .string interface, .uint version, .newId id]

theorem length_bindArguments (global : UInt32) (interface : String) (version id : UInt32) :
    ((bindArguments global interface version id).flatMap Argument.toWords).length =
      4 + ((Text.Utf8.encode interface).length + 4) / 4 := by
  simp only [bindArguments, List.flatMap_cons, List.flatMap_nil, Argument.toWords,
    Argument.counted, List.length_append, List.length_cons, List.length_nil,
    Argument.length_paddedWords]
  omega

/-- **The update law of the map.**  Of any map and any message:

* of all ids one at most changes, the one that the message rebinds, and it gets what the message
  says;
* a message to an unknown id changes nothing, one from the server deletes at most, and one from the
  client binds at most;
* a creation without the word for its new id changes nothing, and neither does a bind request whose
  arguments are cut short or whose interface is no text.

A bind request can be built for every name that fits the length field, ids and version being
whatever they are.  Seen on an id of the registry, it binds its id to exactly this name and leaves
all others.  Messages to the id resolve to the name, as long as no other message rebinds it, with
the method that the table of the name has for their direction and opcode, and with none if it has
none. -/
theorem update_law (objects : ObjectMap) :
    (∀ m : Message,
      (∃ id, ∀ other, other ≠ id →
        (objects.observe m).interfaceOf other = objects.interfaceOf other) ∧
      (∀ id, (∀ binding, objects.Rebinds m id binding →
          (objects.observe m).interfaceOf id = binding) ∧
        ((∀ binding, ¬ objects.Rebinds m id binding) →
          (objects.observe m).interfaceOf id = objects.interfaceOf id)) ∧
      (objects.interfaceOf m.object = none → objects.observe m = objects) ∧
      (∀ id binding, objects.Rebinds m id binding →
        (m.direction = .fromServer ↔ binding = none)) ∧
      (∀ creation ∈ Creation.known, m.direction = .fromClient →
        objects.interfaceOf m.object = some creation.interface → m.opcode = creation.opcode →
        m.args.length ≤ creation.argument → objects.observe m = objects) ∧
      (m.direction = .fromClient → objects.interfaceOf m.object = some "wl_registry" →
        m.args.length ≤ idIndex m.args ∨ carriedName? m.args = none →
        objects.observe m = objects)) ∧
    ∀ (connection : Connection) (registry global version id : UInt32) (interface : String),
      ((∃ m, Message.build .fromClient connection registry bindOpcode
          (bindArguments global interface version id) = .ok m) ↔
        8 + 4 * (4 + ((Text.Utf8.encode interface).length + 4) / 4) ≤ 65535) ∧
      ∀ m, Message.build .fromClient connection registry bindOpcode
          (bindArguments global interface version id) = .ok m →
        objects.interfaceOf registry = some "wl_registry" →
        (objects.observe m).interfaceOf id = some interface ∧
        (∀ other, other ≠ id →
          (objects.observe m).interfaceOf other = objects.interfaceOf other) ∧
        ∀ between : List Message,
          (∀ earlier x rest, between = earlier ++ x :: rest →
            ∀ binding, ¬ ((objects.observe m).after earlier).Rebinds x id binding) →
          ∀ later : Message, later.object = id → ∃ method,
            ((objects.observe m).after between).resolve later = some ⟨interface, method⟩ ∧
            ∀ name, method = some name ↔ ∃ i ∈ Interface.known, i.name = interface ∧
              (i.methods later.direction)[later.opcode.toNat]? = some name := by
  constructor
  · intro m
    refine ⟨?_, fun id => ⟨fun binding rebinds => rebinds.interfaceOf_eq, interfaceOf_observe⟩,
      observe_of_unknown, ?_, ?_, ?_⟩
    · by_cases rebinds : ∃ id binding, objects.Rebinds m id binding
      · obtain ⟨id, binding, rebinds⟩ := rebinds
        refine ⟨id, fun other differs => interfaceOf_observe fun binding' rebinds' => ?_⟩
        exact differs (rebinds'.unique rebinds).1
      · exact ⟨0, fun other _ => interfaceOf_observe fun binding rebinds' =>
          rebinds ⟨other, binding, rebinds'⟩⟩
    · intro id binding rebinds
      cases rebinds with
      | deleted server display deletes first => simp [server]
      | created client isKnown target creates argument => simp [client]
      | bound client registry binds argument named => simp [client]
    · intro creation isKnown client target creates cut
      refine observe_of_not_rebinds fun id binding rebinds => ?_
      obtain ⟨argument, -⟩ := (rebinds_iff_of_creation isKnown client target creates).1 rebinds
      rw [List.getElem?_eq_none cut] at argument
      cases argument
    · intro client registry unreadable
      refine observe_of_not_rebinds fun id binding rebinds => ?_
      obtain ⟨-, argument, interface, named, -⟩ :=
        (rebinds_iff_of_registry client registry).1 rebinds
      obtain cut | noText := unreadable
      · rw [List.getElem?_eq_none cut] at argument
        cases argument
      · rw [noText] at named
        cases named
  · intro connection registry global version id interface
    have fits := Message.exists_build_iff .fromClient connection registry bindOpcode
      (bindArguments global interface version id)
    rw [length_bindArguments] at fits
    refine ⟨fits, fun m built isRegistry => ?_⟩
    have size := fits.1 ⟨m, built⟩
    obtain ⟨client, target, binds, args⟩ := Message.build_spec built
    have carries : boundBy m = some (id, interface) := by
      refine boundBy_of_built args ?_
      rw [List.length_append, List.length_singleton]
      omega
    obtain ⟨argument, named⟩ := boundBy_eq_some_iff.1 carries
    have rebinds : objects.Rebinds m id (some interface) :=
      .bound client (target ▸ isRegistry) binds argument named
    refine ⟨rebinds.interfaceOf_eq, fun other differs => interfaceOf_observe fun _ rebinds' =>
      differs (rebinds'.unique rebinds).1, fun between kept later toId => ?_⟩
    have still : ((objects.observe m).after between).interfaceOf later.object = some interface := by
      rw [toId, interfaceOf_after kept]
      exact rebinds.interfaceOf_eq
    exact ⟨_, resolve_eq_some still, fun name => Interface.method?_eq_some_iff⟩

namespace Example

def connected : ObjectMap :=
  ⟨[(1, "wl_display"), (2, "wl_registry")]⟩

/-- The registry binds a global to its own id, under a name that ends in a null of its own. -/
def bindsOver : Message :=
  Message.Example.message .fromClient 2 0 [9, 7, 0xc374a9c3, 0x000000a9, 1, 2]

/-- The same request without the last word, and with a byte in the name that is no text. -/
def unreadable : List Message :=
  [Message.Example.message .fromClient 2 0 [9, 7, 0xc374a9c3, 0x000000a9, 1],
    Message.Example.message .fromClient 2 0 [9, 7, 0xc374a9ff, 0x000000a9, 1, 2]]

/-- The id of the registry is rebound to the name, the null included, and a request to it has no
method any more; the display keeps its name.  Requests that cannot be read change nothing. -/
theorem registry_bound_over :
    Message.build .fromClient ⟨1, none⟩ 2 bindOpcode (bindArguments 9 "été\x00" 1 2) =
        .ok bindsOver ∧
      connected.interfaceOf 2 = some "wl_registry" ∧
      (connected.observe bindsOver).interfaceOf 2 = some "été\x00" ∧
      (connected.observe bindsOver).interfaceOf 1 = some "wl_display" ∧
      (∃ method, (connected.observe bindsOver).resolve bindsOver = some ⟨"été\x00", method⟩ ∧
        method ≠ some "bind") ∧
      ∀ m ∈ unreadable, m.direction = .fromClient ∧
        (m.args.length ≤ idIndex m.args ∨ carriedName? m.args = none) ∧
        connected.observe m = connected := by
  have built : Message.build .fromClient ⟨1, none⟩ 2 bindOpcode (bindArguments 9 "été\x00" 1 2) =
      .ok bindsOver := rfl
  have registry : connected.interfaceOf 2 = some "wl_registry" := by decide
  obtain ⟨each, requests⟩ := update_law connected
  obtain ⟨bound, others, resolved⟩ :=
    (requests ⟨1, none⟩ 2 9 1 2 "été\x00").2 bindsOver built registry
  obtain ⟨method, known, named⟩ := resolved [] (by simp) bindsOver rfl
  refine ⟨built, registry, bound, (others 1 (by decide)).trans (by decide), ⟨method, known, ?_⟩, ?_⟩
  · intro bind
    obtain ⟨i, isKnown, same, -⟩ := (named "bind").1 bind
    have noSuch : ∀ i ∈ Interface.known, i.name ≠ "été\x00" := by decide
    exact noSuch i isKnown same
  · have cut : ∀ m ∈ unreadable, m.direction = .fromClient ∧ m.object = 2 ∧
        (m.args.length ≤ idIndex m.args ∨ carriedName? m.args = none) := by decide
    intro m member
    obtain ⟨client, target, reason⟩ := cut m member
    exact ⟨client, reason, (each m).2.2.2.2.2 client (target ▸ registry) reason⟩

end Example

end ObjectMap

end WaylandProxy
