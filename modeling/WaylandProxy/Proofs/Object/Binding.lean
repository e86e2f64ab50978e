/-
# Proofs.Object.Binding -- what the messages so far have made of an id

What the map says of an id is what the last message left there that bound it or freed it.  Of any
kind of interface this reads: since a message bound the id to an interface of the kind, or since
the start if it was one there, no message has freed it or bound it to another
(`isOf_observe_iff`, `since_iff`).

Which messages these are is read off their names.  No two methods of an interface have a name in
common (`Interface.method?_inj`), so an id is freed by the display's `delete_id`
(`freed?_eq_some_iff`) and bound by the registry's `bind` or by one of the known creations
(`bound?_eq_some_iff`), and by nothing else.
-/
import WaylandProxy.Proofs.Machine
import WaylandProxy.Proofs.Object.Lifetime

namespace WaylandProxy

set_option autoImplicit false

/-! ## Names of methods -/

/-- No two methods of an interface have a name in common. -/
theorem Interface.method?_inj {interface name : String} {direction direction' : Direction}
    {opcode opcode' : UInt16} (first : method? interface direction opcode = some name)
    (second : method? interface direction' opcode' = some name) :
    direction = direction' ∧ opcode = opcode' := by
  have distinct : ∀ i ∈ known, (i.requests ++ i.events).Nodup := by decide
  obtain ⟨i, found, here⟩ := Option.bind_eq_some_iff.1 first
  obtain ⟨i', found', there⟩ := Option.bind_eq_some_iff.1 second
  cases found.symm.trans found'
  obtain ⟨requests, events, disjoint⟩ :=
    List.nodup_append.1 (distinct i (List.mem_of_find?_eq_some found))
  have same (names : List String) (nodup : names.Nodup) (here : names[opcode.toNat]? = some name)
      (there : names[opcode'.toNat]? = some name) : opcode = opcode' := by
    obtain ⟨inside, -⟩ := List.getElem?_eq_some_iff.1 here
    exact UInt16.toNat_inj.1 ((List.getElem?_inj inside nodup).1 (here.trans there.symm))
  cases direction <;> cases direction'
  case fromServer.fromServer => exact ⟨rfl, same i.events events here there⟩
  case fromClient.fromClient => exact ⟨rfl, same i.requests requests here there⟩
  case fromServer.fromClient =>
    exact absurd rfl (disjoint name (List.mem_of_getElem? there) name (List.mem_of_getElem? here))
  case fromClient.fromServer =>
    exact absurd rfl (disjoint name (List.mem_of_getElem? here) name (List.mem_of_getElem? there))

namespace Creation

variable {interface : String} {opcode : UInt16} {creation : Creation}

def name? (creation : Creation) : Option String :=
  Interface.method? creation.interface .fromClient creation.opcode

theorem name?_of_known (isKnown : creation ∈ known) : ∃ name, creation.name? = some name := by
  have each : ∀ creation ∈ known, creation.name?.isSome := by decide
  exact Option.isSome_iff_exists.1 (each creation isKnown)

/-- A known creation is found by its interface and its opcode. -/
theorem find?_eq_some_iff :
    find? interface opcode = some creation ↔
      creation ∈ known ∧ creation.interface = interface ∧ creation.opcode = opcode := by
  constructor
  · intro found
    exact ⟨List.mem_of_find?_eq_some found, by simpa using List.find?_some found⟩
  · have each : ∀ creation ∈ known, find? creation.interface creation.opcode = some creation := by
      decide
    rintro ⟨isKnown, rfl, rfl⟩
    exact each creation isKnown

end Creation

namespace ObjectMap

variable {objects : ObjectMap} {m : Message} {id : UInt32} {interface name : String}

/-- A message is known by a name exactly if it goes the way and has the opcode of the name. -/
theorem resolve_eq_some_iff {direction : Direction} {opcode : UInt16}
    (named : Interface.method? interface direction opcode = some name) :
    objects.resolve m = some ⟨interface, some name⟩ ↔
      objects.interfaceOf m.object = some interface ∧ m.direction = direction ∧
        m.opcode = opcode := by
  unfold resolve
  rw [Option.map_eq_some_iff]
  constructor
  · rintro ⟨other, known, same⟩
    obtain ⟨rfl, method⟩ := Resolved.mk.inj same
    exact ⟨known, Interface.method?_inj method named⟩
  · rintro ⟨known, rfl, rfl⟩
    exact ⟨interface, known, by rw [named]⟩

/-- **An id is freed by the display**, and by no one else. -/
theorem freed?_eq_some_iff :
    objects.freed? m = some id ↔
      objects.resolve m = some ⟨"wl_display", some "delete_id"⟩ ∧ m.args.head? = some id := by
  have named : Interface.method? "wl_display" .fromServer deleteIdOpcode = some "delete_id" := by
    decide
  rw [resolve_eq_some_iff named]
  unfold freed? freedByEvent
  cases m.direction with
  | fromClient => simp
  | fromServer =>
      cases objects.interfaceOf m.object with
      | none => simp
      | some interface =>
          simp only [Option.bind_some, Option.some.injEq, true_and]
          split <;> simp_all

theorem boundByRequest_eq_some_iff {target : String} :
    boundByRequest target m = some (id, interface) ↔
      (target = "wl_registry" ∧ m.opcode = bindOpcode ∧ boundBy m = some (id, interface)) ∨
      ∃ creation ∈ Creation.known, creation.interface = target ∧ creation.opcode = m.opcode ∧
        creation.created = interface ∧ m.args[creation.argument]? = some id := by
  have noBind : ∀ creation ∈ Creation.known, creation.interface ≠ "wl_registry" := by decide
  unfold boundByRequest
  split
  · rename_i bind
    constructor
    · exact fun carries => .inl ⟨bind.1, bind.2, carries⟩
    · rintro (⟨-, -, carries⟩ | ⟨creation, isKnown, rfl, -⟩)
      · exact carries
      · exact absurd bind.1 (noBind creation isKnown)
  · rename_i other
    constructor
    · intro made
      obtain ⟨creation, found, made⟩ := Option.bind_eq_some_iff.1 made
      obtain ⟨new, has, same⟩ := Option.map_eq_some_iff.1 made
      obtain ⟨rfl, created⟩ := Prod.mk.inj same
      obtain ⟨isKnown, same, opcode⟩ := Creation.find?_eq_some_iff.1 found
      exact .inr ⟨creation, isKnown, same, opcode, created, has⟩
    · rintro (⟨registry, bind, -⟩ | ⟨creation, isKnown, same, opcode, rfl, has⟩)
      · exact absurd ⟨registry, bind⟩ other
      · rw [Creation.find?_eq_some_iff.2 ⟨isKnown, same, opcode⟩, Option.bind_some, has]
        rfl

theorem bound?_eq_some_iff_request :
    objects.bound? m = some (id, interface) ↔
      m.direction = .fromClient ∧ ∃ target, objects.interfaceOf m.object = some target ∧
        boundByRequest target m = some (id, interface) := by
  unfold bound?
  cases m.direction with
  | fromServer => simp
  | fromClient => simp [Option.bind_eq_some_iff]

/-- **An id is bound by the registry or by a known creation**, and by no other request. -/
theorem bound?_eq_some_iff :
    objects.bound? m = some (id, interface) ↔
      (objects.resolve m = some ⟨"wl_registry", some "bind"⟩ ∧
        boundBy m = some (id, interface)) ∨
      ∃ creation ∈ Creation.known, objects.resolve m = some ⟨creation.interface, creation.name?⟩ ∧
        creation.created = interface ∧ m.args[creation.argument]? = some id := by
  have named : Interface.method? "wl_registry" .fromClient bindOpcode = some "bind" := by decide
  rw [bound?_eq_some_iff_request]
  constructor
  · rintro ⟨client, target, known, made⟩
    obtain ⟨rfl, opcode, carries⟩ | ⟨creation, isKnown, rfl, opcode, created, has⟩ :=
      boundByRequest_eq_some_iff.1 made
    · exact .inl ⟨(resolve_eq_some_iff named).2 ⟨known, client, opcode⟩, carries⟩
    · obtain ⟨name, isNamed⟩ := Creation.name?_of_known isKnown
      refine .inr ⟨creation, isKnown, ?_, created, has⟩
      rw [isNamed]
      exact (resolve_eq_some_iff isNamed).2 ⟨known, client, opcode.symm⟩
  · rintro (⟨asks, carries⟩ | ⟨creation, isKnown, asks, created, has⟩)
    · obtain ⟨known, client, opcode⟩ := (resolve_eq_some_iff named).1 asks
      exact ⟨client, _, known, boundByRequest_eq_some_iff.2 (.inl ⟨rfl, opcode, carries⟩)⟩
    · obtain ⟨name, isNamed⟩ := Creation.name?_of_known isKnown
      rw [isNamed] at asks
      obtain ⟨known, client, opcode⟩ := (resolve_eq_some_iff isNamed).1 asks
      exact ⟨client, _, known, boundByRequest_eq_some_iff.2
        (.inr ⟨creation, isKnown, rfl, opcode.symm, created, has⟩)⟩

/-! ## What a message does to an id -/

/-- The object is of a kind of interface. -/
def IsOf (objects : ObjectMap) (kind : String → Prop) (id : UInt32) : Prop :=
  ∃ interface, objects.interfaceOf id = some interface ∧ kind interface

/-- The request binds the id to an interface of a kind. -/
def Binds (objects : ObjectMap) (kind : String → Prop) (m : Message) (id : UInt32) : Prop :=
  ∃ interface, objects.bound? m = some (id, interface) ∧ kind interface

variable {kind : String → Prop}

/-- An id is of a kind after a message if that bound it to one, or it was of the kind and the
message neither freed it nor bound it to another. -/
theorem isOf_observe_iff :
    (objects.observe m).IsOf kind id ↔
      objects.Binds kind m id ∨
        (objects.IsOf kind id ∧
          ¬ (objects.freed? m = some id ∨ objects.Binds (fun name => ¬ kind name) m id)) := by
  unfold IsOf Binds
  rw [observe_eq]
  cases bound : objects.bound? m with
  | none =>
      cases freed : objects.freed? m with
      | none => simp
      | some gone =>
          by_cases same : id = gone
          · simp [interfaceOf_erase, same]
          · simp [interfaceOf_erase, same, Ne.symm same]
  | some made =>
      obtain ⟨new, created⟩ := made
      have unfreed : objects.freed? m = none := by
        unfold bound? at bound
        unfold freed?
        cases direction : m.direction <;> simp_all
      by_cases same : id = new
      · by_cases isKind : kind created <;> simp [interfaceOf_insert, same, isKind]
      · simp [interfaceOf_insert, same, Ne.symm same, unfreed]

/-! ## Histories -/

def after (start : ObjectMap) (history : List Message) : ObjectMap :=
  history.foldl observe start

theorem after_concat (start : ObjectMap) (history : List Message) (m : Message) :
    start.after (history ++ [m]) = (start.after history).observe m := by
  unfold after
  rw [List.foldl_append]
  rfl

/-- Since a message that `gains`, or since the start if it holds there, no message `loses`; each
is judged by the map at its time. -/
def Since (start : ObjectMap) (holds : ObjectMap → Prop) (gains loses : ObjectMap → Message → Prop)
    (history : List Message) : Prop :=
  ∃ before since, history = before ++ since ∧
    (before = [] ∧ holds start ∨
      ∃ earlier m, before = earlier ++ [m] ∧ gains (start.after earlier) m) ∧
    ∀ earlier m later, since = earlier ++ m :: later →
      ¬ loses (start.after (before ++ earlier)) m

variable {start : ObjectMap} {holds : ObjectMap → Prop} {gains loses : ObjectMap → Message → Prop}

theorem since_nil : start.Since holds gains loses [] ↔ holds start := by
  constructor
  · rintro ⟨before, since, split, ⟨-, first⟩ | ⟨earlier, m, rfl, -⟩, -⟩
    · exact first
    · simp at split
  · intro first
    exact ⟨[], [], rfl, .inl ⟨rfl, first⟩, fun earlier m later split => by simp at split⟩

theorem since_concat (history : List Message) (m : Message) :
    start.Since holds gains loses (history ++ [m]) ↔
      gains (start.after history) m ∨
        (start.Since holds gains loses history ∧ ¬ loses (start.after history) m) := by
  constructor
  · rintro ⟨before, since, split, became, kept⟩
    rcases List.eq_nil_or_concat since with rfl | ⟨within, last, rfl⟩
    · -- the last message is where it began
      rw [List.append_nil] at split
      subst split
      obtain ⟨none, -⟩ | ⟨earlier, made, same, gained⟩ := became
      · simp at none
      · obtain ⟨rfl, last⟩ := List.append_inj' same rfl
        cases last
        exact .inl gained
    · rw [List.concat_eq_append, ← List.append_assoc] at split
      obtain ⟨rfl, last⟩ := List.append_inj' split rfl
      cases last
      refine .inr ⟨⟨before, within, rfl, became, ?_⟩, kept within m [] List.concat_eq_append⟩
      rintro earlier other later rfl
      exact kept earlier other (later ++ [m]) (by simp)
  · rintro (gained | ⟨⟨before, since, rfl, became, kept⟩, last⟩)
    · exact ⟨history ++ [m], [], by simp, .inr ⟨history, m, rfl, gained⟩,
        fun earlier other later split => by simp at split⟩
    · refine ⟨before, since ++ [m], by simp, became, ?_⟩
      intro earlier other later split
      obtain ⟨rfl, rfl, rfl⟩ | ⟨within, rfl, rfl⟩ := entry_of_concat split
      · exact last
      · exact kept earlier other within rfl

/-- **What holds of the map after messages** is what they have made hold since. -/
theorem since_iff
    (step : ∀ objects m, holds (observe objects m) ↔
      gains objects m ∨ (holds objects ∧ ¬ loses objects m))
    (start : ObjectMap) (history : List Message) :
    start.Since holds gains loses history ↔ holds (start.after history) := by
  induction history using List.reverseRecOn with
  | nil => exact since_nil
  | append_singleton history m ih => rw [after_concat, step, since_concat, ih]

end ObjectMap

end WaylandProxy
