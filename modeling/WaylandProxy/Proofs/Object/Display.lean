/-
# Proofs.Object.Display -- when the display keeps its name

The map starts with the display at id 1.  That id is no exception to the map: the display's own
`delete_id` frees it like any other, and a creation or a bind request with the id 1 binds it anew.
Such messages are well formed, so a peer that sends one takes the name away
(`deleted_and_renamed`), and from then on no request to the display and no `delete_id` is known as
one.

The name is there exactly since the start, or since the registry gave it back, if no message has
rebound the id in between to anything else (`display_named_iff`).  In particular it stays as long as
no peer names the id 1.
-/
import WaylandProxy.Proofs.Object.Update

namespace WaylandProxy

set_option autoImplicit false

namespace ObjectMap

variable {objects : ObjectMap} {m : Message} {id : UInt32} {name : String}

/-- An id has a name after a message that binds it to the name, or if it had the name and the
message does not rebind it to anything else. -/
theorem interfaceOf_observe_iff :
    (objects.observe m).interfaceOf id = some name ↔
      objects.Rebinds m id (some name) ∨
        (objects.interfaceOf id = some name ∧
          ¬ ∃ binding, binding ≠ some name ∧ objects.Rebinds m id binding) := by
  by_cases rebinds : ∃ binding, objects.Rebinds m id binding
  · obtain ⟨binding, rebinds⟩ := rebinds
    rw [rebinds.interfaceOf_eq]
    constructor
    · rintro rfl
      exact .inl rebinds
    · rintro (named | ⟨-, kept⟩)
      · exact (rebinds.unique named).2
      · by_contra differs
        exact kept ⟨binding, differs, rebinds⟩
  · have kept : ∀ binding, ¬ objects.Rebinds m id binding :=
      fun binding isBound => rebinds ⟨binding, isBound⟩
    rw [interfaceOf_observe kept]
    constructor
    · exact fun named => .inr ⟨named, fun ⟨binding, _, isBound⟩ => kept binding isBound⟩
    · rintro (isBound | ⟨named, -⟩)
      · exact absurd isBound (kept _)
      · exact named

/-- Only the registry can give the display's name to an id. -/
theorem Rebinds.registry_of_display (rebinds : objects.Rebinds m id (some "wl_display")) :
    objects.resolve m = some ⟨"wl_registry", some "bind"⟩ := by
  have named : Interface.method? "wl_registry" .fromClient bindOpcode = some "bind" := by decide
  generalize display : some "wl_display" = binding at rebinds
  cases rebinds with
  | deleted => cases display
  | created client isKnown =>
      have elsewhere : ∀ creation ∈ Creation.known, creation.created ≠ "wl_display" := by decide
      exact absurd (Option.some.inj display).symm (elsewhere _ isKnown)
  | bound client registry binds =>
      exact (resolve_eq_some_iff named).2 ⟨registry, client, binds⟩

/-- **The display's name.**  After any messages the id 1 is the display exactly if no message has
rebound it to anything else since the start, or since one that bound it to the display again; and
that one is a bind request.  Exactly then a message to the id is known as one to the display, be it
a request or an event. -/
theorem display_named_iff (history : List Message) :
    ((initial.after history).interfaceOf displayId = some "wl_display" ↔
      initial.Since (fun objects => objects.interfaceOf displayId = some "wl_display")
        (fun objects m => objects.Rebinds m displayId (some "wl_display"))
        (fun objects m => ∃ binding, binding ≠ some "wl_display" ∧
          objects.Rebinds m displayId binding) history) ∧
    (∀ earlier m later, history = earlier ++ m :: later →
      (initial.after earlier).Rebinds m displayId (some "wl_display") →
        (initial.after earlier).resolve m = some ⟨"wl_registry", some "bind"⟩) ∧
    ∀ m : Message, m.object = displayId →
      ((initial.after history).interfaceOf displayId = some "wl_display" ↔
        (initial.after history).resolve m =
          some ⟨"wl_display", Interface.method? "wl_display" m.direction m.opcode⟩) := by
  refine ⟨Iff.symm ?_, fun earlier m later _ rebinds => rebinds.registry_of_display,
    fun m toDisplay => ?_⟩
  · refine since_iff (fun objects m => ?_) initial history
    exact interfaceOf_observe_iff
  constructor
  · exact fun named => resolve_eq_some (toDisplay ▸ named)
  · intro known
    obtain ⟨interface, named, same⟩ := Option.map_eq_some_iff.1 known
    rw [toDisplay] at named
    exact named.trans (congrArg (fun r => some r.interface) same)

namespace Example

/-- The display says that its own id is free. -/
def deletesDisplay : Message :=
  Message.Example.message .fromServer 1 1 [1]

/-- The client asks for a registry, and takes the display's id for it. -/
def registryOverDisplay : Message :=
  Message.Example.message .fromClient 1 1 [1]

def sync : Message :=
  Message.Example.message .fromClient 1 0 [3]

/-- The client asks for a registry, which then gives the display's name to the id 1. -/
def namesDisplay : List Message :=
  [Message.Example.message .fromClient 1 1 [2],
    Message.Example.message .fromClient 2 0 [9, 11, 0x645f6c77, 0x6c707369, 0x00007961, 1, 1]]

/-- A name that is bound again is the name, and a request to the id 1 is known: the display is freed
and then, by a registry that was there before, bound again. -/
theorem display_named_again :
    let history := namesDisplay ++ [deletesDisplay] ++ namesDisplay.tail
    (initial.after (namesDisplay ++ [deletesDisplay])).interfaceOf displayId = none ∧
      sync.object = displayId ∧ (initial.after history).interfaceOf displayId = some "wl_display" ∧
      (initial.after history).resolve sync = some ⟨"wl_display", some "sync"⟩ := by
  have named : (initial.after (namesDisplay ++ [deletesDisplay] ++ namesDisplay.tail)).interfaceOf
      displayId = some "wl_display" := by decide
  obtain ⟨-, -, resolved⟩ :=
    display_named_iff (namesDisplay ++ [deletesDisplay] ++ namesDisplay.tail)
  exact ⟨by decide, rfl, named, (resolved sync rfl).1 named⟩

/-- Well-formed messages take the name away.  After the event of the server the display's id is
unknown, and after the request of the client it is that of a registry; a later `sync` is known as a
request to nobody, or as one to the registry. -/
theorem deleted_and_renamed :
    Message.decode .fromServer ⟨1, none⟩ [1, 0, 0, 0, 1, 0, 12, 0, 1, 0, 0, 0] =
        .ok deletesDisplay ∧
      (initial.after [deletesDisplay]).interfaceOf displayId = none ∧
      (initial.after [deletesDisplay]).resolve sync = none ∧
      Message.decode .fromClient ⟨1, none⟩ [1, 0, 0, 0, 1, 0, 12, 0, 1, 0, 0, 0] =
        .ok registryOverDisplay ∧
      (initial.after [registryOverDisplay]).interfaceOf displayId = some "wl_registry" ∧
      (initial.after [registryOverDisplay]).resolve sync = some ⟨"wl_registry", some "bind"⟩ := by
  refine ⟨rfl, ?_, ?_, rfl, ?_, ?_⟩ <;> decide

end Example

end ObjectMap

end WaylandProxy
