/-
# Proofs.Object.Observation -- the map never reads a serial

The map of objects is shown a message after the passes have rewritten it.  That makes no
difference: the requests that create objects are none of those that echo a serial
(`Creation.find?_of_echoing`), no serial is handed out by the display, and the answer to a sync
callback is not the event that frees an id.  So whatever stands in the serial of a message, the
map after it is the same (`observe_sameBut`).
-/
import WaylandProxy.Proofs.Serial.Place

namespace WaylandProxy

set_option autoImplicit false

open Message (SameBut)

/-! ## The tables have no kind of message in common -/

/-- A request that echoes a serial creates nothing and binds nothing. -/
theorem Creation.find?_of_echoing {interface : String} {opcode : UInt16} {word : Nat}
    (echoes : SerialPlace.find? SerialPlace.echoing interface opcode = some word) :
    find? interface opcode = none ∧ interface ≠ "wl_registry" := by
  have disjoint : ∀ place ∈ SerialPlace.echoing,
      find? place.interface place.opcode = none ∧ place.interface ≠ "wl_registry" := by decide
  exact disjoint _ (SerialPlace.find?_eq_some echoes)

/-- The display hands out no serial. -/
theorem SerialPlace.issuing_ne_display {interface : String} {opcode : UInt16} {word : Nat}
    (issues : find? issuing interface opcode = some word) : interface ≠ "wl_display" := by
  have elsewhere : ∀ place ∈ issuing, place.interface ≠ "wl_display" := by decide
  exact elsewhere _ (find?_eq_some issues)

namespace ObjectMap

/-- A message that comes from nobody the map knows leaves it alone. -/
theorem observe_of_unknown {objects : ObjectMap} {m : Message}
    (unknown : objects.interfaceOf m.object = none) : objects.observe m = objects := by
  unfold observe
  rw [unknown]

theorem resolve_eq_some {objects : ObjectMap} {m : Message} {interface : String}
    (known : objects.interfaceOf m.object = some interface) :
    objects.resolve m =
      some ⟨interface, Interface.method? interface m.direction m.opcode⟩ := by
  unfold resolve
  rw [known]
  rfl

/-- A request that echoes a serial binds nothing. -/
theorem boundByRequest_of_echoing {interface : String} {m : Message} {word : Nat}
    (echoes : SerialPlace.find? SerialPlace.echoing interface m.opcode = some word) :
    boundByRequest interface m = none := by
  obtain ⟨creates, binds⟩ := Creation.find?_of_echoing echoes
  unfold boundByRequest
  rw [if_neg fun bind => binds bind.1, creates]
  rfl

/-- An event that carries a serial is not the one that frees an id. -/
theorem not_deletes_of_isSerial {t : Tracker} {interface : String} {method : Option String}
    {m : Message} {word : Nat} (server : m.direction = .fromServer)
    (serial : t.IsSerial (some ⟨interface, method⟩) m word) :
    ¬ (interface = "wl_display" ∧ m.opcode = deleteIdOpcode) := by
  unfold Tracker.IsSerial at serial
  simp only [server] at serial
  rintro ⟨display, deletes⟩
  obtain ⟨r, same, issues⟩ | ⟨done, -, -⟩ := serial
  · cases same
    exact SerialPlace.issuing_ne_display issues display
  · rw [done] at deletes
    exact absurd deletes (by decide)

/-- **The map never reads a serial.**  Two messages that differ in nothing but a serial lead to
the same map. -/
theorem observe_sameBut {objects : ObjectMap} {t : Tracker} {m after : Message}
    {word : Option Nat} (same : SameBut word m after)
    (serial : ∀ index, word = some index → t.IsSerial (objects.resolve m) m index) :
    objects.observe after = objects.observe m := by
  cases word with
  | none => rw [same.eq_of_none]
  | some index =>
      have serial := serial index rfl
      have argument : ∀ other, some index = some other → Message.firstArgument ≤ other :=
        fun other here => Option.some.inj here ▸ serial.argument
      have object := same.object_eq argument
      have opcode := same.opcode_eq argument
      cases known : objects.interfaceOf m.object with
      | none => rw [observe_of_unknown known, observe_of_unknown (object ▸ known)]
      | some interface =>
          rw [resolve_eq_some known] at serial
          unfold observe
          simp only [object, known, same.direction]
          cases direction : m.direction with
          | fromClient =>
              have echoes := serial
              unfold Tracker.IsSerial at echoes
              simp only [direction] at echoes
              obtain ⟨r, isResolved, inTable⟩ := echoes
              cases isResolved
              rw [boundByRequest_of_echoing inTable,
                boundByRequest_of_echoing (opcode.symm ▸ inTable)]
          | fromServer =>
              have keeps := not_deletes_of_isSerial direction serial
              have nothing : freedByEvent interface m = none := if_neg keeps
              have alike : freedByEvent interface after = none := if_neg (opcode ▸ keeps)
              rw [nothing, alike]

end ObjectMap

end WaylandProxy
