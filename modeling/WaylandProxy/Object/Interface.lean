/-
# Object.Interface -- what the proxy knows about interfaces

Two tables.  `Interface.known` lists the interfaces whose requests and events have names;
the position of a name is its opcode.  `Creation.known` lists the requests that give a new
object an id: the interface and opcode of the request, the argument that carries
the id, and the interface of the new object.  Binding a global is not among them,
because there the interface travels as an argument.
-/
import WaylandProxy.Wire.Message

namespace WaylandProxy

set_option autoImplicit false

/-- An interface with its named requests and events, in the order of their
opcodes. -/
structure Interface where
  name : String
  requests : List String
  events : List String

namespace Interface

/-- The interfaces whose methods have names. -/
def known : List Interface := [
  { name := "wl_display"
    requests := ["sync", "get_registry"]
    events := ["error", "delete_id"] },
  { name := "wl_registry"
    requests := ["bind"]
    events := ["global", "global_remove"] },
  { name := "wl_callback"
    requests := []
    events := ["done"] },
  { name := "wl_compositor"
    requests := ["create_surface", "create_region"]
    events := [] },
  { name := "wl_shm"
    requests := ["create_pool", "release"]
    events := ["format"] },
  { name := "wl_shm_pool"
    requests := ["create_buffer", "destroy", "resize"]
    events := [] },
  { name := "wl_buffer"
    requests := ["destroy"]
    events := ["release"] },
  { name := "wl_region"
    requests := ["destroy", "add", "subtract"]
    events := [] },
  { name := "wl_surface"
    requests := ["destroy", "attach", "damage", "frame", "set_opaque_region", "set_input_region",
      "commit", "set_buffer_transform", "set_buffer_scale", "damage_buffer", "offset"]
    events := ["enter", "leave", "preferred_buffer_scale", "preferred_buffer_transform"] },
  { name := "wl_seat"
    requests := ["get_pointer", "get_keyboard", "get_touch", "release"]
    events := ["capabilities", "name"] },
  { name := "wl_pointer"
    requests := ["set_cursor", "release"]
    events := ["enter", "leave", "motion", "button", "axis", "frame", "axis_source", "axis_stop",
      "axis_discrete", "axis_value120", "axis_relative_direction"] },
  { name := "wl_keyboard"
    requests := ["release"]
    events := ["keymap", "enter", "leave", "key", "modifiers", "repeat_info"] },
  { name := "xdg_wm_base"
    requests := ["destroy", "create_positioner", "get_xdg_surface", "pong"]
    events := ["ping"] },
  { name := "xdg_surface"
    requests := ["destroy", "get_toplevel", "get_popup", "set_window_geometry", "ack_configure"]
    events := ["configure"] },
  { name := "xdg_toplevel"
    requests := ["destroy", "set_parent", "set_title", "set_app_id", "show_window_menu", "move",
      "resize", "set_max_size", "set_min_size", "set_maximized", "unset_maximized",
      "set_fullscreen", "unset_fullscreen", "set_minimized"]
    events := ["configure", "close", "configure_bounds", "wm_capabilities"] }]

def find? (name : String) : Option Interface :=
  known.find? fun i => i.name = name

/-- The names of what one peer can say to objects of the interface. -/
def methods (i : Interface) : Direction → List String
  | .fromClient => i.requests
  | .fromServer => i.events

/-- The name of a request or event, if the interface and the opcode are known. -/
def method? (interface : String) (direction : Direction) (opcode : UInt16) : Option String :=
  (find? interface).bind fun i => (i.methods direction)[opcode.toNat]?

end Interface

/-- A request that gives a new object an id. -/
structure Creation where
  interface : String
  opcode : UInt16
  /-- The position of the new id among the arguments. -/
  argument : Nat
  /-- The interface of the new object. -/
  created : String
  deriving DecidableEq, Repr

namespace Creation

/-- The requests that give a new object an id. -/
def known : List Creation := [
  ⟨"wl_display", 0, 0, "wl_callback"⟩,
  ⟨"wl_display", 1, 0, "wl_registry"⟩,
  ⟨"wl_compositor", 0, 0, "wl_surface"⟩,
  ⟨"wl_compositor", 1, 0, "wl_region"⟩,
  ⟨"wl_surface", 3, 0, "wl_callback"⟩,
  ⟨"wl_seat", 0, 0, "wl_pointer"⟩,
  ⟨"wl_seat", 1, 0, "wl_keyboard"⟩,
  ⟨"wl_seat", 2, 0, "wl_touch"⟩,
  ⟨"wl_shm", 0, 0, "wl_shm_pool"⟩,
  ⟨"wl_shm_pool", 0, 0, "wl_buffer"⟩,
  ⟨"xdg_wm_base", 2, 0, "xdg_surface"⟩,
  ⟨"xdg_surface", 1, 0, "xdg_toplevel"⟩]

/-- The creation that a request is, if it is one. -/
def find? (interface : String) (opcode : UInt16) : Option Creation :=
  known.find? fun c => c.interface = interface ∧ c.opcode = opcode

end Creation

end WaylandProxy
