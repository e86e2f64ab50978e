/-
# Serial.Table -- where serials stand

A serial is a word at a fixed place of certain messages.  `issuing` lists the events in
which the server hands one out, `echoing` the requests in which the client hands one
back.
-/
import WaylandProxy.Wire.Message

namespace WaylandProxy

set_option autoImplicit false

/-- A kind of message that carries a serial, and the index of its word. -/
structure SerialPlace where
  interface : String
  opcode : UInt16
  word : Nat
  deriving DecidableEq, Repr

namespace SerialPlace

/-- The events in which the server hands out a serial. -/
def issuing : List SerialPlace := [
  ⟨"wl_pointer", 0, 2⟩,   -- enter
  ⟨"wl_pointer", 1, 2⟩,   -- leave
  ⟨"wl_pointer", 3, 2⟩,   -- button
  ⟨"wl_keyboard", 1, 2⟩,  -- enter
  ⟨"wl_keyboard", 2, 2⟩,  -- leave
  ⟨"wl_keyboard", 3, 2⟩,  -- key
  ⟨"wl_keyboard", 4, 2⟩,  -- modifiers
  ⟨"wl_touch", 0, 2⟩,     -- down
  ⟨"wl_touch", 1, 2⟩,     -- up
  ⟨"xdg_wm_base", 0, 2⟩,  -- ping
  ⟨"xdg_surface", 0, 2⟩]  -- configure

/-- The requests in which the client hands a serial back. -/
def echoing : List SerialPlace := [
  ⟨"wl_pointer", 0, 2⟩,    -- set_cursor
  ⟨"xdg_wm_base", 3, 2⟩,   -- pong
  ⟨"xdg_surface", 4, 2⟩,   -- ack_configure
  ⟨"xdg_toplevel", 4, 3⟩,  -- show_window_menu
  ⟨"xdg_toplevel", 5, 3⟩,  -- move
  ⟨"xdg_toplevel", 6, 3⟩]  -- resize

/-- The index of the serial's word in a message of this kind. -/
def find? (table : List SerialPlace) (interface : String) (opcode : UInt16) : Option Nat :=
  (table.find? fun p => p.interface = interface ∧ p.opcode = opcode).map SerialPlace.word

end SerialPlace

end WaylandProxy
