/-
# Serial.Ring -- pending sync callbacks, oldest first

The ids of sync callbacks wait in a ring of sixty-four slots: `head` is the slot of the
oldest, `size` counts them, and the next one goes `size` slots further on, around the
end.  `toList` is the queue that the ring stands for.  A full ring refuses another id
and stays as it is.

A slot is found by an index taken around the end (`slot`), and there are never more ids
than slots (`size_le`), so no operation can leave the ring.
-/
import WaylandProxy.Fault

namespace WaylandProxy

set_option autoImplicit false

def SyncRing.capacity : Nat := 64

structure SyncRing where
  slots : Vector UInt32 SyncRing.capacity
  /-- The slot of the oldest id. -/
  head : Fin SyncRing.capacity
  /-- How many ids there are. -/
  size : Nat
  size_le : size ≤ SyncRing.capacity
  deriving DecidableEq

namespace SyncRing

def empty : SyncRing :=
  ⟨Vector.replicate capacity 0, ⟨0, by decide⟩, 0, by decide⟩

/-- The slot that lies `offset` after the head, around the end. -/
def slot (r : SyncRing) (offset : Nat) : Fin capacity :=
  ⟨(r.head.val + offset) % capacity, Nat.mod_lt _ (by decide)⟩

/-- The ids in the ring, oldest first. -/
def toList (r : SyncRing) : List UInt32 :=
  (List.range r.size).map fun offset => r.slots.get (r.slot offset)

def isEmpty (r : SyncRing) : Bool :=
  r.size = 0

def isFull (r : SyncRing) : Bool :=
  r.size = capacity

/-- The ring with one more id at the end. -/
def push (r : SyncRing) (id : UInt32) : Except Fault SyncRing :=
  if room : r.size < capacity then
    .ok { r with
      slots := r.slots.set (r.slot r.size) id
      size := r.size + 1
      size_le := room }
  else .error (.overflow capacity)

def oldest? (r : SyncRing) : Option UInt32 :=
  if r.isEmpty then none else some (r.slots.get (r.slot 0))

def pop (r : SyncRing) : Option (UInt32 × SyncRing) :=
  r.oldest?.map fun id =>
    (id, { r with
      head := r.slot 1
      size := r.size - 1
      size_le := Nat.le_trans (Nat.pred_le _) r.size_le })

end SyncRing

end WaylandProxy
