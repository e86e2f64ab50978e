/-
# Proofs.Serial.Ring -- the ring is a queue of at most sixty-four ids

`SyncRing.toList` is the queue that a ring stands for.  An id that is pushed goes to its end,
unless there are sixty-four already (`push_eq_ok`, `push_eq_error`); the oldest one is its head
(`oldest?_eq_head?`), and popping takes that one off (`toList_of_pop`).
-/
import WaylandProxy.Serial.Ring

namespace WaylandProxy

set_option autoImplicit false

namespace SyncRing

@[simp] theorem toList_empty : empty.toList = [] := rfl

@[simp] theorem length_toList (r : SyncRing) : r.toList.length = r.size := by
  simp [toList]

theorem slot_ne (r : SyncRing) {earlier later : Nat} (before : earlier < later)
    (inside : later < capacity) : (r.slot later).val ≠ (r.slot earlier).val := by
  simp only [slot]
  unfold capacity at *
  omega

/-- An id that finds room goes to the end of the queue. -/
theorem push_eq_ok {r : SyncRing} (room : r.size < capacity) (id : UInt32) :
    ∃ after, r.push id = .ok after ∧ after.toList = r.toList ++ [id] := by
  refine ⟨_, dif_pos room, ?_⟩
  simp only [toList, List.range_succ, List.map_append, List.map_cons, List.map_nil]
  congr 1
  · apply List.map_congr_left
    intro offset member
    have before := List.mem_range.1 member
    exact Vector.getElem_set_ne _ _ (r.slot_ne before room)
  · exact congrArg (· :: []) (Vector.getElem_set_self _)

theorem push_eq_error {r : SyncRing} (full : ¬ r.size < capacity) (id : UInt32) :
    r.push id = .error (.overflow capacity) :=
  dif_neg full

theorem oldest?_eq_head? (r : SyncRing) : r.oldest? = r.toList.head? := by
  unfold oldest? isEmpty toList
  cases size : r.size with
  | zero => rfl
  | succ n =>
      rw [List.range_succ_eq_map]
      rfl

theorem tail_range (n : Nat) : (List.range n).tail = (List.range (n - 1)).map (· + 1) := by
  cases n with
  | zero => rfl
  | succ n =>
      rw [List.range_succ_eq_map]
      rfl

/-- Seen from the next slot, every slot is one nearer. -/
theorem slot_of_next {r after : SyncRing} (next : after.head = r.slot 1) (offset : Nat) :
    after.slot offset = r.slot (offset + 1) := by
  apply Fin.ext
  simp only [slot, next]
  unfold capacity
  omega

theorem toList_of_pop {r after : SyncRing} {id : UInt32} (popped : r.pop = some (id, after)) :
    r.toList = id :: after.toList := by
  obtain ⟨oldest, isOldest, same⟩ := Option.map_eq_some_iff.1 popped
  cases same
  rw [oldest?_eq_head?] at isOldest
  obtain ⟨tail, split⟩ := List.head?_eq_some_iff.1 isOldest
  have rest : r.toList.tail = tail := by rw [split]; rfl
  rw [split, ← rest]
  congr 1
  unfold toList
  rw [← List.map_tail, tail_range, List.map_map]
  apply List.map_congr_left
  intro offset _
  exact congrArg r.slots.get (slot_of_next rfl offset).symm

theorem size_of_pop {r after : SyncRing} {id : UInt32} (popped : r.pop = some (id, after)) :
    r.size = after.size + 1 := by
  rw [← length_toList, toList_of_pop popped, List.length_cons, length_toList]

/-- There is something to pop where there is an oldest id. -/
theorem pop_of_oldest? {r : SyncRing} {id : UInt32} (oldest : r.oldest? = some id) :
    ∃ after, r.pop = some (id, after) :=
  ⟨_, Option.map_eq_some_iff.2 ⟨id, oldest, rfl⟩⟩

end SyncRing

end WaylandProxy
