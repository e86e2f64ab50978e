/-
# Proofs.Serial.Queue -- the ring under any sequence of calls

A ring is asked to take an id at its end or to give out the oldest one, and says what became of
it.  What it said alone makes a queue: an id that was taken goes to the end, and whatever was
asked for comes off the front (`Answer.queue`).  Nothing of the slots goes into that queue, neither
the slot of the oldest id nor what was left behind in slots that are free again.

One call does to the ring what it does to the queue (`step_serves`), and so after any number of
calls, with the indices gone around the end any number of times, the ring stands for the queue of
its answers (`keeps_run`): it refuses exactly when sixty-four ids wait, and gives the ids out in
the order in which it took them (`bounded_fifo`).
-/
import WaylandProxy.Proofs.Machine
import WaylandProxy.Proofs.Serial.Ring

namespace WaylandProxy

set_option autoImplicit false

namespace SyncRing

inductive Call where
  /-- Take an id at the end. -/
  | push (id : UInt32)
  /-- Give out the oldest id. -/
  | pop
  deriving DecidableEq, Repr

inductive Answer where
  /-- The id was taken. -/
  | accepted (id : UInt32)
  | refused (fault : Fault)
  /-- The id that was given out, if there was one. -/
  | popped (id : Option UInt32)
  deriving DecidableEq, Repr

/-- A ring as a machine that answers calls; one that refuses stays as it is. -/
def machine : Machine SyncRing Call Answer where
  step r
    | .push id =>
      match r.push id with
      | .ok after => after
      | .error _ => r
    | .pop =>
      match r.pop with
      | some (_, after) => after
      | none => r
  out r
    | .push id =>
      match r.push id with
      | .ok _ => [.accepted id]
      | .error fault => [.refused fault]
    | .pop => [.popped (r.pop.map Prod.fst)]

namespace Answer

def apply (queue : List UInt32) : Answer → List UInt32
  | .accepted id => queue ++ [id]
  | .refused _ => queue
  | .popped _ => queue.tail

def queue (answers : List Answer) : List UInt32 :=
  answers.foldl apply []

def accepted? : Answer → Option UInt32
  | .accepted id => some id
  | _ => none

def given? : Answer → Option UInt32
  | .popped id => id
  | _ => none

def taken (answers : List Answer) : List UInt32 :=
  answers.filterMap accepted?

def given (answers : List Answer) : List UInt32 :=
  answers.filterMap given?

theorem queue_concat (answers : List Answer) (answer : Answer) :
    queue (answers ++ [answer]) = apply (queue answers) answer :=
  List.foldl_append

theorem taken_concat (answers : List Answer) (answer : Answer) :
    taken (answers ++ [answer]) = taken answers ++ answer.accepted?.toList := by
  cases answer <;> simp [taken, accepted?]

theorem given_concat (answers : List Answer) (answer : Answer) :
    given (answers ++ [answer]) = given answers ++ answer.given?.toList := by
  rcases answer with id | fault | _ | id <;> simp [given, given?]

end Answer

/-! ## One call -/

/-- What one call makes of a ring, in terms of the queue that it stands for. -/
inductive Serves (r : SyncRing) : Call → Answer → SyncRing → Prop where
  /-- There is room, and the id goes to the end. -/
  | accepts (id : UInt32) (after : SyncRing) (room : r.toList.length < capacity)
      (ids : after.toList = r.toList ++ [id]) (head : after.head = r.head) :
      Serves r (.push id) (.accepted id) after
  /-- There is no room. -/
  | refuses (id : UInt32) (full : r.toList.length = capacity) :
      Serves r (.push id) (.refused (.overflow capacity)) r
  /-- The oldest id comes off the front. -/
  | gives (id : UInt32) (after : SyncRing) (ids : r.toList = id :: after.toList)
      (head : after.head = r.slot 1) : Serves r .pop (.popped (some id)) after
  /-- There is nothing to give out. -/
  | givesNothing (nothing : r.toList = []) : Serves r .pop (.popped none) r

theorem head_of_push {r after : SyncRing} {id : UInt32} (pushed : r.push id = .ok after) :
    after.head = r.head := by
  unfold push at pushed
  split at pushed
  · cases pushed
    rfl
  · cases pushed

theorem head_of_pop {r after : SyncRing} {id : UInt32} (popped : r.pop = some (id, after)) :
    after.head = r.slot 1 := by
  obtain ⟨oldest, -, same⟩ := Option.map_eq_some_iff.1 popped
  cases same
  rfl

/-- A push finds room and goes to the end, or the ring is full and refuses. -/
theorem push_cases (r : SyncRing) (id : UInt32) :
    (∃ after, r.push id = .ok after ∧ r.toList.length < capacity ∧
      after.toList = r.toList ++ [id]) ∨
    r.push id = .error (.overflow capacity) ∧ r.toList.length = capacity := by
  rw [length_toList]
  by_cases room : r.size < capacity
  · obtain ⟨after, pushed, ids⟩ := push_eq_ok room id
    exact .inl ⟨after, pushed, room, ids⟩
  · exact .inr ⟨push_eq_error room id, Nat.le_antisymm r.size_le (Nat.not_lt.1 room)⟩

/-- A ring gives out nothing exactly if its queue is empty. -/
theorem pop_eq_none_iff (r : SyncRing) : r.pop = none ↔ r.toList = [] := by
  unfold pop
  rw [Option.map_eq_none_iff, oldest?_eq_head?, List.head?_eq_none_iff]

/-- **One call.** -/
theorem step_serves (r : SyncRing) (call : Call) :
    ∃ answer, machine.out r call = [answer] ∧ r.Serves call answer (machine.step r call) := by
  cases call with
  | push id =>
      obtain ⟨after, pushed, room, ids⟩ | ⟨refused, full⟩ := r.push_cases id
      · refine ⟨.accepted id, by simp only [machine, pushed], ?_⟩
        simp only [machine, pushed]
        exact .accepts id after room ids (head_of_push pushed)
      · refine ⟨.refused (.overflow capacity), by simp only [machine, refused], ?_⟩
        simp only [machine, refused]
        exact .refuses id full
  | pop =>
      cases popped : r.pop with
      | none =>
          refine ⟨.popped none, by simp [machine, popped], ?_⟩
          simp only [machine, popped]
          exact .givesNothing ((pop_eq_none_iff r).1 popped)
      | some out =>
          obtain ⟨id, after⟩ := out
          refine ⟨.popped (some id), by simp [machine, popped], ?_⟩
          simp only [machine, popped]
          exact .gives id after (toList_of_pop popped) (head_of_pop popped)

section Serves

variable {r after : SyncRing} {call : Call} {answer : Answer}

/-- The ring after a call stands for the queue after its answer. -/
theorem Serves.toList_eq (serves : r.Serves call answer after) :
    after.toList = answer.apply r.toList := by
  cases serves with
  | accepts id after room ids head => exact ids
  | refuses id full => rfl
  | gives id after ids head =>
      rw [ids]
      rfl
  | givesNothing nothing =>
      rw [nothing]
      rfl

/-- An id that is taken goes behind all that wait, and one that is given out stood before them. -/
theorem Serves.inOrder (serves : r.Serves call answer after) :
    r.toList ++ answer.accepted?.toList = answer.given?.toList ++ after.toList := by
  cases serves with
  | accepts id after room ids head => exact ids.symm
  | refuses id full => exact List.append_nil _
  | gives id after ids head => exact (List.append_nil _).trans ids
  | givesNothing nothing => exact List.append_nil _

/-- The first slot goes one further with every id that is given out, around the end. -/
theorem Serves.head_eq (serves : r.Serves call answer after) :
    after.head.val = (r.head.val + answer.given?.toList.length) % capacity := by
  have stays : r.head.val = (r.head.val + 0) % capacity := (Nat.mod_eq_of_lt r.head.isLt).symm
  cases serves with
  | accepts id after room ids head =>
      rw [head]
      exact stays
  | refuses id full => exact stays
  | gives id after ids head =>
      rw [head]
      rfl
  | givesNothing nothing => exact stays

end Serves

/-! ## Any number of calls -/

/-- The ring stands for the queue of its answers, and its first slot is as far around as ids were
given out. -/
structure Keeps (r : SyncRing) (answers : List Answer) : Prop where
  ids : r.toList = Answer.queue answers
  inOrder : Answer.taken answers = Answer.given answers ++ r.toList
  head : r.head.val = (Answer.given answers).length % capacity

theorem keeps_empty : empty.Keeps [] where
  ids := toList_empty
  inOrder := toList_empty.symm
  head := rfl

theorem Keeps.serve {r after : SyncRing} {answers : List Answer} {call : Call} {answer : Answer}
    (keeps : r.Keeps answers) (serves : r.Serves call answer after) :
    after.Keeps (answers ++ [answer]) where
  ids := by rw [Answer.queue_concat, ← keeps.ids, serves.toList_eq]
  inOrder := by
    rw [Answer.taken_concat, Answer.given_concat, keeps.inOrder, List.append_assoc,
      List.append_assoc, serves.inOrder]
  head := by
    rw [Answer.given_concat, List.length_append, serves.head_eq, keeps.head, Nat.mod_add_mod]

/-- After any calls the ring stands for the queue of its answers. -/
theorem keeps_run (calls : List Call) :
    (machine.run empty calls).Keeps (machine.outputs empty calls) := by
  refine machine.holds_after Keeps keeps_empty (fun r answers call keeps => ?_) calls
  obtain ⟨answer, said, serves⟩ := r.step_serves call
  rw [said]
  exact keeps.serve serves

/-- **A ring is a queue of at most sixty-four ids.**  After any calls on a new ring its observers
agree with the queue that its answers make.  It takes another id exactly if fewer than sixty-four
wait, and then at the end; a refusal is an overflow and changes nothing.  It gives out the first
id and keeps the rest, or nothing if none waits.  All ids that it ever took are those that it gave
out, in the same order, and after them those that still wait. -/
theorem bounded_fifo (calls : List Call) :
    let r := machine.run empty calls
    let answers := machine.outputs empty calls
    let queue := Answer.queue answers
    (r.head.val < 64 ∧ r.size ≤ 64 ∧ r.head.val = (Answer.given answers).length % 64) ∧
      (r.size = queue.length ∧ r.toList = queue ∧ r.oldest? = queue.head? ∧
        (r.isEmpty = true ↔ queue = []) ∧ (r.isFull = true ↔ queue.length = 64)) ∧
      (∀ id, (∃ fault, r.push id = .error fault) ↔ queue.length = 64) ∧
      (∀ id fault, r.push id = .error fault →
        fault.code = "CORRELATION_OVERFLOW" ∧ machine.step r (.push id) = r) ∧
      (∀ id after, r.push id = .ok after → after.toList = queue ++ [id]) ∧
      (r.pop = none ↔ queue = []) ∧
      (∀ id after, r.pop = some (id, after) → queue = id :: after.toList) ∧
      Answer.taken answers = Answer.given answers ++ queue := by
  intro r answers queue
  obtain ⟨ids, inOrder, head⟩ : r.Keeps answers := keeps_run calls
  have length : r.size = queue.length := by rw [← length_toList, ids]
  refine ⟨⟨r.head.isLt, r.size_le, head⟩, ⟨length, ids, ?_, ?_, ?_⟩, ?_, ?_, ?_, ?_, ?_, ?_⟩
  · rw [oldest?_eq_head?, ids]
  · rw [isEmpty, decide_eq_true_eq, length, List.length_eq_zero_iff]
  · rw [isFull, decide_eq_true_eq, length]
    rfl
  · intro id
    obtain ⟨after, pushed, room, -⟩ | ⟨refused, full⟩ := r.push_cases id
    · rw [ids] at room
      have below : queue.length ≠ 64 := Nat.ne_of_lt room
      simp [pushed, below]
    · rw [ids] at full
      exact ⟨fun _ => full, fun _ => ⟨_, refused⟩⟩
  · intro id fault refusal
    obtain ⟨after, pushed, -⟩ | ⟨refused, -⟩ := r.push_cases id
    · cases refusal.symm.trans pushed
    · cases refused.symm.trans refusal
      refine ⟨rfl, ?_⟩
      simp only [machine, refused]
  · intro id after pushed
    obtain ⟨other, same, -, added⟩ | ⟨refused, -⟩ := r.push_cases id
    · cases same.symm.trans pushed
      rw [added, ids]
    · cases refused.symm.trans pushed
  · rw [pop_eq_none_iff, ids]
  · intro id after popped
    exact ids.symm.trans (toList_of_pop popped)
  · rw [inOrder, ids]

namespace Example

/-- The ids from 100 on are pushed until there is no room for the last one; then the oldest comes
out, and another id goes into its slot. -/
def aroundTheEnd : List Call :=
  (List.range 65).map (fun n => .push (UInt32.ofNat (100 + n))) ++ [.pop, .push 7]

/-- The ring is full once more, its first slot is the second one, and the id that was refused
is not in it.  The next push is refused like that one, and a pop gives out what is then the oldest
id. -/
theorem full_ring_refuses_and_goes_on :
    let r := machine.run empty aroundTheEnd
    r.head.val = 1 ∧ r.size = 64 ∧ r.oldest? = some 101 ∧ 164 ∉ r.toList ∧
      (∃ fault, r.push 8 = .error fault ∧ fault.code = "CORRELATION_OVERFLOW") ∧
      ∃ after, r.pop = some (101, after) ∧ r.toList = 101 :: after.toList := by
  intro r
  have answers : machine.outputs empty aroundTheEnd =
      (List.range 64).map (fun n => .accepted (UInt32.ofNat (100 + n))) ++
        [.refused (.overflow 64), .popped (some 100), .accepted 7] := by decide +kernel
  obtain ⟨⟨-, -, head⟩, ⟨size, ids, oldest, -, -⟩, refused, refusal, -, -, popped, -⟩ :=
    bounded_fifo aroundTheEnd
  have waiting : r.oldest? = some 101 := by
    rw [oldest, answers]
    decide +kernel
  refine ⟨?_, ?_, waiting, ?_, ?_, ?_⟩
  · rw [head, answers]
    decide +kernel
  · rw [size, answers]
    decide +kernel
  · rw [ids, answers]
    decide +kernel
  · rw [answers] at refused
    obtain ⟨fault, full⟩ := (refused 8).2 (by decide +kernel)
    exact ⟨fault, full, (refusal 8 fault full).1⟩
  · obtain ⟨after, out⟩ := pop_of_oldest? waiting
    exact ⟨after, out, ids.trans (popped 101 after out)⟩

end Example

end SyncRing

end WaylandProxy
