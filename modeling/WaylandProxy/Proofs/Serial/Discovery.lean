/-
# Proofs.Serial.Discovery -- what the requests seen so far say of the client

A tracker keeps the first surface, pointer and keyboard that the client asked for, and two flags
about the surface.  All of it can be read off the requests that the tracker has seen, each with
what its object was at that time: the objects are the ids of the first requests that carried one
(`Seen.first?`), and the surface was drawn if it was damaged after it had been made and committed
after that (`Seen.Drawn`).

`Met` is the pattern behind both steps of drawing: something held of the requests so far when
another one came.  It grows by one request at a time (`met_concat`), and so the flags follow it
through damage that is committed, damage that is not, requests for other surfaces and requests
that are malformed (`Tracker.Records.observeClient`).  Events of the server and serials that are
issued touch none of it.
-/
import WaylandProxy.Proofs.Machine
import WaylandProxy.Proofs.Serial.Callback

namespace WaylandProxy

set_option autoImplicit false

/-- A request of the client, with what its object was when the request was seen. -/
structure Seen where
  resolved : Option Resolved
  message : Message

namespace Seen

/-! ## What requests say -/

/-- The id of the object that the request makes, if it is one of an interface and opcode. -/
def newId? (interface : String) (opcode : UInt16) (r : Seen) : Option UInt32 :=
  Tracker.requestedId? interface opcode r.resolved r.message

/-- The id that the first request of an interface and opcode carried, among those that carried
one. -/
def first? (interface : String) (opcode : UInt16) (log : List Seen) : Option UInt32 :=
  log.findSome? (newId? interface opcode)

/-- The request is well formed and one of these opcodes for this surface. -/
def Addresses (opcodes : List UInt16) (surface : UInt32) (r : Seen) : Prop :=
  r.message.flaw? = none ∧ r.resolved.map Resolved.interface = some "wl_surface" ∧
    r.message.opcode ∈ opcodes ∧ r.message.object = surface

/-- The request damages the surface or its buffer. -/
def Damages : UInt32 → Seen → Prop :=
  Addresses [2, 9]

def Commits : UInt32 → Seen → Prop :=
  Addresses [6]

/-- Something held of the requests so far when another one came. -/
def Met (sofar : List Seen → Prop) (next : Seen → Prop) (log : List Seen) : Prop :=
  ∃ before r after, log = before ++ r :: after ∧ sofar before ∧ next r

/-- The first surface was damaged after it was made. -/
def Damaged (surface : UInt32) : List Seen → Prop :=
  Met (fun before => first? "wl_compositor" 0 before = some surface) (Damages surface)

/-- The first surface was committed after it was damaged. -/
def Drawn (surface : UInt32) : List Seen → Prop :=
  Met (Damaged surface) (Commits surface)

theorem met_nil (sofar : List Seen → Prop) (next : Seen → Prop) : ¬ Met sofar next [] := by
  rintro ⟨before, r, after, split, -, -⟩
  simp at split

/-- One more request meets what holds so far, or nothing has changed. -/
theorem met_concat {sofar : List Seen → Prop} {next : Seen → Prop} {log : List Seen} {r : Seen} :
    Met sofar next (log ++ [r]) ↔ Met sofar next log ∨ sofar log ∧ next r := by
  constructor
  · rintro ⟨before, other, after, split, held, came⟩
    obtain ⟨rfl, rfl, -⟩ | ⟨within, -, inside⟩ := entry_of_concat split
    · exact .inr ⟨held, came⟩
    · exact .inl ⟨before, other, within, inside, held, came⟩
  · rintro (⟨before, other, after, rfl, held, came⟩ | ⟨held, came⟩)
    · exact ⟨before, other, after ++ [r], by simp, held, came⟩
    · exact ⟨log, r, [], rfl, held, came⟩

@[simp] theorem first?_nil (interface : String) (opcode : UInt16) :
    first? interface opcode [] = none := rfl

@[simp] theorem first?_singleton (interface : String) (opcode : UInt16) (r : Seen) :
    first? interface opcode [r] = r.newId? interface opcode := by
  unfold first?
  cases newId : r.newId? interface opcode <;> simp [newId]

@[simp] theorem first?_append (interface : String) (opcode : UInt16) (log more : List Seen) :
    first? interface opcode (log ++ more) =
      (first? interface opcode log <|> first? interface opcode more) := by
  simp [first?, List.findSome?_append]

variable {surface : UInt32} {log : List Seen} {r : Seen}

theorem damaged_concat : Damaged surface (log ++ [r]) ↔
    Damaged surface log ∨ first? "wl_compositor" 0 log = some surface ∧ r.Damages surface :=
  met_concat

theorem drawn_concat : Drawn surface (log ++ [r]) ↔
    Drawn surface log ∨ Damaged surface log ∧ r.Commits surface :=
  met_concat

/-- Only the first surface counts as damaged. -/
theorem Damaged.first (damaged : Damaged surface log) :
    first? "wl_compositor" 0 log = some surface := by
  obtain ⟨before, r, after, rfl, first, -⟩ := damaged
  rw [first?_append, first]
  rfl

/-! ## One observation -/

open Tracker (Request)

/-- What the request is to the tracker, if it is well formed and its object is known. -/
def request? (r : Seen) : Option Request :=
  if r.message.flaw? = none then
    r.resolved.map fun x => Request.of x.interface r.message.opcode
  else none

variable {request : Request} {interface : String} {opcode : UInt16} {opcodes : List UInt16}

theorem request?_of_place (place : request.place? = some (interface, opcodes)) (r : Seen) :
    r.request? = some request ↔
      r.message.flaw? = none ∧ r.resolved.map Resolved.interface = some interface ∧
        r.message.opcode ∈ opcodes := by
  unfold request?
  cases r.resolved with
  | none => simp
  | some x => simp [Request.of_eq_iff place]

theorem newId?_of_place (place : request.place? = some (interface, [opcode])) (r : Seen) :
    r.newId? interface opcode = if r.request? = some request then r.message.word? 2 else none := by
  simp only [newId?, Tracker.requestedId?, request?_of_place place, List.mem_singleton]

theorem commits_iff (r : Seen) (surface : UInt32) :
    r.Commits surface ↔ r.request? = some .commit ∧ r.message.object = surface := by
  have place : Request.commit.place? = some ("wl_surface", [6]) := rfl
  rw [request?_of_place place, Commits, Addresses, and_assoc, and_assoc]

theorem damages_iff (r : Seen) (surface : UInt32) :
    r.Damages surface ↔ r.request? = some .damage ∧ r.message.object = surface := by
  have place : Request.damage.place? = some ("wl_surface", [2, 9]) := rfl
  rw [request?_of_place place, Damages, Addresses, and_assoc, and_assoc]

end Seen

namespace Tracker

open Seen

/-- What the tracker has discovered and whether it was drawn stay. -/
structure SameRecords (t after : Tracker) : Prop where
  found : after.found = t.found
  damaged : after.damaged = t.damaged
  committed : after.damageCommitted = t.damageCommitted

theorem SameRecords.refl (t : Tracker) : t.SameRecords t := ⟨rfl, rfl, rfl⟩

theorem renumber_records (t : Tracker) (m : Message) (word : Nat) :
    t.SameRecords (t.renumber m word).tracker := by
  cases has : m.word? word with
  | none =>
      rw [t.renumber_of_none has]
      exact ⟨rfl, rfl, rfl⟩
  | some origin =>
      rw [t.renumber_of_word? has]
      exact ⟨rfl, rfl, rfl⟩

/-- No event of the server says anything about what the client asked for. -/
theorem observeServer_records (t : Tracker) (resolved : Option Resolved) (m : Message) (now : Nat) :
    t.SameRecords (t.observeServer resolved m now).tracker := by
  cases flaw : m.flaw? with
  | some reason =>
      unfold observeServer
      rw [flaw]
      exact ⟨rfl, rfl, rfl⟩
  | none =>
      rw [observeServer_of_wellFormed flaw]
      by_cases frame : t.AnswersFrame m
      · rw [observeEvent_frame frame]
        cases m.word? 2 <;> exact ⟨rfl, rfl, rfl⟩
      · by_cases sync : t.AnswersSync m
        · rw [observeEvent_sync frame sync]
          obtain ⟨found, damaged, committed⟩ := t.withoutOldestSync.renumber_records m 2
          exact ⟨found, damaged, committed⟩
        · rw [observeEvent_other frame sync]
          cases issuingWord? resolved m with
          | none => exact .refl t
          | some word => exact t.renumber_records m word

theorem restore_records (t : Tracker) (m : Message) (word : Nat) :
    t.SameRecords (t.restore m word).tracker := by
  cases has : m.word? word with
  | none =>
      rw [t.restore_of_none has]
      exact ⟨rfl, rfl, rfl⟩
  | some seen =>
      rw [t.restore_of_word? has]
      exact ⟨rfl, rfl, rfl⟩

structure Learns (t : Tracker) (r : Seen) (after : Tracker) : Prop where
  surface : after.found.surface = keepFirst t.found.surface (r.newId? "wl_compositor" 0)
  pointer : after.found.pointer = keepFirst t.found.pointer (r.newId? "wl_seat" 0)
  keyboard : after.found.keyboard = keepFirst t.found.keyboard (r.newId? "wl_seat" 1)
  committed : after.damageCommitted = true ↔
    t.damageCommitted = true ∨ t.damaged = true ∧ ∃ s, t.found.surface = some s ∧ r.Commits s
  damaged : after.damaged = true ∨ after.damageCommitted = true ↔
    (t.damaged = true ∨ t.damageCommitted = true) ∨ ∃ s, t.found.surface = some s ∧ r.Damages s

theorem learns_iff {t after : Tracker} {r : Seen} :
    t.Learns r after ↔
      after.found.surface = keepFirst t.found.surface
        (if r.request? = some .createSurface then r.message.word? 2 else none) ∧
      after.found.pointer = keepFirst t.found.pointer
        (if r.request? = some .getPointer then r.message.word? 2 else none) ∧
      after.found.keyboard = keepFirst t.found.keyboard
        (if r.request? = some .getKeyboard then r.message.word? 2 else none) ∧
      (after.damageCommitted = true ↔ t.damageCommitted = true ∨ t.damaged = true ∧
        r.request? = some .commit ∧ t.found.surface = some r.message.object) ∧
      (after.damaged = true ∨ after.damageCommitted = true ↔
        (t.damaged = true ∨ t.damageCommitted = true) ∨
          r.request? = some .damage ∧ t.found.surface = some r.message.object) := by
  rw [← r.newId?_of_place rfl, ← r.newId?_of_place rfl, ← r.newId?_of_place rfl]
  have commits : (∃ s, t.found.surface = some s ∧ r.Commits s) ↔
      r.request? = some .commit ∧ t.found.surface = some r.message.object := by
    simp only [commits_iff]
    constructor
    · rintro ⟨s, found, is, rfl⟩
      exact ⟨is, found⟩
    · rintro ⟨is, found⟩
      exact ⟨_, found, is, rfl⟩
  have damages : (∃ s, t.found.surface = some s ∧ r.Damages s) ↔
      r.request? = some .damage ∧ t.found.surface = some r.message.object := by
    simp only [damages_iff]
    constructor
    · rintro ⟨s, found, is, rfl⟩
      exact ⟨is, found⟩
    · rintro ⟨is, found⟩
      exact ⟨_, found, is, rfl⟩
  rw [← commits, ← damages]
  exact ⟨fun ⟨a, b, c, d, e⟩ => ⟨a, b, c, d, e⟩, fun ⟨a, b, c, d, e⟩ => ⟨a, b, c, d, e⟩⟩

/-- The requests of which the tracker learns nothing about the client's objects. -/
def Request.isIdle : Request → Bool
  | .sync | .frame | .createBuffer | .other => true
  | _ => false

/-- Where nothing is kept, nothing was to be learned. -/
theorem SameRecords.learns {t after : Tracker} {r : Seen} (same : t.SameRecords after)
    (idle : ∀ request ∈ r.request?, request.isIdle = true) : t.Learns r after := by
  have isNot {request : Request} (followed : request.isIdle = false) :
      r.request? ≠ some request := fun is => by
    cases followed.symm.trans (idle request is)
  have surface : r.request? ≠ some .createSurface := isNot rfl
  have pointer : r.request? ≠ some .getPointer := isNot rfl
  have keyboard : r.request? ≠ some .getKeyboard := isNot rfl
  have damage : r.request? ≠ some .damage := isNot rfl
  have commit : r.request? ≠ some .commit := isNot rfl
  simp [learns_iff, same.found, same.damaged, same.committed, surface, pointer, keyboard, damage,
    commit, keepFirst]

/-- **What a request teaches** that echoes no serial. -/
theorem observeRequest_learns (t : Tracker) {r : Seen} {request : Request}
    (is : r.request? = some request) :
    t.Learns r (t.observeRequest request r.message).tracker := by
  have idle (quiet : request.isIdle = true) {after : Tracker} (same : t.SameRecords after) :
      t.Learns r after := same.learns fun asked known => by
    cases is.symm.trans known
    exact quiet
  unfold observeRequest
  cases request with
  | sync =>
      apply idle rfl
      simp only
      repeat' split
      all_goals exact ⟨rfl, rfl, rfl⟩
  | frame =>
      apply idle rfl
      simp only
      split <;> exact ⟨rfl, rfl, rfl⟩
  | createBuffer =>
      apply idle rfl
      simp only
      split <;> exact ⟨rfl, rfl, rfl⟩
  | other => exact idle rfl (.refl t)
  | damage =>
      by_cases mine : t.found.surface = some r.message.object
      · simp [learns_iff, is, mine, pass, keepFirst]
      · simp [learns_iff, is, mine, pass, keepFirst]
  | commit =>
      by_cases mine : t.found.surface = some r.message.object
      · cases damaged : t.damaged <;> simp [learns_iff, is, mine, damaged, pass, keepFirst]
      · simp [learns_iff, is, mine, pass, keepFirst]
  | _ => simp [learns_iff, is, pass, keepFirst]

/-- No request that echoes a serial is one that is followed. -/
theorem of_echoing {interface : String} {opcode : UInt16} {word : Nat}
    (echoes : SerialPlace.find? SerialPlace.echoing interface opcode = some word) :
    Request.of interface opcode = .other := by
  have known : ∀ place ∈ SerialPlace.echoing, Request.of place.interface place.opcode = .other := by
    decide
  exact known _ (SerialPlace.find?_eq_some echoes)

/-- **What a request teaches.** -/
theorem observeClient_learns (t : Tracker) (r : Seen) :
    t.Learns r (t.observeClient r.resolved r.message).tracker := by
  obtain ⟨resolved, m⟩ := r
  unfold observeClient
  cases flaw : m.flaw? with
  | some reason =>
      have same : t.SameRecords (t.malformed m reason.fault.text).tracker := ⟨rfl, rfl, rfl⟩
      refine same.learns fun request is => ?_
      simp [request?, flaw] at is
  | none =>
      cases resolved with
      | none =>
          refine (SameRecords.refl t).learns fun request is => ?_
          simp [request?] at is
      | some x =>
          have is : request? ⟨some x, m⟩ = some (Request.of x.interface m.opcode) := by
            simp [request?, flaw]
          simp only
          cases echoes : SerialPlace.find? SerialPlace.echoing x.interface m.opcode with
          | some word =>
              refine (t.restore_records m word).learns fun request known => ?_
              rw [is, of_echoing echoes] at known
              cases known
              rfl
          | none => exact t.observeRequest_learns is

/-! ## All observations -/

/-- What the tracker knows is what the requests say that it has seen. -/
structure Records (t : Tracker) (log : List Seen) : Prop where
  surface : t.found.surface = first? "wl_compositor" 0 log
  pointer : t.found.pointer = first? "wl_seat" 0 log
  keyboard : t.found.keyboard = first? "wl_seat" 1 log
  /-- The flags are about the first surface; damage that was not committed is still there. -/
  committed : t.damageCommitted = true ↔ ∃ s, Drawn s log
  damaged : t.damaged = true ∨ t.damageCommitted = true ↔ ∃ s, Damaged s log

theorem Records.start (now : Nat) : (start now).Records [] where
  surface := rfl
  pointer := rfl
  keyboard := rfl
  committed := by simp [Tracker.start, Drawn, met_nil]
  damaged := by simp [Tracker.start, Damaged, met_nil]

theorem Records.of_same {t after : Tracker} {log : List Seen} (records : t.Records log)
    (same : t.SameRecords after) : after.Records log := by
  obtain ⟨found, damaged, committed⟩ := same
  obtain ⟨surface, pointer, keyboard, drawn, dirty⟩ := records
  exact ⟨found ▸ surface, found ▸ pointer, found ▸ keyboard, by rw [committed, drawn],
    by rw [damaged, committed, dirty]⟩

/-- The first id stays, also when the log goes on. -/
theorem keepFirst_first? (interface : String) (opcode : UInt16) (log : List Seen) (r : Seen) :
    keepFirst (first? interface opcode log) (r.newId? interface opcode) =
      first? interface opcode (log ++ [r]) := by
  rw [first?_append, first?_singleton]
  rfl

/-- **One more request.** -/
theorem Records.learns {t after : Tracker} {log : List Seen} {r : Seen} (records : t.Records log)
    (learns : t.Learns r after) : after.Records (log ++ [r]) := by
  obtain ⟨surface, pointer, keyboard, committed, damaged⟩ := records
  refine ⟨?_, ?_, ?_, ?_, ?_⟩
  · rw [learns.surface, surface, keepFirst_first?]
  · rw [learns.pointer, pointer, keepFirst_first?]
  · rw [learns.keyboard, keyboard, keepFirst_first?]
  · rw [learns.committed, surface]
    simp only [drawn_concat]
    constructor
    · rintro (before | ⟨dirty, s, first, commits⟩)
      · obtain ⟨s, drawn⟩ := committed.1 before
        exact ⟨s, .inl drawn⟩
      · obtain ⟨s', damaged'⟩ := damaged.1 (.inl dirty)
        cases damaged'.first.symm.trans first
        exact ⟨s, .inr ⟨damaged', commits⟩⟩
    · rintro ⟨s, drawn | ⟨damaged', commits⟩⟩
      · exact .inl (committed.2 ⟨s, drawn⟩)
      · exact (damaged.2 ⟨s, damaged'⟩).symm.imp_right fun dirty =>
          ⟨dirty, s, damaged'.first, commits⟩
  · rw [learns.damaged, damaged, surface]
    simp only [damaged_concat, exists_or]

end Tracker

end WaylandProxy
