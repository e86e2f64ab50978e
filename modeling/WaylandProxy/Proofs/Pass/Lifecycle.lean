/-
# Proofs.Pass.Lifecycle -- every pass is finalized exactly once, in order

A chain of probes is built by registrations, used, shut down any number of times, and dropped, which
shuts it down once more.  What the chain holds can be read off the registrations that succeeded
(`Tracks`): the pinned probe that came last, and the others in their order.  Until the first
shutdown registrations add to it (`opening_tracks`); from then on it stays, and however often the
chain is shut down, its probes are finalized once (`closing_tracks`).

A pinned probe is refused while another is held, so at most one is ever registered; but that is
asked before the set-up.  A pass that is a pinned one only after its set-up gets the place at the
end all the same, and the probe that had it is dropped without being finalized.  So the results are
in two steps: what holds of passes of any behaviour (`finalized_unless_displaced`), and what holds
if no set-up makes a pass a pinned one (`finalized_exactly_once`).
-/
import Mathlib.Data.List.Count
import WaylandProxy.Pass.Stage
import WaylandProxy.Proofs.Machine
import WaylandProxy.Proofs.Pass.Probe
import WaylandProxy.Proofs.Wire.Words

namespace WaylandProxy

set_option autoImplicit false

open Pass (Call)
open Probe (labels)

variable {τ : Type} [Pass τ]

/-! ## What a router holds -/

/-- A registration, as it is seen from outside. -/
structure Registration where
  label : String
  /-- The probe is pinned: once it is set up, or before that if it never is. -/
  pinned : Bool
  /-- It succeeded. -/
  held : Bool
  deriving DecidableEq

namespace Registration

/-- The labels of the pinned probes that were registered, or of the others. -/
def held? (pinned : Bool) (made : List Registration) : List String :=
  (made.filter fun m => m.held && m.pinned == pinned).map label

@[simp] theorem held?_append (pinned : Bool) (made more : List Registration) :
    held? pinned (made ++ more) = held? pinned made ++ held? pinned more := by
  simp [held?]

theorem held?_singleton (pinned : Bool) (m : Registration) :
    held? pinned [m] = if m.held && m.pinned == pinned then [m.label] else [] := by
  unfold held?
  rw [List.filter_singleton]
  cases m.held && m.pinned == pinned <;> rfl

/-- Only what was registered is held. -/
theorem mem_of_held? {pinned : Bool} {made : List Registration} {label : String}
    (held : label ∈ held? pinned made) : label ∈ made.map Registration.label := by
  obtain ⟨m, member, rfl⟩ := List.mem_map.1 held
  exact List.mem_map_of_mem (List.mem_filter.1 member).1

/-- The place at the end belongs to the pinned probe that was registered last. -/
def atEnd? (made : List Registration) : Option String :=
  (held? true made).getLast?

theorem mem_of_atEnd? {made : List Registration} {label : String}
    (last : label ∈ (atEnd? made).toList) : label ∈ held? true made :=
  List.mem_of_getLast? (Option.mem_toList.1 last)

/-- Where one probe at most is pinned, it is the one at the end. -/
theorem toList_atEnd? {made : List Registration} (single : (held? true made).length ≤ 1) :
    (atEnd? made).toList = held? true made := by
  unfold atEnd?
  match held? true made, single with
  | [], _ => rfl
  | [_], _ => rfl

/-- The probe is in the chain when all registrations are made: it was registered, and no later one
took its place at the end. -/
def Stays (made : List Registration) (m : Registration) : Prop :=
  m.held = true ∧ (m.pinned = true → atEnd? made = some m.label)

instance (made : List Registration) (m : Registration) : Decidable (m.Stays made) :=
  inferInstanceAs (Decidable (_ ∧ _))

section Distinct

variable {made : List Registration} {m : Registration}
  (distinct : (made.map label).Nodup) (member : m ∈ made)

include distinct member

/-- Among registrations with different labels one is held once, in its place, if it succeeded. -/
theorem count_held? (pinned : Bool) :
    (held? pinned made).count m.label = if m.held && m.pinned == pinned then 1 else 0 := by
  obtain ⟨before, after, rfl⟩ := List.append_of_mem member
  rw [List.map_append, List.map_cons, List.nodup_append] at distinct
  obtain ⟨-, others, apart⟩ := distinct
  have notBefore : m.label ∉ held? pinned before := fun held =>
    apart _ (mem_of_held? held) _ List.mem_cons_self rfl
  have notAfter : m.label ∉ held? pinned after := fun held =>
    (List.nodup_cons.1 others).1 (mem_of_held? held)
  rw [show before ++ m :: after = before ++ [m] ++ after by simp, held?_append, held?_append,
    held?_singleton, List.count_append, List.count_append, List.count_eq_zero.2 notBefore,
    List.count_eq_zero.2 notAfter]
  split <;> simp

theorem mem_held?_iff (pinned : Bool) :
    m.label ∈ held? pinned made ↔ m.held = true ∧ m.pinned = pinned := by
  rw [← List.count_pos_iff, count_held? distinct member]
  cases m.held <;> cases m.pinned <;> cases pinned <;> decide

/-- A probe is in the chain once if it stays there, and otherwise it is not. -/
theorem count_chain :
    (held? false made).count m.label + (atEnd? made).toList.count m.label =
      if m.Stays made then 1 else 0 := by
  rw [count_held? distinct member]
  by_cases last : atEnd? made = some m.label
  · have inside : m.label ∈ held? true made :=
      mem_of_atEnd? (Option.mem_toList.2 last)
    obtain ⟨held, pinned⟩ := (mem_held?_iff distinct member true).1 inside
    rw [if_pos (show m.Stays made from ⟨held, fun _ => last⟩), last, held, pinned]
    simp
  · have absent : (atEnd? made).toList.count m.label = 0 :=
      List.count_eq_zero.2 fun inside => last (Option.mem_toList.1 inside)
    rw [absent, Nat.add_zero]
    refine if_congr ?_ rfl rfl
    unfold Stays
    cases m.held <;> cases m.pinned <;> simp [last]

omit distinct in
/-- Where one probe at most is pinned, whatever was registered stays. -/
theorem stays_iff (single : (held? true made).length ≤ 1) : m.Stays made ↔ m.held = true := by
  refine ⟨And.left, fun held => ⟨held, fun pinned => ?_⟩⟩
  have inside : m.label ∈ held? true made :=
    List.mem_map_of_mem (List.mem_filter.2 ⟨member, by simp [held, pinned]⟩)
  rw [← toList_atEnd? single] at inside
  exact Option.mem_toList.1 inside

end Distinct

end Registration

open Registration (held? atEnd?)

namespace Router

/-- The labels that probes are finalized by. -/
def endings (made : List Registration) : List String :=
  (atEnd? made).toList ++ (held? false made).reverse

def finalizations (w : World) : List Call :=
  w.calls.filter fun c => c.hook = .finalize

/-- A router holds what was registered, the pinned probe that came last at the end, and calls
nothing else but set-ups; its probes were finalized if it was shut down, and then the session is to
end.  If the passes are settled, there is one pinned probe at most. -/
structure Tracks (made : List Registration) (r : Router (Probe τ)) : Prop where
  passes : labels r.passes = held? false made
  pinned : r.pinned.map Probe.label = atEnd? made
  single : Pass.Settled τ → (held? true made).length ≤ 1
  calls : ∀ c ∈ r.world.calls, c.hook = .init ∨ c.label ∈ held? false made ++ held? true made
  ends : finalizations r.world = if r.finalized then finalizing (endings made) else []
  exit : r.finalized = true → r.exit = true

variable {r after : Router (Probe τ)} {made : List Registration}

theorem finalizations_append {before after : World} {new : List Call}
    (calls : after.calls = before.calls ++ new) :
    finalizations after = finalizations before ++ new.filter fun c => c.hook = .finalize := by
  unfold finalizations
  rw [calls, List.filter_append]

theorem Tracks.labels_pinned (tracks : Tracks made r) :
    labels r.pinned.toList = (atEnd? made).toList := by
  rw [← tracks.pinned]
  cases r.pinned <;> rfl

theorem Tracks.labels_chain (tracks : Tracks made r) :
    labels r.chain = held? false made ++ (atEnd? made).toList := by
  rw [← tracks.passes, ← tracks.labels_pinned]
  exact List.map_append

theorem tracks_start (objects : ObjectMap) (client server : Channel) :
    Tracks [] (Router.start objects (.start client server) : Router (Probe τ)) where
  passes := rfl
  pinned := rfl
  single _ := Nat.zero_le 1
  calls := nofun
  ends := rfl
  exit := nofun

theorem Tracks.works (tracks : Tracks made r) (works : r.Works after) : Tracks made after := by
  obtain ⟨new, calls, sound⟩ := works.calls.calls
  have quiet : new.filter (fun c => c.hook = .finalize) = [] :=
    List.filter_eq_nil_iff.2 fun c member is => (sound c member).2.1 (of_decide_eq_true is)
  refine ⟨works.passes.trans tracks.passes, works.pinned.trans tracks.pinned, tracks.single,
    fun c member => ?_, ?_, fun finalized => ?_⟩
  · rw [calls] at member
    obtain earlier | later := List.mem_append.1 member
    · exact tracks.calls c earlier
    · have here := (sound c later).2.2
      rw [tracks.labels_chain] at here
      exact .inr (List.mem_append.2 ((List.mem_append.1 here).imp_right Registration.mem_of_atEnd?))
  · rw [finalizations_append calls, quiet, List.append_nil, works.finalized]
    exact tracks.ends
  · exact works.exit (tracks.exit (works.finalized ▸ finalized))

/-- A shutdown finalizes what a router holds, unless that was done. -/
theorem Tracks.shutdown (tracks : Tracks made r) :
    Tracks made r.shutdown ∧ r.shutdown.finalized = true := by
  cases finalized : r.finalized with
  | true =>
      have same : r.shutdown = r := if_pos finalized
      rw [same]
      exact ⟨tracks, finalized⟩
  | false =>
      obtain ⟨passes, pinned, calls, exit, done⟩ := shutdown_finalizes finalized
      rw [tracks.labels_pinned, tracks.passes, show _ ++ _ = endings made from rfl] at calls
      have last : (finalizing (endings made)).filter (fun c => c.hook = .finalize) =
          finalizing (endings made) :=
        List.filter_eq_self.2 fun c member => by
          obtain ⟨label, -, rfl⟩ := List.mem_map.1 member
          rfl
      refine ⟨⟨passes.trans tracks.passes, pinned.trans tracks.pinned, tracks.single,
        fun c member => ?_, ?_, fun _ => exit⟩, done⟩
      · rw [calls] at member
        obtain earlier | ending := List.mem_append.1 member
        · exact tracks.calls c earlier
        · obtain ⟨label, held, rfl⟩ := List.mem_map.1 ending
          refine .inr (List.mem_append.2 ?_)
          obtain last | other := List.mem_append.1 held
          · exact .inr (Registration.mem_of_atEnd? last)
          · exact .inl (List.mem_reverse.1 other)
      · have none := tracks.ends
        rw [if_neg (by simp [finalized])] at none
        rw [finalizations_append calls, none, last, if_pos done]
        rfl

def registration (r : Router (Probe τ)) (storage : Storage) (p : Probe τ) (args : List String) :
    Registration where
  label := p.label
  pinned :=
    match (Pass.setUp storage args r.world p).1 with
    | .ok ready => Pass.pinned ready
    | .error _ => Pass.pinned p
  held := (r.register storage p args).1.isOk

/-- What is registered is added to what a router holds; only set-ups are called meanwhile. -/
theorem Tracks.grow (tracks : Tracks made r) (open_ : r.finalized = false) {m : Registration}
    (passes : labels after.passes = labels r.passes ++ held? false [m])
    (pinned : after.pinned.map Probe.label = (atEnd? [m]).or (r.pinned.map Probe.label))
    (single : Pass.Settled τ → (held? true (made ++ [m])).length ≤ 1)
    {new : List Call} (calls : after.world.calls = r.world.calls ++ new)
    (setUps : ∀ c ∈ new, c.hook = .init) (still : after.finalized = r.finalized) :
    Tracks (made ++ [m]) after := by
  have quiet : new.filter (fun c => c.hook = .finalize) = [] :=
    List.filter_eq_nil_iff.2 fun c member is => by
      cases (setUps c member).symm.trans (of_decide_eq_true is)
  have none : finalizations r.world = [] := by
    rw [tracks.ends, if_neg (by simp [open_])]
  refine ⟨?_, ?_, single, fun c member => ?_, ?_, fun finalized => ?_⟩
  · rw [passes, tracks.passes, Registration.held?_append]
  · rw [pinned, tracks.pinned]
    unfold atEnd?
    rw [Registration.held?_append, List.getLast?_append]
  · rw [calls] at member
    obtain earlier | setUp := List.mem_append.1 member
    · refine (tracks.calls c earlier).imp_right fun held => ?_
      rw [Registration.held?_append, Registration.held?_append]
      obtain other | last := List.mem_append.1 held
      · exact List.mem_append_left _ (List.mem_append_left _ other)
      · exact List.mem_append_right _ (List.mem_append_left _ last)
    · exact .inl (setUps c setUp)
  · rw [finalizations_append calls, none, quiet, if_neg (by simp [still, open_])]
    rfl
  · cases (still.trans open_).symm.trans finalized

/-- **A registration** before the first shutdown adds to what the router holds. -/
theorem Tracks.register (tracks : Tracks made r) (open_ : r.finalized = false) (storage : Storage)
    (p : Probe τ) (args : List String) :
    Tracks (made ++ [r.registration storage p args]) (r.register storage p args).2 ∧
      (r.register storage p args).2.finalized = false := by
  have registering := r.register_registering storage p args
  unfold registration
  generalize r.register storage p args = outcome at registering
  have setUp : ∀ c ∈ [(⟨.init, p.label⟩ : Call)], c.hook = .init :=
    List.forall_mem_singleton.2 rfl
  have kept {m : Registration} (unheld : held? true [m] = []) (settled : Pass.Settled τ) :
      (held? true (made ++ [m])).length ≤ 1 := by
    rw [Registration.held?_append, unheld, List.append_nil]
    exact tracks.single settled
  cases registering with
  | refused fault pinned taken =>
      exact ⟨tracks.grow open_ (List.append_nil _).symm rfl (kept rfl)
        (List.append_nil _).symm nofun rfl, open_⟩
  | failed fault w free calls =>
      exact ⟨tracks.grow open_ (List.append_nil _).symm rfl (kept rfl) calls setUp rfl, open_⟩
  | last ready w free set pinned same calls =>
      simp only [set, pinned]
      refine ⟨tracks.grow open_ (List.append_nil _).symm (congrArg some same) (fun settled => ?_)
        calls setUp rfl, open_⟩
      -- settled: it was pinned before the set-up too, so the place at the end was free
      have none := free (Probe.pinned_setUp settled set pinned)
      have nobody : held? true made = [] := by
        rw [← List.getLast?_eq_none_iff]
        exact tracks.pinned.symm.trans (congrArg (Option.map Probe.label) none)
      rw [Registration.held?_append, nobody]
      exact Nat.le_refl 1
  | next ready w set unpinned same calls =>
      simp only [set, unpinned]
      exact ⟨tracks.grow open_ (List.map_append.trans (congrArg (labels r.passes ++ [·]) same)) rfl
        (kept rfl) calls setUp rfl, open_⟩

end Router

/-! ## Runs -/

namespace Lifecycle

inductive Move (τ : Type) where
  | register (storage : Storage) (p : Probe τ) (args : List String)
  | route (m : Message) (now : Nat)
  | idle (now : Nat)
  | shutdown

/-- Nothing is registered. -/
def Move.IsUse : Move τ → Prop
  | .register .. => False
  | _ => True

/-- Nothing is shut down. -/
def Move.IsOpen : Move τ → Prop
  | .shutdown => False
  | _ => True

/-- A router under moves, and what is seen of its registrations. -/
def machine (τ : Type) [Pass τ] : Machine (Router (Probe τ)) (Move τ) Registration where
  step
    | r, .register storage p args => (r.register storage p args).2
    | r, .route m now => (r.route m now).router
    | r, .idle now => r.idle now
    | r, .shutdown => r.shutdown
  out
    | r, .register storage p args => [r.registration storage p args]
    | _, _ => []

open Router (Tracks endings finalizations finalizing)

variable {r : Router (Probe τ)} {made : List Registration}

/-- Until the first shutdown the router holds what was registered. -/
theorem opening_tracks {moves : List (Move τ)} (open_ : ∀ move ∈ moves, move.IsOpen)
    (tracks : Tracks made r) (unfinalized : r.finalized = false) :
    Tracks (made ++ (machine τ).outputs r moves) ((machine τ).run r moves) ∧
      ((machine τ).run r moves).finalized = false := by
  induction moves generalizing r made with
  | nil => simpa using ⟨tracks, unfinalized⟩
  | cons move rest ih =>
      obtain ⟨first, others⟩ := List.forall_mem_cons.1 open_
      rw [Machine.outputs_cons, Machine.run_cons, ← List.append_assoc]
      cases move with
      | register storage p args =>
          obtain ⟨next, still⟩ := tracks.register unfinalized storage p args
          exact ih others next still
      | route m now =>
          have works := r.route_works m now
          rw [show (machine τ).out r (.route m now) = [] from rfl, List.append_nil]
          exact ih others (tracks.works works) (works.finalized.trans unfinalized)
      | idle now =>
          have works := r.idle_works now
          rw [show (machine τ).out r (.idle now) = [] from rfl, List.append_nil]
          exact ih others (tracks.works works) (works.finalized.trans unfinalized)
      | shutdown => exact first.elim

/-- Once nothing is registered any more, the router holds what it held; one that was shut down stays
so. -/
theorem closing_tracks {moves : List (Move τ)} (use : ∀ move ∈ moves, move.IsUse)
    (tracks : Tracks made r) :
    Tracks made ((machine τ).run r moves) ∧
      (r.finalized = true ∨ .shutdown ∈ moves → ((machine τ).run r moves).finalized = true) := by
  induction moves generalizing r with
  | nil => exact ⟨tracks, fun either => either.resolve_right List.not_mem_nil⟩
  | cons move rest ih =>
      obtain ⟨first, others⟩ := List.forall_mem_cons.1 use
      rw [Machine.run_cons]
      cases move with
      | register storage p args => exact first.elim
      | route m now =>
          have works := r.route_works m now
          obtain ⟨tracks', stays⟩ := ih others (tracks.works works)
          refine ⟨tracks', fun either => stays ?_⟩
          simpa [machine, works.finalized] using either
      | idle now =>
          have works := r.idle_works now
          obtain ⟨tracks', stays⟩ := ih others (tracks.works works)
          refine ⟨tracks', fun either => stays ?_⟩
          simpa [machine, works.finalized] using either
      | shutdown =>
          obtain ⟨tracks', done⟩ := tracks.shutdown
          obtain ⟨tracks'', stays⟩ := ih others tracks'
          exact ⟨tracks'', fun _ => stays (.inl done)⟩

/-- A pinned probe is refused while one is held, and a registration that fails leaves the chain. -/
theorem register_refuses (tracks : Tracks made r) (storage : Storage) (p : Probe τ)
    (args : List String) :
    (Pass.pinned p = true → held? true made ≠ [] →
      ∃ fault, r.register storage p args = (.error fault, r)) ∧
    (∀ fault, (r.register storage p args).1 = .error fault →
      (r.register storage p args).2.chain = r.chain) := by
  have registering := r.register_registering storage p args
  have taken (occupied : held? true made ≠ []) : r.pinned ≠ none := fun none => by
    have nobody := tracks.pinned
    rw [none] at nobody
    exact occupied (List.getLast?_eq_none_iff.1 nobody.symm)
  by_cases refuses : Pass.pinned p = true ∧ r.pinned.isSome = true
  · have refused : r.register storage p args = (.error _, r) := if_pos refuses
    rw [refused]
    exact ⟨fun _ _ => ⟨_, rfl⟩, fun _ _ => rfl⟩
  · refine ⟨fun pinned occupied =>
      absurd ⟨pinned, Option.isSome_iff_ne_none.2 (taken occupied)⟩ refuses, ?_⟩
    generalize r.register storage p args = outcome at registering
    cases registering with
    | refused fault pinned taken => exact absurd ⟨pinned, taken⟩ refuses
    | failed fault w free => exact fun _ _ => rfl
    | last | next => exact nofun

/-- A probe is finalized once if it stays, and never otherwise. -/
theorem count_finalizations (distinct : (made.map Registration.label).Nodup) {m : Registration}
    (member : m ∈ made) : (finalizing (endings made)).count ⟨.finalize, m.label⟩ =
      if m.Stays made then 1 else 0 := by
  have injective : Function.Injective fun label => (⟨.finalize, label⟩ : Call) :=
    fun _ _ same => (Call.mk.inj same).2
  unfold finalizing endings
  rw [List.count_map_of_injective _ _ injective, List.count_append, List.count_reverse,
    Nat.add_comm]
  exact Registration.count_chain distinct member

/-- **What is finalized of passes of any behaviour.**  In the end the probe that took the place at
the end last is finalized, and then the others from the last to the first, each of them once.  A
pinned probe whose place was taken is not finalized at all; only a pass that becomes a pinned one
while it is set up can take it. -/
theorem finalized_unless_displaced (objects : ObjectMap) (client server : Channel)
    {opening closing : List (Move τ)} (opens : ∀ move ∈ opening, move.IsOpen)
    (uses : ∀ move ∈ closing, move.IsUse) :
    let start : Router (Probe τ) := .start objects (.start client server)
    let made := (machine τ).outputs start opening
    let opened := (machine τ).run start opening
    let last := (machine τ).run start (opening ++ closing ++ [.shutdown])
    (made.map Registration.label).Nodup →
      Tracks made opened ∧
      finalizations last.world = finalizing (endings made) ∧
      (∀ m ∈ made, last.world.calls.count ⟨.finalize, m.label⟩ = if m.Stays made then 1 else 0) ∧
      (∀ m ∈ made, m.held = false → ∀ c ∈ last.world.calls, c.label = m.label → c.hook = .init) ∧
      (Move.shutdown ∈ closing → ((machine τ).run start (opening ++ closing)).exit = true) ∧
      last.exit = true := by
  intro start made opened last distinct
  obtain ⟨tracks, -⟩ := opening_tracks opens (Router.tracks_start objects client server) rfl
  rw [List.nil_append] at tracks
  obtain ⟨used, closes⟩ := closing_tracks uses tracks
  obtain ⟨done, finalized⟩ := used.shutdown
  -- to be dropped is to be shut down once more
  have isLast : last = ((machine τ).run opened closing).shutdown := by
    show (opening ++ closing ++ [Move.shutdown]).foldl (machine τ).step start = _
    rw [List.foldl_append, List.foldl_append]
    rfl
  rw [← isLast] at done finalized
  have ends : finalizations last.world = finalizing (endings made) := by
    rw [done.ends, if_pos finalized]
  refine ⟨tracks, ends, fun m member => ?_, fun m member failed c called same => ?_, fun shut => ?_,
    done.exit finalized⟩
  · have all := count_finalizations distinct member
    rw [← ends] at all
    unfold finalizations at all
    rwa [List.count_filter (by simp)] at all
  -- whatever is called but set-ups is called of a probe that is held
  · refine (done.calls c called).resolve_right fun held => ?_
    rw [same, List.mem_append, Registration.mem_held?_iff distinct member,
      Registration.mem_held?_iff distinct member, failed] at held
    simp at held
  · rw [show (machine τ).run start (opening ++ closing) = (machine τ).run opened closing from
      List.foldl_append]
    exact used.exit (closes (.inr shut))

/-- **Every pass is finalized exactly once, in order.**  Take probes of passes of any behaviour, of
which it is only asked that no set-up makes a pass a pinned one (`Pass.Settled`).  Take a router
that is first opened by registrations among messages and idle opportunities, then used and shut down
any number of times, and at last dropped, which shuts it down once more.  Let the labels of the
registrations be different.

* It runs the probes whose registration succeeded in their order, the pinned one after all others;
  at most one is pinned.
* In the end these are finalized, the pinned one first and then the others from the last to the
  first; no other probe is, and each of them is finalized once.
* Of a probe whose registration failed nothing is called but its set-up.
* Another pinned probe is refused while one is held, and leaves the router as it is, so that not
  even its set-up is called.  A registration that fails leaves the chain as it was.
* After a shutdown the session is to end.

The built-in passes are settled (`settled_stage`).  One that is not can take the place at the end
from another (`Example.displaced_probe_not_finalized`). -/
theorem finalized_exactly_once (settled : Pass.Settled τ) (objects : ObjectMap)
    (client server : Channel) {opening closing : List (Move τ)}
    (opens : ∀ move ∈ opening, move.IsOpen) (uses : ∀ move ∈ closing, move.IsUse) :
    let start : Router (Probe τ) := .start objects (.start client server)
    let made := (machine τ).outputs start opening
    let opened := (machine τ).run start opening
    let last := (machine τ).run start (opening ++ closing ++ [.shutdown])
    (made.map Registration.label).Nodup →
      labels opened.chain = held? false made ++ held? true made ∧
      (held? true made).length ≤ 1 ∧
      finalizations last.world = finalizing (held? true made ++ (held? false made).reverse) ∧
      (∀ m ∈ made, last.world.calls.count ⟨.finalize, m.label⟩ = if m.held then 1 else 0) ∧
      (∀ m ∈ made, m.held = false → ∀ c ∈ last.world.calls, c.label = m.label → c.hook = .init) ∧
      (∀ storage p args,
        (Pass.pinned p = true → held? true made ≠ [] →
          ∃ fault, opened.register storage p args = (.error fault, opened)) ∧
        (∀ fault, (opened.register storage p args).1 = .error fault →
          (opened.register storage p args).2.chain = opened.chain ∧
          (opened.register storage p args).2.passNames = opened.passNames)) ∧
      (Move.shutdown ∈ closing → ((machine τ).run start (opening ++ closing)).exit = true) ∧
      last.exit = true := by
  intro start made opened last distinct
  obtain ⟨tracks, ends, counts, failed, exits, exit⟩ :=
    finalized_unless_displaced objects client server opens uses distinct
  have single := tracks.single settled
  have chain := tracks.labels_chain
  unfold endings at ends
  rw [Registration.toList_atEnd? single] at chain ends
  refine ⟨chain, single, ends, fun m member => ?_, failed, fun storage p args => ?_, exits, exit⟩
  · rw [counts m member]
    exact if_congr (Registration.stays_iff member single) rfl rfl
  · obtain ⟨refuses, leaves⟩ := register_refuses tracks storage p args
    refine ⟨refuses, fun fault failed => ?_⟩
    have same := leaves fault failed
    exact ⟨same, congrArg (List.map Pass.name) same⟩

/-! ## Passes that are settled -/

theorem settled_of_pinned_eq {b : Bool} (constant : ∀ p : τ, Pass.pinned p = b) :
    Pass.Settled τ :=
  fun _ _ _ p ready _ pinned => (constant p).trans ((constant ready).symm.trans pinned)

theorem settled_sum {σ : Type} [Pass σ] (left : Pass.Settled σ) (right : Pass.Settled τ) :
    Pass.Settled (σ ⊕ τ) := by
  rintro storage args w (p | p) ready set pinned
  · have mapped : (Pass.init storage args w p).1.map Sum.inl = .ok ready := set
    obtain ⟨after, done, rfl⟩ := map_eq_ok_iff.1 mapped
    exact left storage args w p after done pinned
  · have mapped : (Pass.init storage args w p).1.map Sum.inr = .ok ready := set
    obtain ⟨after, done, rfl⟩ := map_eq_ok_iff.1 mapped
    exact right storage args w p after done pinned

/-- The built-in passes are pinned or not by their kind. -/
theorem settled_stage : Pass.Settled Stage :=
  settled_sum (settled_of_pinned_eq fun _ => rfl)
    (settled_sum (settled_of_pinned_eq fun _ => rfl) (settled_of_pinned_eq fun _ => rfl))

namespace Example

open Message.Example (message)

def nowhere : Storage :=
  ⟨fun _ => .error "", fun _ => .error ""⟩

/-- A stage in a probe is registered with these arguments. -/
def register (label : String) (stage : Stage) (args : List String) : Move Stage :=
  .register nowhere ⟨label, stage⟩ args

def tracing : Stage :=
  .trace (.create ⟨none⟩)

/-- The operator says nothing. -/
def asking : Stage :=
  .interactive (.create [] ⟨none⟩)

/-- The second set-up fails, and the place at the end is taken when `late` comes for it. -/
def opening : List (Move Stage) :=
  [register "first" tracing [], register "broken" tracing ["loud"],
    register "end" asking ["skip-first"], .route (message .fromClient 1 0 [3]) 0,
    register "late" asking [], register "second" tracing []]

/-- It is shut down twice before it is dropped. -/
def closing : List (Move Stage) :=
  [.idle 1, .shutdown, .route (message .fromServer 3 0 [7]) 2, .shutdown]

def empty (τ : Type) : Router (Probe τ) :=
  .start .initial (.start .reliable .reliable)

/-- Three of the five are held, and they are finalized once, although the router is shut down three
times. -/
theorem three_of_five_finalized :
    Pass.Settled Stage ∧ (∀ move ∈ opening, move.IsOpen) ∧ (∀ move ∈ closing, move.IsUse) ∧
      (((machine Stage).outputs (empty Stage) opening).map Registration.label).Nodup ∧
      finalizations ((machine Stage).run (empty Stage) (opening ++ closing ++ [.shutdown])).world =
        finalizing ["end", "second", "first"] ∧
      ((machine Stage).run (empty Stage) (opening ++ closing)).exit = true := by
  have opens : ∀ move ∈ opening, move.IsOpen := by simp [opening, register, Move.IsOpen]
  have uses : ∀ move ∈ closing, move.IsUse := by simp [closing, Move.IsUse]
  have made : (machine Stage).outputs (empty Stage) opening =
      [⟨"first", false, true⟩, ⟨"broken", false, false⟩, ⟨"end", true, true⟩, ⟨"late", true, false⟩,
        ⟨"second", false, true⟩] := by
    decide +kernel
  have distinct :
      (((machine Stage).outputs (empty Stage) opening).map Registration.label).Nodup := by
    rw [made]
    decide
  obtain ⟨-, -, ends, -, -, -, exits, -⟩ :=
    finalized_exactly_once settled_stage .initial .reliable .reliable opens uses distinct
  have order :=
    congrArg (fun made => finalizing (held? true made ++ (held? false made).reverse)) made
  exact ⟨settled_stage, opens, uses, distinct, ends.trans order, exits (by simp [closing])⟩

/-- A pass that is a pinned one as soon as it is set up. -/
structure Climber where
  ready : Bool
  deriving DecidableEq

instance : Pass Climber where
  name _ := "climber"
  usage _ := "climber"
  pinned := Climber.ready
  init _ _ w _ := (.ok ⟨true⟩, w)
  onEvent _ t p := ⟨p, t, .proceed⟩
  onRequest _ t p := ⟨p, t, .proceed⟩
  idle _ i p := (p, i)
  finalize w p := (p, w)

/-- Two of them, one registered after the other. -/
def climbing : List (Move Climber) :=
  [.register nowhere ⟨"first", ⟨false⟩⟩ [], .register nowhere ⟨"second", ⟨false⟩⟩ []]

/-- **A pass that becomes a pinned one while it is set up takes the place at the end from another.**
Both registrations succeed, and the first probe is in the chain no more when the second one is; it
is never finalized. -/
theorem displaced_probe_not_finalized :
    let made := (machine Climber).outputs (empty Climber) climbing
    let opened := (machine Climber).run (empty Climber) climbing
    let last := (machine Climber).run (empty Climber) (climbing ++ [.shutdown])
    made = [⟨"first", true, true⟩, ⟨"second", true, true⟩] ∧
      labels opened.chain = ["second"] ∧
      last.world.calls = [⟨.init, "first"⟩, ⟨.init, "second"⟩, ⟨.finalize, "second"⟩] := by
  decide +kernel

end Example

end Lifecycle

end WaylandProxy
