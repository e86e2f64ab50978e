/-
# Proofs.Pass.Probe -- which hooks of which pass are called

To see what the chain calls, a pass is put into a probe: it does what the pass does, and each of its
hooks leaves a remark in the journal with the probe's label.  A pass may leave remarks of its own;
those that read like a call are taken out, so the calls in the journal are calls that were made
(`World.calls`).  A probe is pinned while its pass says so.

A call shows up once, after the calls before it, and leaves the probe's label (`handle_called`,
`rest_called`, `setUp_called`, `cleanUp_called`).  So it is seen what a chain of probes does:
messages and idle opportunities call only probes that are held (`route_works`, `idle_works`), the
first shutdown finalizes all of them (`shutdown_finalizes`), and a registration sets up one probe or
refuses it (`register_registering`).  A registration asks twice whether the probe is pinned: before
the set-up, to refuse it if the place at the end is taken, and after it, to find its place.
-/
import Mathlib.Logic.Basic
import WaylandProxy.Pass.Router
import WaylandProxy.Proofs.Outcome

namespace WaylandProxy

set_option autoImplicit false

namespace Pass

inductive Hook where
  | init
  | event
  | request
  | idle
  | finalize
  deriving DecidableEq

namespace Hook

def letter : Hook → Char
  | .init => 'i'
  | .event => 'e'
  | .request => 'r'
  | .idle => 't'
  | .finalize => 'f'

def ofLetter? (c : Char) : Option Hook :=
  [init, event, request, idle, finalize].find? fun hook => hook.letter = c

def handler : Direction → Hook
  | .fromServer => .event
  | .fromClient => .request

end Hook

/-- A hook that was called of the pass with a label. -/
structure Call where
  hook : Hook
  label : String
  deriving DecidableEq

namespace Call

def note (c : Call) : Note :=
  .remark (String.ofList (c.hook.letter :: c.label.toList))

def ofText? (text : String) : Option Call :=
  match text.toList with
  | [] => none
  | letter :: label => (Hook.ofLetter? letter).map fun hook => ⟨hook, String.ofList label⟩

end Call

/-- No set-up makes a pass a pinned one: a pass that is pinned once it is set up was so before. -/
def Settled (τ : Type) [Pass τ] : Prop :=
  ∀ (storage : Storage) (args : List String) (w : World) (p ready : τ),
    (Pass.init storage args w p).1 = .ok ready → Pass.pinned ready = true → Pass.pinned p = true

end Pass

open Pass (Call Hook)

def Note.call? : Note → Option Call
  | .remark text => Call.ofText? text
  | _ => none

theorem Note.call?_note (c : Call) : c.note.call? = some c := by
  obtain ⟨hook, label⟩ := c
  simp only [Call.note, Note.call?, Call.ofText?, String.toList_ofList, String.ofList_toList]
  cases hook <;> rfl

namespace World

/-- The calls that were made, in order. -/
def calls (w : World) : List Call :=
  w.notes.filterMap Note.call?

theorem calls_after (before acted : World) :
    (before.after acted).calls = before.calls ++ acted.calls := by
  unfold calls
  rw [show (before.after acted).notes = before.notes ++ acted.notes from List.reverse_append,
    List.filterMap_append]

theorem calls_note (w : World) (n : Note) : (w.note n).calls = w.calls ++ n.call?.toList := by
  unfold calls
  rw [show (w.note n).notes = w.notes ++ [n] from List.reverse_cons, List.filterMap_append]
  cases call : n.call? <;> simp [call]

theorem calls_log (w : World) (level : Log.Level) (source : Log.Source) (message : String)
    (fields : List (String × Log.Value)) : (w.log level source message fields).calls = w.calls :=
  (w.calls_note _).trans (List.append_nil _)

/-- The world with a call, and without the remarks before it that read like one. -/
def marked (w : World) (c : Call) : World :=
  { w with journal := w.journal.filter fun n => n.call?.isNone }.note c.note

theorem calls_marked (w : World) (c : Call) : (w.marked c).calls = [c] := by
  have none : (w.journal.filter fun n => n.call?.isNone).reverse.filterMap Note.call? = [] := by
    simp [List.filterMap_eq_nil_iff]
  unfold marked
  rw [calls_note, Note.call?_note]
  unfold calls
  rw [show World.notes _ = (w.journal.filter fun n => n.call?.isNone).reverse from rfl, none]
  rfl

end World

/-- A pass whose hooks are seen to be called. -/
structure Probe (τ : Type) where
  label : String
  pass : τ

namespace Probe

variable {τ : Type} [Pass τ]

/-- The world after a hook of the probe was called. -/
def called (p : Probe τ) (hook : Hook) (w : World) : World :=
  w.marked ⟨hook, p.label⟩

/-- A message that a handler of the probe was called for. -/
def handled (p : Probe τ) (hook : Hook) (h : Handled τ) : Handled (Probe τ) where
  pass := { p with pass := h.pass }
  transit := { h.transit with world := p.called hook h.transit.world }
  verdict := h.verdict

instance : Pass (Probe τ) where
  name p := Pass.name p.pass
  usage p := Pass.usage p.pass
  pinned p := Pass.pinned p.pass
  init storage args w p :=
    let (ready, w) := Pass.init storage args w p.pass
    (ready.map fun pass => { p with pass := pass }, p.called .init w)
  onEvent ctx t p := p.handled .event (Pass.onEvent ctx t p.pass)
  onRequest ctx t p := p.handled .request (Pass.onRequest ctx t p.pass)
  idle now i p :=
    let (pass, i) := Pass.idle now i p.pass
    ({ p with pass := pass }, { i with world := p.called .idle i.world })
  finalize w p :=
    let (pass, w) := Pass.finalize w p.pass
    ({ p with pass := pass }, p.called .finalize w)

/-- A handler is called once, and takes back no request to end the session. -/
theorem handle_called (direction : Direction) (ctx : Context) (t : Transit) (p : Probe τ) :
    let done := Pass.handle direction ctx t p
    done.pass.label = p.label ∧
      done.transit.world.calls = t.world.calls ++ [⟨.handler direction, p.label⟩] ∧
      (t.exit = true → done.transit.exit = true) := by
  cases direction with
  | fromServer =>
      refine ⟨rfl, ?_, fun ends => ?_⟩
      · exact (World.calls_after _ _).trans (congrArg _ (World.calls_marked _ _))
      · simp [Pass.handle, Transit.after, ends]
  | fromClient =>
      refine ⟨rfl, ?_, fun ends => ?_⟩
      · exact (World.calls_after _ _).trans (congrArg _ (World.calls_marked _ _))
      · simp [Pass.handle, Transit.after, ends]

theorem rest_called (now : Nat) (i : Idle) (p : Probe τ) :
    let done := Pass.rest now i p
    done.1.label = p.label ∧ done.2.world.calls = i.world.calls ++ [⟨.idle, p.label⟩] ∧
      (i.exit = true → done.2.exit = true) := by
  refine ⟨rfl, ?_, fun ends => ?_⟩
  · exact (World.calls_after _ _).trans (congrArg _ (World.calls_marked _ _))
  · simp [Pass.rest, ends]

theorem cleanUp_called (w : World) (p : Probe τ) :
    (Pass.cleanUp w p).1.label = p.label ∧
      (Pass.cleanUp w p).2.calls = w.calls ++ [⟨.finalize, p.label⟩] :=
  ⟨rfl, (World.calls_after _ _).trans (congrArg _ (World.calls_marked _ _))⟩

/-- Setting a probe up is one call, whether it succeeds or not. -/
theorem setUp_called (storage : Storage) (args : List String) (w : World) (p : Probe τ) :
    (∀ ready, (Pass.setUp storage args w p).1 = .ok ready → ready.label = p.label) ∧
      (Pass.setUp storage args w p).2.calls = w.calls ++ [⟨.init, p.label⟩] := by
  refine ⟨fun ready isReady => ?_,
    (World.calls_after _ _).trans (congrArg _ (World.calls_marked _ _))⟩
  obtain ⟨pass, -, rfl⟩ := map_eq_ok_iff.1 isReady
  rfl

theorem pinned_setUp (settled : Pass.Settled τ) {storage : Storage} {args : List String} {w : World}
    {p ready : Probe τ} (isReady : (Pass.setUp storage args w p).1 = .ok ready)
    (pinned : Pass.pinned ready = true) : Pass.pinned p = true := by
  obtain ⟨pass, set, rfl⟩ := map_eq_ok_iff.1 isReady
  exact settled _ _ _ _ _ set pinned

end Probe

variable {τ : Type} [Pass τ]

def Probe.labels (probes : List (Probe τ)) : List String :=
  probes.map Probe.label

open Probe (labels)

/-! ## Messages and idle opportunities -/

/-- Between two worlds only handlers and idle hooks of probes with these labels were called. -/
structure World.Worked (among : List String) (before after : World) : Prop where
  calls : ∃ new, after.calls = before.calls ++ new ∧
    ∀ c ∈ new, c.hook ≠ .init ∧ c.hook ≠ .finalize ∧ c.label ∈ among

namespace World.Worked

variable {among more : List String} {before middle after : World}

theorem refl (among : List String) (w : World) : Worked among w w :=
  ⟨[], (List.append_nil _).symm, nofun⟩

theorem trans (first : Worked among before middle) (second : Worked among middle after) :
    Worked among before after := by
  obtain ⟨new, calls, sound⟩ := first
  obtain ⟨new', calls', sound'⟩ := second
  refine ⟨new ++ new', by rw [calls', calls, List.append_assoc], fun c member => ?_⟩
  obtain earlier | later := List.mem_append.1 member
  · exact sound c earlier
  · exact sound' c later

theorem mono (worked : Worked among before after) (within : ∀ label ∈ among, label ∈ more) :
    Worked more before after := by
  obtain ⟨new, calls, sound⟩ := worked
  exact ⟨new, calls, fun c member =>
    ⟨(sound c member).1, (sound c member).2.1, within _ (sound c member).2.2⟩⟩

theorem count (worked : Worked among before after) (change : Metrics → Metrics) :
    Worked among before (after.count change) :=
  ⟨worked.calls⟩

theorem single {c : Call} (calls : after.calls = before.calls ++ [c]) (works : c.hook ≠ .init)
    (lives : c.hook ≠ .finalize) : Worked [c.label] before after := by
  refine ⟨[c], calls, fun other member => ?_⟩
  cases List.mem_singleton.1 member
  exact ⟨works, lives, List.mem_singleton_self _⟩

end World.Worked

namespace Router

open World (Worked)

/-- A handler is neither the set-up nor the end of a pass. -/
theorem handler_works (direction : Direction) :
    Hook.handler direction ≠ .init ∧ Hook.handler direction ≠ .finalize := by
  cases direction <;> exact ⟨nofun, nofun⟩

theorem through_works (direction : Direction) (ctx : Context) :
    ∀ (passes : List (Probe τ)) (t : Transit),
      labels (through direction ctx passes t).1 = labels passes ∧
        Worked (labels passes) t.world (through direction ctx passes t).2.1.world ∧
        (t.exit = true → (through direction ctx passes t).2.1.exit = true)
  | [], t => ⟨rfl, .refl _ _, id⟩
  | p :: rest, t => by
      obtain ⟨same, calls, exits⟩ := p.handle_called direction ctx t
      obtain ⟨works, lives⟩ := handler_works direction
      have first : Worked (labels (p :: rest)) t.world
          (Pass.handle direction ctx t p).transit.world :=
        (Worked.single calls works lives).mono fun label is =>
          List.mem_singleton.1 is ▸ List.mem_cons_self
      obtain ⟨kept, others, exits'⟩ := through_works direction ctx rest
        (Pass.handle direction ctx t p).transit
      unfold through
      simp only
      split
      · exact ⟨congrArg (· :: labels rest) same, first, exits⟩
      · exact ⟨congrArg₂ List.cons same kept,
          first.trans (others.mono fun label => List.mem_cons_of_mem _), exits' ∘ exits⟩

theorem throughPinned_works (direction : Direction) (ctx : Context) (verdict : Verdict)
    (pinned : Option (Probe τ)) (t : Transit) :
    (throughPinned direction ctx verdict pinned t).1.map Probe.label = pinned.map Probe.label ∧
      Worked (labels pinned.toList) t.world (throughPinned direction ctx verdict pinned t).2.world ∧
      (t.exit = true → (throughPinned direction ctx verdict pinned t).2.exit = true) := by
  cases verdict with
  | stopChain => exact ⟨rfl, .refl _ _, id⟩
  | proceed =>
      cases pinned with
      | none => exact ⟨rfl, .refl _ _, id⟩
      | some p =>
          obtain ⟨same, calls, exits⟩ := p.handle_called direction ctx t
          obtain ⟨works, lives⟩ := handler_works direction
          exact ⟨congrArg some same, .single calls works lives, exits⟩

theorem idleAll_works (now : Nat) : ∀ (passes : List (Probe τ)) (i : Idle),
    labels (idleAll now passes i).1 = labels passes ∧
      Worked (labels passes) i.world (idleAll now passes i).2.world ∧
      (i.exit = true → (idleAll now passes i).2.exit = true)
  | [], i => ⟨rfl, .refl _ _, id⟩
  | p :: rest, i => by
      obtain ⟨same, calls, exits⟩ := p.rest_called now i
      have first : Worked (labels (p :: rest)) i.world (Pass.rest now i p).2.world :=
        (Worked.single calls nofun nofun).mono fun label is =>
          List.mem_singleton.1 is ▸ List.mem_cons_self
      obtain ⟨kept, others, exits'⟩ := idleAll_works now rest (Pass.rest now i p).2
      exact ⟨congrArg₂ List.cons same kept,
        first.trans (others.mono fun label => List.mem_cons_of_mem _), exits' ∘ exits⟩

/-- What becomes of a router that only lets its probes work: it holds the same ones, and does not
take back that the session is to end. -/
structure Works (r after : Router (Probe τ)) : Prop where
  passes : labels after.passes = labels r.passes
  pinned : after.pinned.map Probe.label = r.pinned.map Probe.label
  calls : Worked (labels r.chain) r.world after.world
  exit : r.exit = true → after.exit = true
  finalized : after.finalized = r.finalized

omit [Pass τ] in
theorem mem_labels_passes (r : Router (Probe τ)) :
    ∀ label ∈ labels r.passes, label ∈ labels r.chain := by
  intro label member
  unfold labels chain
  rw [List.map_append]
  exact List.mem_append_left _ member

omit [Pass τ] in
theorem mem_labels_pinned (r : Router (Probe τ)) :
    ∀ label ∈ labels r.pinned.toList, label ∈ labels r.chain := by
  intro label member
  unfold labels chain
  rw [List.map_append]
  exact List.mem_append_right _ member

theorem route_works (r : Router (Probe τ)) (m : Message) (now : Nat) :
    r.Works (r.route m now).router := by
  let ctx : Context := ⟨r.objects, now⟩
  let first := through m.direction ctx r.passes ⟨m, false, r.exit, r.world⟩
  obtain ⟨passes, calls, exits⟩ :=
    through_works m.direction ctx r.passes ⟨m, false, r.exit, r.world⟩
  obtain ⟨pinned, calls', exits'⟩ :=
    throughPinned_works m.direction ctx first.2.2 r.pinned first.2.1
  exact {
    passes := passes
    pinned := pinned
    calls := ((calls.mono r.mem_labels_passes).trans (calls'.mono r.mem_labels_pinned)).count _
    exit := exits' ∘ exits
    finalized := rfl }

theorem idle_works (r : Router (Probe τ)) (now : Nat) : r.Works (r.idle now) := by
  obtain ⟨passes, calls, exits⟩ := idleAll_works now r.passes ⟨r.exit, r.world⟩
  have calls := calls.mono r.mem_labels_passes
  unfold idle
  cases is : r.pinned with
  | none => exact ⟨passes, by rw [is], calls, exits, rfl⟩
  | some p =>
      obtain ⟨same, call, exits'⟩ := p.rest_called now (idleAll now r.passes ⟨r.exit, r.world⟩).2
      have last := (Worked.single call nofun nofun).mono fun label member =>
        r.mem_labels_pinned label (by rw [is]; exact member)
      exact {
        passes := passes
        pinned := by
          rw [is]
          exact congrArg some same
        calls := calls.trans last
        exit := exits' ∘ exits
        finalized := rfl }

/-! ## The end -/

/-- The calls that finalize probes with these labels, in this order. -/
def finalizing (among : List String) : List Call :=
  among.map fun label => ⟨.finalize, label⟩

theorem finalizeAll_called (passes : List (Probe τ)) (w : World) :
    labels (finalizeAll passes w).1 = labels passes ∧
      (finalizeAll passes w).2.calls = w.calls ++ finalizing (labels passes).reverse := by
  induction passes with
  | nil => exact ⟨rfl, (List.append_nil _).symm⟩
  | cons p rest ih =>
      obtain ⟨kept, calls⟩ := ih
      obtain ⟨same, call⟩ := p.cleanUp_called (finalizeAll rest w).2
      refine ⟨congrArg₂ List.cons same kept, ?_⟩
      show (Pass.cleanUp (finalizeAll rest w).2 p).2.calls = _
      rw [call, calls, List.append_assoc]
      simp [finalizing, labels]

/-- **The first shutdown** finalizes every probe, the pinned one first and then the others from the
last to the first. -/
theorem shutdown_finalizes {r : Router (Probe τ)} (open_ : r.finalized = false) :
    labels r.shutdown.passes = labels r.passes ∧
      r.shutdown.pinned.map Probe.label = r.pinned.map Probe.label ∧
      r.shutdown.world.calls =
        r.world.calls ++ finalizing (labels r.pinned.toList ++ (labels r.passes).reverse) ∧
      r.shutdown.exit = true ∧ r.shutdown.finalized = true := by
  unfold shutdown
  rw [if_neg (by simp [open_])]
  cases r.pinned with
  | none =>
      obtain ⟨kept, calls⟩ := finalizeAll_called r.passes r.world
      exact ⟨kept, rfl, calls, rfl, rfl⟩
  | some p =>
      obtain ⟨same, call⟩ := p.cleanUp_called r.world
      obtain ⟨kept, calls⟩ := finalizeAll_called r.passes (Pass.cleanUp r.world p).2
      refine ⟨kept, congrArg some same, ?_, rfl, rfl⟩
      show (finalizeAll r.passes (Pass.cleanUp r.world p).2).2.calls = _
      rw [calls, call, List.append_assoc]
      rfl

/-! ## The beginning -/

/-- Everything that registering a probe can come to. -/
inductive Registering (r : Router (Probe τ)) (storage : Storage) (p : Probe τ)
    (args : List String) : Except Fault Unit × Router (Probe τ) → Prop where
  /-- The place at the end is taken; the probe is not even set up. -/
  | refused (fault : Fault) (pinned : Pass.pinned p = true) (taken : r.pinned.isSome = true) :
      Registering r storage p args (.error fault, r)
  /-- The set-up failed. -/
  | failed (fault : Fault) (w : World) (free : Pass.pinned p = true → r.pinned = none)
      (calls : w.calls = r.world.calls ++ [⟨.init, p.label⟩]) :
      Registering r storage p args (.error fault, { r with world := w })
  /-- The probe, once it is set up, runs after all others. -/
  | last (ready : Probe τ) (w : World) (free : Pass.pinned p = true → r.pinned = none)
      (set : (Pass.setUp storage args r.world p).1 = .ok ready) (pinned : Pass.pinned ready = true)
      (same : ready.label = p.label) (calls : w.calls = r.world.calls ++ [⟨.init, p.label⟩]) :
      Registering r storage p args (.ok (), { r with pinned := some ready, world := w })
  /-- The probe runs after those registered before. -/
  | next (ready : Probe τ) (w : World)
      (set : (Pass.setUp storage args r.world p).1 = .ok ready)
      (unpinned : Pass.pinned ready = false) (same : ready.label = p.label)
      (calls : w.calls = r.world.calls ++ [⟨.init, p.label⟩]) :
      Registering r storage p args (.ok (), { r with passes := r.passes ++ [ready], world := w })

/-- **Every registration is one of these.** -/
theorem register_registering (r : Router (Probe τ)) (storage : Storage) (p : Probe τ)
    (args : List String) : Registering r storage p args (r.register storage p args) := by
  obtain ⟨same, calls⟩ := p.setUp_called storage args r.world
  unfold register
  simp only
  split
  · rename_i taken
    exact .refused _ taken.1 taken.2
  · rename_i free
    have free : Pass.pinned p = true → r.pinned = none := fun pinned =>
      Option.not_isSome_iff_eq_none.1 fun taken => free ⟨pinned, taken⟩
    cases set : Pass.setUp storage args r.world p with
    | mk outcome w =>
        rw [set] at same calls
        cases outcome with
        | error fault =>
            exact .failed _ _ free (((World.calls_log _ _ _ _ _).trans
              (World.calls_log _ _ _ _ _)).trans calls)
        | ok ready =>
            have isReady := congrArg Prod.fst set
            cases place : Pass.pinned ready with
            | true =>
                simp only [place, if_true]
                exact .last ready w free isReady place (same ready rfl) calls
            | false =>
                simp only [place, Bool.false_eq_true, if_false]
                exact .next ready w isReady place (same ready rfl) calls

end Router

end WaylandProxy
