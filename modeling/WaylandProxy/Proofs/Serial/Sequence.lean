/-
# Proofs.Serial.Sequence -- the serials that were given out

Whatever a tracker gives out is an `Issue`: a serial, and the server's serial behind it
unless the serial was taken for a synthesized event.  What one operation of the tracker
does to its books is one of three things (`Tracker.Issued`): it gives out nothing, it puts
the serial that is due in the place of a serial of the server, or it takes the serial that
is due for itself.  Every operation has one lemma that says which of these it does.

A `Ledger` ties the tracker to everything it gave out: the serials are consecutive, the
last one is the tracker's, and the tracker remembers the latest renumberings.  From
consecutive serials alone follows that no serial comes again within `2 ^ 32` issues
(`Issue.Consecutive.serial_ne`).
-/
import Mathlib.Algebra.Group.Nat.Defs
import Mathlib.Data.List.Chain
import WaylandProxy.Serial.Tracker

namespace WaylandProxy

set_option autoImplicit false

/-- A serial given out to the client, and the server's serial behind it if there is one. -/
structure Issue where
  serial : UInt32
  origin : Option UInt32
  deriving DecidableEq, Repr

namespace Issue

/-- Each serial is the one after the serial before it; the first is the server's own, or 1
if none of the server's stands behind it. -/
structure Consecutive (issues : List Issue) : Prop where
  first : ∀ i ∈ issues.head?, i.serial = i.origin.getD 1
  next : issues.IsChain fun i j => j.serial = i.serial + 1

/-- Issued serial and the server's serial of the issues that the server stands behind. -/
def renumberings (issues : List Issue) : List (UInt32 × UInt32) :=
  issues.filterMap fun i => i.origin.map fun origin => (i.serial, origin)

theorem mem_renumberings {issues : List Issue} {serial origin : UInt32} :
    (serial, origin) ∈ renumberings issues ↔ (⟨serial, some origin⟩ : Issue) ∈ issues := by
  constructor
  · intro member
    obtain ⟨i, inIssues, found⟩ := List.mem_filterMap.1 member
    obtain ⟨o, behind, pair⟩ := Option.map_eq_some_iff.1 found
    cases pair
    have same : i = ⟨i.serial, some origin⟩ := by rw [← behind]
    exact same ▸ inIssues
  · intro member
    exact List.mem_filterMap.2 ⟨_, member, rfl⟩

theorem renumberings_append (issues more : List Issue) :
    renumberings (issues ++ more) = renumberings issues ++ renumberings more :=
  List.filterMap_append

namespace Consecutive

variable {issues : List Issue}

theorem nil : Consecutive [] where
  first := by simp
  next := .nil

/-- One more issue goes on with the serial after the last one. -/
theorem snoc (consecutive : Consecutive issues) {i : Issue}
    (follows : i.serial = ((issues.getLast?.map fun last => last.serial + 1).getD
      (i.origin.getD 1))) : Consecutive (issues ++ [i]) := by
  refine ⟨?_, ?_⟩
  · cases issues with
    | nil => simpa using follows
    | cons head rest => simpa using consecutive.first
  · rw [List.isChain_append]
    refine ⟨consecutive.next, .singleton i, ?_⟩
    intro last isLast j isHead
    cases Option.mem_def.1 isHead
    simpa [Option.mem_def.1 isLast] using follows

/-- The serial of the issue at `k` is the first one plus `k`. -/
theorem serial_eq (consecutive : Consecutive issues) {first : Issue}
    (isFirst : issues[0]? = some first) :
    ∀ {k : Nat} {i : Issue}, issues[k]? = some i → i.serial = first.serial + UInt32.ofNat k
  | 0, i, isAt => by
      have same : first = i := Option.some.inj (isFirst.symm.trans isAt)
      simp [same]
  | k + 1, i, isAt => by
      obtain ⟨inside, here⟩ := List.getElem?_eq_some_iff.1 isAt
      have insideBefore : k < issues.length := by omega
      have before := consecutive.serial_eq isFirst (List.getElem?_eq_getElem insideBefore)
      have step := List.isChain_iff_getElem.1 consecutive.next k inside
      rw [← here, step, before, UInt32.ofNat_add, UInt32.add_assoc]
      rfl

/-- No serial comes again within `2 ^ 32` issues. -/
theorem serial_ne (consecutive : Consecutive issues) {j k : Nat} {earlier later : Issue}
    (isEarlier : issues[j]? = some earlier) (isLater : issues[k]? = some later)
    (before : j < k) (near : k - j < 2 ^ 32) : earlier.serial ≠ later.serial := by
  intro same
  obtain ⟨inside, -⟩ := List.getElem?_eq_some_iff.1 isLater
  have isFirst := List.getElem?_eq_getElem (by omega : 0 < issues.length)
  rw [consecutive.serial_eq isFirst isEarlier, consecutive.serial_eq isFirst isLater] at same
  have offsets := congrArg UInt32.toNat (UInt32.add_right_inj _ |>.1 same)
  simp only [UInt32.toNat_ofNat'] at offsets
  omega

end Consecutive

end Issue

namespace Tracker

/-- The serial that is due: the one after the last, or else the server's own, or else 1. -/
def due (t : Tracker) (origin : Option UInt32) : UInt32 :=
  (t.serial.map fun last => last + 1).getD (origin.getD 1)

theorem nextSerial_eq_due (t : Tracker) : t.nextSerial = t.due none := by
  unfold nextSerial due
  cases t.serial <;> rfl

/-- What one operation does to the books of a tracker. -/
inductive Issued (t : Tracker) : Option Issue → Tracker → Prop where
  /-- Nothing was given out. -/
  | nothing (after : Tracker) (serial : after.serial = t.serial)
      (origins : after.origins = t.origins) : Issued t none after
  /-- The serial that is due went out in the place of one of the server's. -/
  | renumbered (after : Tracker) (origin : UInt32)
      (serial : after.serial = some (t.due (some origin)))
      (origins : after.origins =
        ((t.due (some origin), origin) :: t.origins).take historySize) :
      Issued t (some ⟨t.due (some origin), some origin⟩) after
  /-- The serial that is due was taken for an event of our own. -/
  | taken (after : Tracker) (serial : after.serial = some (t.due none))
      (origins : after.origins = t.origins) : Issued t (some ⟨t.due none, none⟩) after

/-- The word of a server's message that carries a serial to be renumbered. -/
def renumberedWord? (t : Tracker) (resolved : Option Resolved) (m : Message) : Option Nat :=
  if m.flaw?.isSome then none
  else if m.opcode = doneOpcode ∧ t.frame = some m.object then none
  else
    let word :=
      if m.opcode = doneOpcode ∧ t.syncs.oldest? = some m.object then some 2
      else resolved.bind fun r => SerialPlace.find? SerialPlace.issuing r.interface m.opcode
    word.filter fun word => (m.word? word).isSome

/-- The issue that a server's message is, if its serial is renumbered into what `left` holds. -/
def issueIn? (t : Tracker) (resolved : Option Resolved) (m left : Message) : Option Issue :=
  (t.renumberedWord? resolved m).bind fun word =>
    (left.word? word).map fun serial => ⟨serial, m.word? word⟩

theorem setWord_of_word? {m : Message} {word : Nat} {old : UInt32} (has : m.word? word = some old)
    (new : UInt32) : m.setWord word new = .ok { m with words := m.words.set word new } := by
  obtain ⟨inside, -⟩ := List.getElem?_eq_some_iff.1 has
  exact if_pos inside

theorem renumber_of_word? (t : Tracker) {m : Message} {word : Nat} {origin : UInt32}
    (has : m.word? word = some origin) :
    t.renumber m word =
      ⟨t.remember (t.due (some origin)) origin,
        { m with words := m.words.set word (t.due (some origin)) },
        some (t.due (some origin)), none⟩ := by
  obtain ⟨inside, here⟩ := List.getElem?_eq_some_iff.1 has
  unfold renumber due
  rw [has]
  cases t.serial with
  | none =>
      -- the first serial is adopted: the word is set to what it was
      have same : m.words.set word origin = m.words := by rw [← here, List.set_getElem_self]
      simp [same]
  | some last => simp [setWord_of_word? has]

theorem renumber_of_none (t : Tracker) {m : Message} {word : Nat} (lacks : m.word? word = none) :
    t.renumber m word = t.malformed m "serial index out of bounds" := by
  unfold renumber
  rw [lacks]

/-- Only the last serial and the remembered renumberings make up the books. -/
theorem Issued.of_same_books {t same after : Tracker} {issue : Option Issue}
    (serial : same.serial = t.serial) (origins : same.origins = t.origins)
    (issued : same.Issued issue after) : t.Issued issue after := by
  have due (origin : Option UInt32) : same.due origin = t.due origin := by
    unfold Tracker.due
    rw [serial]
  cases issued with
  | nothing _ serial' origins' => exact .nothing _ (serial'.trans serial) (origins'.trans origins)
  | renumbered _ origin serial' origins' =>
      rw [due] at *
      exact .renumbered _ origin serial' (by rw [origins', origins])
  | taken _ serial' origins' =>
      rw [due] at *
      exact .taken _ serial' (origins'.trans origins)

/-- How an observation leaves a message of the server and the books: with the serial at
`word?` renumbered, or as they were. -/
inductive Renumbers (t : Tracker) (m : Message) : Option Nat → Observed → Prop where
  | word (word : Nat) (origin : UInt32) (seen : Observed) (has : m.word? word = some origin)
      (message : seen.message = { m with words := m.words.set word (t.due (some origin)) })
      (given : seen.issued = some (t.due (some origin)))
      (errors : seen.tracker.formatErrors = t.formatErrors)
      (issued : t.Issued (some ⟨t.due (some origin), some origin⟩) seen.tracker) :
      Renumbers t m (some word) seen
  | nothing (seen : Observed) (message : seen.message = m) (given : seen.issued = none)
      (issued : t.Issued none seen.tracker) : Renumbers t m none seen

/-- Renumbering at a word leaves a message that lacks it as it was. -/
theorem renumber_renumbers (t : Tracker) (m : Message) (word : Nat) :
    t.Renumbers m ((some word).filter fun word => (m.word? word).isSome) (t.renumber m word) := by
  cases has : m.word? word with
  | none =>
      rw [t.renumber_of_none has, Option.filter_some_neg (by simp [has])]
      exact .nothing _ rfl rfl (.nothing _ rfl rfl)
  | some origin =>
      rw [t.renumber_of_word? has, Option.filter_some_pos (by simp [has])]
      exact .word word origin _ has rfl rfl rfl (.renumbered _ origin rfl rfl)

theorem Renumbers.of_same_books {t same : Tracker} {m : Message} {word : Option Nat}
    {seen : Observed} (serial : same.serial = t.serial) (origins : same.origins = t.origins)
    (errors : same.formatErrors = t.formatErrors) (renumbers : same.Renumbers m word seen) :
    t.Renumbers m word seen := by
  have due (origin : Option UInt32) : same.due origin = t.due origin := by
    unfold Tracker.due
    rw [serial]
  cases renumbers with
  | word word origin _ has message given errors' issued =>
      rw [due] at *
      exact .word word origin _ has message given (errors'.trans errors)
        (issued.of_same_books serial origins)
  | nothing _ message given issued =>
      exact .nothing _ message given (issued.of_same_books serial origins)

/-- A message of the server has its serial renumbered where there is one, and is left alone
otherwise. -/
theorem observeServer_renumbers (t : Tracker) (resolved : Option Resolved) (m : Message)
    (now : Nat) :
    t.Renumbers m (t.renumberedWord? resolved m) (t.observeServer resolved m now) := by
  unfold renumberedWord? observeServer observeEvent
  cases m.flaw? with
  | some flaw => exact .nothing _ rfl rfl (.nothing _ rfl rfl)
  | none =>
      simp only [Option.isSome_none, Bool.false_eq_true, if_false]
      split
      · cases m.word? 2 with
        | none => exact .nothing _ rfl rfl (.nothing _ rfl rfl)
        | some stamp => exact .nothing _ rfl rfl (.nothing _ rfl rfl)
      · split
        · refine Renumbers.of_same_books ?_ ?_ ?_ (renumber_renumbers _ m 2) <;> rfl
        · cases resolved with
          | none => exact .nothing _ rfl rfl (.nothing _ rfl rfl)
          | some r =>
              simp only [Option.bind_some]
              cases SerialPlace.find? SerialPlace.issuing r.interface m.opcode with
              | none => exact .nothing _ rfl rfl (.nothing _ rfl rfl)
              | some word => exact renumber_renumbers t m word

/-- What a message of the server gives out is the serial left in it, and the tracker says the
same. -/
theorem observeServer_issued (t : Tracker) (resolved : Option Resolved) (m : Message)
    (now : Nat) :
    let seen := t.observeServer resolved m now
    let issue := t.issueIn? resolved m seen.message
    t.Issued issue seen.tracker ∧ issue.map Issue.serial = seen.issued := by
  have renumbers := t.observeServer_renumbers resolved m now
  unfold issueIn?
  generalize t.renumberedWord? resolved m = place at renumbers ⊢
  cases renumbers with
  | nothing _ message given issued => exact ⟨issued, given.symm⟩
  | word word origin _ has message given errors issued =>
      obtain ⟨inside, -⟩ := List.getElem?_eq_some_iff.1 has
      have left : (t.observeServer resolved m now).message.word? word =
          some (t.due (some origin)) := by
        rw [message]
        exact List.getElem?_set_self inside
      simp only [Option.bind_some, left, Option.map_some, has, given, and_true]
      exact issued

theorem renumberedWord?_of_errors (t : Tracker) (resolved : Option Resolved) (m : Message)
    (now : Nat)
    (malformed : (t.observeServer resolved m now).tracker.formatErrors ≠ t.formatErrors) :
    t.renumberedWord? resolved m = none := by
  have renumbers := t.observeServer_renumbers resolved m now
  generalize t.renumberedWord? resolved m = place at renumbers
  cases renumbers with
  | nothing _ message given issued => rfl
  | word word origin _ has message given errors issued => exact absurd errors malformed

/-- Taking the next serial, as it is looked up, gives out the serial that is due. -/
theorem issue_issued (t : Tracker) :
    t.Issued (some ⟨t.nextSerial, none⟩) (t.issue t.nextSerial) := by
  rw [nextSerial_eq_due]
  exact .taken _ rfl rfl

/-- The word where the client echoes a serial gets the server's serial behind it, or stays
as it is where none is known. -/
theorem restore_of_word? (t : Tracker) {m : Message} {word : Nat} {seen : UInt32}
    (has : m.word? word = some seen) :
    t.restore m word =
      t.pass { m with words := m.words.set word ((t.originOf seen).getD seen) } := by
  obtain ⟨inside, here⟩ := List.getElem?_eq_some_iff.1 has
  have same : m.words.set word seen = m.words := by rw [← here, List.set_getElem_self]
  simp only [restore, has]
  cases t.originOf seen with
  | none => simp [same]
  | some origin =>
      by_cases equal : origin = seen
      · simp [equal, same]
      · simp [equal, setWord_of_word? has]

theorem restore_of_none (t : Tracker) {m : Message} {word : Nat} (lacks : m.word? word = none) :
    t.restore m word = t.malformed m "serial index out of bounds" := by
  unfold restore
  rw [lacks]

theorem observeRequest_issued (t : Tracker) (request : Request) (m : Message) :
    t.Issued none (t.observeRequest request m).tracker := by
  unfold observeRequest
  cases request <;> simp only <;> (repeat' split) <;> exact .nothing _ rfl rfl

/-- A message of the client gives out nothing. -/
theorem observeClient_issued (t : Tracker) (resolved : Option Resolved) (m : Message) :
    t.Issued none (t.observeClient resolved m).tracker := by
  unfold observeClient
  cases m.flaw? with
  | some flaw => exact .nothing _ rfl rfl
  | none =>
      cases resolved with
      | none => exact .nothing _ rfl rfl
      | some r =>
          simp only
          cases SerialPlace.find? SerialPlace.echoing r.interface m.opcode with
          | none => exact observeRequest_issued t _ m
          | some word =>
              show t.Issued none (t.restore m word).tracker
              cases has : m.word? word with
              | none =>
                  rw [t.restore_of_none has]
                  exact .nothing _ rfl rfl
              | some seen =>
                  rw [t.restore_of_word? has]
                  exact .nothing _ rfl rfl

/-! ## The ledger -/

/-- The tracker after everything in the list was given out. -/
structure Ledger (issues : List Issue) (t : Tracker) : Prop where
  consecutive : Issue.Consecutive issues
  last : t.serial = issues.getLast?.map Issue.serial
  origins : t.origins = (Issue.renumberings issues).reverse.take historySize

theorem ledger_start (now : Nat) : Ledger [] (start now) where
  consecutive := .nil
  last := rfl
  origins := rfl

theorem Ledger.due_eq {issues : List Issue} {t : Tracker} (ledger : Ledger issues t)
    (origin : Option UInt32) :
    t.due origin = ((issues.getLast?.map fun last => last.serial + 1).getD (origin.getD 1)) := by
  unfold due
  rw [ledger.last, Option.map_map]
  rfl

/-- Every operation keeps the ledger, with what it gave out at the end. -/
theorem Ledger.after {issues : List Issue} {t after : Tracker} {issue : Option Issue}
    (ledger : Ledger issues t) (issued : t.Issued issue after) :
    Ledger (issues ++ issue.toList) after := by
  cases issued with
  | nothing _ serial origins =>
      simp only [Option.toList_none, List.append_nil]
      exact ⟨ledger.consecutive, serial.trans ledger.last, origins.trans ledger.origins⟩
  | renumbered _ origin serial origins =>
      refine ⟨ledger.consecutive.snoc (ledger.due_eq _), ?_, ?_⟩
      · simp [serial]
      · rw [origins, ledger.origins, Issue.renumberings_append]
        simp [Issue.renumberings, historySize, List.take_take]
  | taken _ serial origins =>
      refine ⟨ledger.consecutive.snoc (ledger.due_eq _), ?_, ?_⟩
      · simp [serial]
      · rw [origins, ledger.origins, Issue.renumberings_append]
        simp [Issue.renumberings]

end Tracker

end WaylandProxy
