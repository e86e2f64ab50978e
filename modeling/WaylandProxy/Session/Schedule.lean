/-
# Session.Schedule -- what comes next, and when

A session is a list of messages with their offsets, a tick that comes back with a period,
and some time to go on after the last message.  `next` says what to do at a moment: a
message whose offset has come goes before a tick that is due, and when neither is due there
is a moment to wait for.  After the last message the ticks go on for the linger, counted
from when the messages were found to be at an end, and the session is over before a tick
at that very moment.

A tick that comes more than five milliseconds late puts the ticks after it off by as much.
-/
import WaylandProxy.Capture.Line

namespace WaylandProxy

set_option autoImplicit false

structure Schedule where
  entries : List Entry
  /-- When the next tick is due. -/
  tickDue : Nat
  period : Nat
  linger : Nat
  /-- When the session is over, once there are no messages left. -/
  deadline : Option Nat
  period_pos : 0 < period

inductive Beat where
  /-- Nothing is left. -/
  | over
  /-- A message is due. -/
  | deliver (entry : Entry) (rest : Schedule)
  /-- A tick is due. -/
  | tick (rest : Schedule)
  /-- Nothing is due before a later moment. -/
  | wait (moment : Nat) (rest : Schedule)

namespace Schedule

def start (entries : List Entry) (period linger : Nat) (h : 0 < period) : Schedule :=
  ⟨entries, 0, period, linger, none, h⟩

/-- How late a tick may be without putting off the ticks after it. -/
def tolerance : Nat := millis 5

/-- The schedule after the tick that is due was taken at a moment. -/
def afterTick (s : Schedule) (now : Nat) : Schedule :=
  { s with tickDue := (if now ≤ s.tickDue + tolerance then s.tickDue else now) + s.period }

/-- A tick, or the moment when a tick or whatever comes at `target` is due. -/
def tickOrWait (s : Schedule) (now target : Nat) : Beat :=
  if s.tickDue ≤ now then .tick (s.afterTick now) else .wait (min s.tickDue target) s

/-- The schedule with its end fixed. -/
def withDeadline (s : Schedule) (deadline : Nat) : Schedule :=
  { s with deadline := some deadline }

def next (s : Schedule) (now : Nat) : Beat :=
  match s.entries with
  | entry :: rest =>
    if entry.offset ≤ now then .deliver entry { s with entries := rest }
    else s.tickOrWait now entry.offset
  | [] =>
    let deadline := s.deadline.getD (now + s.linger)
    if deadline ≤ now then .over
    else (s.withDeadline deadline).tickOrWait now deadline

/-- When the next message or the end comes, as things stand at a moment. -/
def target (s : Schedule) (now : Nat) : Nat :=
  match s.entries with
  | entry :: _ => entry.offset
  | [] => s.deadline.getD (now + s.linger)

/-- How much is left: messages, and time until what comes after them. -/
def remaining (s : Schedule) (now : Nat) : Nat × Nat :=
  (s.entries.length, (s.target now - now) + (s.target now - s.tickDue))

/-- One pair of numbers comes before another: by the first, then by the second. -/
abbrev Less : Nat × Nat → Nat × Nat → Prop :=
  Prod.Lex (· < ·) (· < ·)

theorem tickDue_lt_afterTick (s : Schedule) (now : Nat) :
    s.tickDue < (s.afterTick now).tickDue := by
  have := s.period_pos
  simp only [afterTick]
  split <;> simp only [tolerance, millis] at * <;> omega

theorem remaining_deliver {s rest : Schedule} {now : Nat} {entry : Entry}
    (h : s.next now = .deliver entry rest) : Less (rest.remaining now) (s.remaining now) := by
  unfold next at h
  split at h
  · rename_i e tail he
    split at h
    · cases h
      exact .left _ _ (by simp [he])
    · simp only [tickOrWait] at h
      split at h <;> cases h
  · dsimp only at h
    split at h
    · cases h
    · simp only [tickOrWait] at h
      split at h <;> cases h

theorem remaining_tickOrWait {s rest : Schedule} {now : Nat} (later : now < s.target now)
    (h : s.tickOrWait now (s.target now) = .tick rest) :
    Less (rest.remaining now) (s.remaining now) := by
  simp only [tickOrWait] at h
  split at h
  · rename_i due
    cases h
    have lt := s.tickDue_lt_afterTick now
    have same : (s.afterTick now).target now = s.target now := rfl
    refine .right _ ?_
    rw [same]
    omega
  · cases h

theorem remaining_tickOrWait_wait {s rest : Schedule} {now moment : Nat}
    (fixed : s.target moment = s.target now) (later : now < s.target now)
    (h : s.tickOrWait now (s.target now) = .wait moment rest) :
    rest = s ∧ now < moment ∧ Less (s.remaining moment) (s.remaining now) := by
  simp only [tickOrWait] at h
  split at h
  · cases h
  · cases h
    refine ⟨rfl, by omega, .right _ ?_⟩
    rw [fixed]
    omega

theorem next_nil {s : Schedule} (now : Nat) (empty : s.entries = []) :
    s.next now =
      if s.deadline.getD (now + s.linger) ≤ now then .over
      else (s.withDeadline (s.deadline.getD (now + s.linger))).tickOrWait now
        (s.deadline.getD (now + s.linger)) := by
  unfold next
  split
  · simp_all
  · rfl

theorem target_withDeadline {s : Schedule} (empty : s.entries = []) (deadline now : Nat) :
    (s.withDeadline deadline).target now = deadline := by
  simp [withDeadline, target, empty]

theorem remaining_withDeadline {s : Schedule} (empty : s.entries = []) (now : Nat) :
    (s.withDeadline (s.deadline.getD (now + s.linger))).remaining now = s.remaining now := by
  simp [remaining, withDeadline, target, empty]

theorem remaining_tick {s rest : Schedule} {now : Nat} (h : s.next now = .tick rest) :
    Less (rest.remaining now) (s.remaining now) := by
  by_cases empty : s.entries = []
  · rw [next_nil now empty] at h
    split at h
    · cases h
    · rename_i later
      rw [← remaining_withDeadline empty now]
      refine remaining_tickOrWait ?_ ?_ <;> rw [target_withDeadline empty]
      · omega
      · exact h
  · obtain ⟨e, tail, he⟩ := List.exists_cons_of_ne_nil empty
    have target : s.target now = e.offset := by simp [Schedule.target, he]
    unfold next at h
    rw [he] at h
    dsimp only at h
    split at h
    · cases h
    · exact remaining_tickOrWait (by omega) (target ▸ h)

theorem remaining_wait {s rest : Schedule} {now moment : Nat}
    (h : s.next now = .wait moment rest) : Less (rest.remaining moment) (s.remaining now) := by
  by_cases empty : s.entries = []
  · rw [next_nil now empty] at h
    split at h
    · cases h
    · rename_i later
      have fixed : ∀ t, (s.withDeadline (s.deadline.getD (now + s.linger))).target t =
          s.deadline.getD (now + s.linger) := target_withDeadline empty _
      have waits : (s.withDeadline (s.deadline.getD (now + s.linger))).tickOrWait now
          ((s.withDeadline (s.deadline.getD (now + s.linger))).target now) =
            .wait moment rest := by
        rw [fixed]
        exact h
      have step := remaining_tickOrWait_wait ((fixed moment).trans (fixed now).symm)
        (by rw [fixed]; omega) waits
      rw [← remaining_withDeadline empty now, step.1]
      exact step.2.2
  · obtain ⟨e, tail, he⟩ := List.exists_cons_of_ne_nil empty
    have fixed : ∀ t, s.target t = e.offset := fun t => by simp [Schedule.target, he]
    unfold next at h
    rw [he] at h
    dsimp only at h
    split at h
    · cases h
    · have step := remaining_tickOrWait_wait ((fixed moment).trans (fixed now).symm)
        (by rw [fixed]; omega) (by rw [fixed]; exact h)
      rw [step.1]
      exact step.2.2

end Schedule

end WaylandProxy
