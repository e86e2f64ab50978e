/-
# Proofs.Input.Legality -- random gestures are what a hand could do

A switch is something that gestures turn on and off: the pointer being on the surface, a button, a
key.  What it was last set to is read off the gestures themselves (`Gesture.isOn`), so what is
legal after them needs no state (`Gesture.Legal`), and a code whose every setting is the opposite
of the one before alternates from a press on (`Gesture.alternates`).

The source keeps that state instead.  Its flag and its lists say what the gestures that were
consumed say (`Procedural.Recalls`), and what it draws by them is legal
(`Procedural.legal_drawGesture`).  A gesture drawn but not consumed stays legal because nothing is
consumed before it, so this holds for any order of looking and advancing, and for any outcome of
the draws (`Procedural.consumed_gestures_are_legal`).
-/
import Mathlib.Data.List.Induction
import Mathlib.Tactic.SplitIfs
import WaylandProxy.Input.Procedural
import WaylandProxy.Proofs.Machine
import WaylandProxy.Proofs.Random.Range

namespace WaylandProxy

set_option autoImplicit false

namespace Gesture

/-! ## What gestures say of a switch -/

/-- Onto the surface, or off it. -/
def crossing? : Gesture → Option Bool
  | .enter .. => some true
  | .leave => some false
  | _ => none

def button? (code : UInt32) : Gesture → Option Bool
  | .button other pressed => if other = code then some pressed else none
  | _ => none

def key? (code : UInt32) : Gesture → Option Bool
  | .key other pressed => if other = code then some pressed else none
  | _ => none

/-- What a switch was last set to; at first it is off. -/
def isOn (switch : Gesture → Option Bool) (done : List Gesture) : Bool :=
  (done.filterMap switch).getLast?.getD false

@[simp] theorem isOn_nil (switch : Gesture → Option Bool) : isOn switch [] = false := rfl

@[simp] theorem isOn_concat (switch : Gesture → Option Bool) (done : List Gesture) (g : Gesture) :
    isOn switch (done ++ [g]) = (switch g).getD (isOn switch done) := by
  cases set : switch g <;> simp [isOn, set]

/-- What a hand can do after some gestures. -/
def Legal (done : List Gesture) : Gesture → Prop
  | .enter .. => isOn crossing? done = false
  | .motion .. => isOn crossing? done = true
  | .leave => isOn crossing? done = true ∧ ∀ code, isOn (button? code) done = false
  | .button code pressed =>
    isOn crossing? done = true ∧ code ∈ Procedural.buttonCodes ∧
      pressed = !isOn (button? code) done
  | .key code pressed =>
    isOn crossing? done = true ∧ code ∈ Procedural.keyCodes ∧ pressed = !isOn (key? code) done

/-- A button is set to the opposite of what it was. -/
theorem Legal.button_turned {done : List Gesture} {g : Gesture} {code : UInt32} {b : Bool}
    (legal : Legal done g) (set : button? code g = some b) : b = !isOn (button? code) done := by
  cases g with
  | button other pressed =>
      obtain ⟨same, rfl⟩ : other = code ∧ pressed = b := by simpa [button?] using set
      exact same ▸ legal.2.2
  | _ => cases set

/-- A key is set to the opposite of what it was. -/
theorem Legal.key_turned {done : List Gesture} {g : Gesture} {code : UInt32} {b : Bool}
    (legal : Legal done g) (set : key? code g = some b) : b = !isOn (key? code) done := by
  cases g with
  | key other pressed =>
      obtain ⟨same, rfl⟩ : other = code ∧ pressed = b := by simpa [key?] using set
      exact same ▸ legal.2.2
  | _ => cases set

/-- Each of the gestures was legal after those before it. -/
def AllLegal (gestures : List Gesture) : Prop :=
  ∀ before g after, gestures = before ++ g :: after → Legal before g

theorem allLegal_nil : AllLegal [] := by
  intro before g after split
  simp at split

/-- One more gesture has only to be legal itself. -/
theorem AllLegal.concat {done : List Gesture} (legal : AllLegal done) {g : Gesture}
    (next : Legal done g) : AllLegal (done ++ [g]) := by
  intro before other after split
  obtain ⟨rfl, rfl, -⟩ | ⟨within, -, inside⟩ := entry_of_concat split
  · exact next
  · exact legal before other within inside

/-- The settings take turns, and the first of them is on. -/
def Alternates (settings : List Bool) : Prop :=
  ∀ (i : Nat) (b : Bool), settings[i]? = some b → b = decide (i % 2 = 0)

/-- The next setting is the opposite of the last one. -/
theorem Alternates.concat {settings : List Bool} (turns : Alternates settings) :
    Alternates (settings ++ [!settings.getLast?.getD false]) := by
  intro i b at_
  rcases Nat.lt_trichotomy i settings.length with inside | rfl | outside
  · rw [List.getElem?_append_left inside] at at_
    exact turns i b at_
  · rw [List.getElem?_append_right (Nat.le_refl _), Nat.sub_self, List.getElem?_cons_zero,
      Option.some.injEq, List.getLast?_eq_getElem?] at at_
    subst at_
    cases last : settings[settings.length - 1]? with
    | none =>
        have none : settings.length = 0 := by
          have := List.getElem?_eq_none_iff.1 last
          omega
        simp [none]
    | some b =>
        obtain ⟨some, -⟩ := List.getElem?_eq_some_iff.1 last
        rw [turns _ b last, Option.getD_some, ← decide_not]
        apply decide_eq_decide.2
        omega
  · rw [List.getElem?_eq_none (by simp; omega)] at at_
    cases at_

/-- A switch that legal gestures set to the opposite each time alternates. -/
theorem alternates {switch : Gesture → Option Bool} {gestures : List Gesture}
    (legal : AllLegal gestures)
    (turned : ∀ done g b, Legal done g → switch g = some b → b = !isOn switch done) :
    Alternates (gestures.filterMap switch) := by
  induction gestures using List.reverseRecOn with
  | nil =>
      intro i b at_
      simp at at_
  | append_singleton done g ih =>
      have before : AllLegal done := fun first other rest split =>
        legal first other (rest ++ [g]) (by rw [split, List.append_assoc, List.cons_append])
      rw [List.filterMap_append]
      cases set : switch g with
      | none => simpa [set] using ih before
      | some b =>
          have opposite := turned done g b (legal done g [] rfl) set
          rw [List.filterMap_cons_some set, List.filterMap_nil, opposite]
          exact (ih before).concat

end Gesture

namespace Procedural

open Gesture

/-! ## What the source remembers -/

section Memory

variable {γ : Type}

/-- The state of a source is what the gestures that were consumed say. -/
structure Recalls (s : Procedural γ) (done : List Gesture) : Prop where
  inside : s.inside = isOn crossing? done
  buttons : ∀ code, s.buttonsDown.contains code = isOn (button? code) done
  keys : ∀ code, s.keysDown.contains code = isOn (key? code) done

/-- Nothing that is recalled depends on what is drawn ahead. -/
theorem Recalls.redraw {s : Procedural γ} {done : List Gesture} (recalls : s.Recalls done)
    (next : Option Scheduled) (draws : γ) :
    Recalls { s with next := next, draws := draws } done :=
  ⟨recalls.inside, recalls.buttons, recalls.keys⟩

@[simp] theorem apply_next (s : Procedural γ) (g : Gesture) : (s.apply g).next = s.next := by
  cases g <;> rfl

@[simp] theorem apply_draws (s : Procedural γ) (g : Gesture) : (s.apply g).draws = s.draws := by
  cases g <;> rfl

@[simp] theorem apply_delayMin (s : Procedural γ) (g : Gesture) :
    (s.apply g).delayMin = s.delayMin := by
  cases g <;> rfl

@[simp] theorem apply_delayMax (s : Procedural γ) (g : Gesture) :
    (s.apply g).delayMax = s.delayMax := by
  cases g <;> rfl

/-- Of a code and the others, only the code changes. -/
theorem contains_hold (down : List UInt32) (code : UInt32) (pressed : Bool) (other : UInt32) :
    (hold down code pressed).contains other =
      if code = other then pressed else down.contains other := by
  by_cases same : code = other
  · subst same
    cases pressed <;> simp [hold]
  · have differ : other ≠ code := Ne.symm same
    cases pressed <;> simp [hold, same, differ]

theorem Recalls.apply {s : Procedural γ} {done : List Gesture} (recalls : s.Recalls done)
    (g : Gesture) : (s.apply g).Recalls (done ++ [g]) := by
  obtain ⟨inside, buttons, keys⟩ := recalls
  cases g with
  | enter x y => exact ⟨by simp [Procedural.apply, crossing?],
      by simpa [Procedural.apply, button?] using buttons,
      by simpa [Procedural.apply, key?] using keys⟩
  | leave => exact ⟨by simp [Procedural.apply, crossing?],
      by simpa [Procedural.apply, button?] using buttons,
      by simpa [Procedural.apply, key?] using keys⟩
  | motion x y => exact ⟨by simpa [Procedural.apply, crossing?] using inside,
      by simpa [Procedural.apply, button?] using buttons,
      by simpa [Procedural.apply, key?] using keys⟩
  | button code pressed =>
      refine ⟨by simpa [Procedural.apply, crossing?] using inside, fun other => ?_,
        by simpa [Procedural.apply, key?] using keys⟩
      simp only [Procedural.apply, contains_hold, isOn_concat, button?, buttons]
      split <;> rfl
  | key code pressed =>
      refine ⟨by simpa [Procedural.apply, crossing?] using inside,
        by simpa [Procedural.apply, button?] using buttons, fun other => ?_⟩
      simp only [Procedural.apply, contains_hold, isOn_concat, key?, keys]
      split <;> rfl

end Memory

/-! ## What the source draws -/

variable {γ : Type} [Draws γ]

theorem drawCode_mem [LawfulDraws γ] {codes : List UInt32} (some : codes ≠ [])
    (few : codes.length < 2 ^ 64) (g : γ) : (drawCode codes g).1 ∈ codes := by
  have positive : 0 < codes.length := List.length_pos_of_ne_nil some
  have last : (UInt64.ofNat (codes.length - 1)).toNat = codes.length - 1 := by
    rw [UInt64.toNat_ofNat', Nat.mod_eq_of_lt (by omega)]
  obtain ⟨-, high⟩ :=
    LawfulDraws.range64_mem 0 (UInt64.ofNat (codes.length - 1)) g (by simp [UInt64.le_iff_toNat_le])
  rw [UInt64.le_iff_toNat_le, last] at high
  have index : (Draws.range64 0 (UInt64.ofNat (codes.length - 1)) g).1.toNat < codes.length := by
    omega
  simp only [drawCode, List.getElem?_eq_getElem index, Option.getD_some]
  exact List.getElem_mem index

/-- **What is drawn is legal** after the gestures that the state recalls. -/
theorem legal_drawGesture [LawfulDraws γ] {s : Procedural γ} {done : List Gesture}
    (recalls : s.Recalls done) : Legal done s.drawGesture.1 := by
  obtain ⟨inside, buttons, keys⟩ := recalls
  unfold drawGesture
  cases place : s.inside with
  | false => simpa [drawPosition, Legal, ← inside] using place
  | true =>
      have on : isOn crossing? done = true := inside ▸ place
      have button (g : γ) : (drawCode buttonCodes g).1 ∈ buttonCodes :=
        drawCode_mem (by decide) (by decide) g
      have key (g : γ) : (drawCode keyCodes g).1 ∈ keyCodes :=
        drawCode_mem (by decide) (by decide) g
      simp only [Bool.not_true, Bool.false_eq_true, if_false]
      split
      · exact on
      split
      · exact ⟨on, button _, by rw [← buttons]⟩
      split
      · exact ⟨on, key _, by rw [← keys]⟩
      split
      · rename_i none
        refine ⟨on, fun code => ?_⟩
        rw [← buttons code, List.isEmpty_iff.1 none]
        rfl
      · exact on

/-- The delay is a number of milliseconds between two bounds. -/
def Timely (low high : Nat) (event : Scheduled) : Prop :=
  ∃ ms, event.delay = millis ms ∧ low ≤ ms ∧ ms ≤ high

theorem timely_generate [LawfulDraws γ] {s : Procedural γ} (ordered : s.delayMin ≤ s.delayMax) :
    Timely s.delayMin.toNat s.delayMax.toNat s.generate.1 := by
  obtain ⟨low, high⟩ :=
    LawfulDraws.range64_mem s.delayMin s.delayMax s.drawGesture.2 ordered
  exact ⟨_, rfl, UInt64.le_iff_toNat_le.1 low, UInt64.le_iff_toNat_le.1 high⟩

/-! ## Looking and advancing -/

inductive Call where
  /-- Look at the next event. -/
  | current
  /-- Go past it. -/
  | advance
  deriving DecidableEq, Repr

/-- A source under calls; what it gives out are the events that advancing consumes. -/
def machine (γ : Type) [Draws γ] : Machine (Procedural γ) Call Scheduled where
  step
    | s, .current => (EventSource.current s).2
    | s, .advance => EventSource.advance s
  out
    | _, .current => []
    | s, .advance => [s.prepare.1]

/-- Looking changes what is drawn ahead and the generator, and nothing else. -/
theorem prepare_snd (s : Procedural γ) :
    s.prepare.2 = { s with next := some s.prepare.1, draws := s.prepare.2.draws } := by
  obtain ⟨draws, delayMin, delayMax, next, inside, keys, buttons⟩ := s
  cases next <;> rfl

theorem advance_eq (s : Procedural γ) :
    s.advance =
      { s with next := none, draws := s.prepare.2.draws }.apply s.prepare.1.gesture := by
  show ({ s.prepare.2 with next := none } : Procedural γ).apply s.prepare.1.gesture = _
  rw [prepare_snd]

/-- The state of a source, with delays between two bounds, after the events that it consumed. -/
structure Sound (low high : Nat) (s : Procedural γ) (consumed : List Scheduled) : Prop where
  lower : s.delayMin.toNat = low
  upper : s.delayMax.toNat = high
  recalls : s.Recalls (consumed.map Scheduled.gesture)
  /-- What was drawn ahead may come next. -/
  ahead : ∀ event, s.next = some event →
    Legal (consumed.map Scheduled.gesture) event.gesture ∧ Timely low high event
  legal : AllLegal (consumed.map Scheduled.gesture)
  timely : ∀ event ∈ consumed, Timely low high event

variable {low high : Nat}

/-- The event that is looked at may come next. -/
theorem Sound.shown [LawfulDraws γ] {s : Procedural γ} {consumed : List Scheduled}
    (sound : Sound low high s consumed) (ordered : low ≤ high) :
    Legal (consumed.map Scheduled.gesture) s.prepare.1.gesture ∧ Timely low high s.prepare.1 := by
  cases drawn : s.next with
  | some event =>
      have shown : s.prepare.1 = event := by simp [prepare, drawn]
      exact shown ▸ sound.ahead event drawn
  | none =>
      have shown : s.prepare.1 = s.generate.1 := by simp [prepare, drawn]
      have bounds : s.delayMin ≤ s.delayMax := by
        rw [UInt64.le_iff_toNat_le, sound.lower, sound.upper]
        exact ordered
      have timely := timely_generate bounds
      rw [sound.lower, sound.upper] at timely
      exact shown ▸ ⟨legal_drawGesture sound.recalls, timely⟩

/-- **One call** leaves a sound state, and what it consumes was legal. -/
theorem Sound.step [LawfulDraws γ] (ordered : low ≤ high) (s : Procedural γ)
    (consumed : List Scheduled) (call : Call) (sound : Sound low high s consumed) :
    Sound low high ((machine γ).step s call) (consumed ++ (machine γ).out s call) := by
  obtain ⟨legal, timely⟩ := sound.shown ordered
  cases call with
  | current =>
      show Sound low high s.prepare.2 (consumed ++ [])
      rw [prepare_snd, List.append_nil]
      refine ⟨sound.lower, sound.upper, sound.recalls.redraw _ _, ?_, sound.legal, sound.timely⟩
      intro event drawn
      cases drawn
      exact ⟨legal, timely⟩
  | advance =>
      show Sound low high s.advance (consumed ++ [s.prepare.1])
      have recalls := sound.recalls.redraw none s.prepare.2.draws
      rw [advance_eq]
      refine ⟨?_, ?_, ?_, ?_, ?_, ?_⟩
      · rw [apply_delayMin]
        exact sound.lower
      · rw [apply_delayMax]
        exact sound.upper
      · simpa using recalls.apply s.prepare.1.gesture
      · intro event drawn
        rw [apply_next] at drawn
        cases drawn
      · simpa using sound.legal.concat legal
      · intro event known
        rcases List.mem_append.1 known with earlier | last
        · exact sound.timely event earlier
        · rw [List.mem_singleton.1 last]
          exact timely

/-! ## The ranges asked for -/

/-- A source without the notes of its generator. -/
def forget (s : Procedural (Recorded γ)) : Procedural γ where
  draws := s.draws.draws
  delayMin := s.delayMin
  delayMax := s.delayMax
  next := s.next
  inside := s.inside
  keysDown := s.keysDown
  buttonsDown := s.buttonsDown

/-- What is drawn without the notes is what is drawn with them. -/
theorem drawGesture_forget (s : Procedural (Recorded γ)) :
    s.forget.drawGesture = (s.drawGesture.1, s.drawGesture.2.draws) := by
  have percent : (Draws.range32 0 99 s.draws).1 = (Draws.range32 0 99 s.forget.draws).1 := rfl
  have place : s.forget.inside = s.inside := rfl
  have up : s.forget.buttonsDown = s.buttonsDown := rfl
  unfold drawGesture
  simp only [percent, place, up]
  split_ifs <;> rfl

/-- No range is asked that is empty. -/
theorem fair_drawGesture {s : Procedural (Recorded γ)} (fair : s.draws.Fair) :
    s.drawGesture.2.Fair := by
  have percent : (Draws.range32 0 99 s.draws).2.Fair := fair.concat (by decide) _
  -- a place is asked for from the first to the last one
  have code (codes : List UInt32) : (drawCode codes (Draws.range32 0 99 s.draws).2).2.Fair :=
    percent.concat (Nat.zero_le _) _
  simp only [drawGesture]
  split_ifs
  · exact fair
  · exact percent
  · exact code buttonCodes
  · exact code keyCodes
  · exact percent
  · exact percent

theorem generate_forget (s : Procedural (Recorded γ)) :
    s.forget.generate = (s.generate.1, s.generate.2.draws) := by
  unfold generate
  rw [drawGesture_forget]
  rfl

theorem fair_generate {s : Procedural (Recorded γ)} (ordered : s.delayMin ≤ s.delayMax)
    (fair : s.draws.Fair) : s.generate.2.Fair :=
  (fair_drawGesture fair).concat (UInt64.le_iff_toNat_le.1 ordered) _

theorem prepare_forget (s : Procedural (Recorded γ)) :
    s.forget.prepare = (s.prepare.1, s.prepare.2.forget) := by
  have next : s.forget.next = s.next := rfl
  unfold prepare
  rw [next, generate_forget]
  cases s.next <;> rfl

theorem fair_prepare {s : Procedural (Recorded γ)} (ordered : s.delayMin ≤ s.delayMax)
    (fair : s.draws.Fair) : s.prepare.2.draws.Fair := by
  unfold prepare
  cases s.next with
  | some event => exact fair
  | none => exact fair_generate ordered fair

omit [Draws γ] in
theorem apply_forget (s : Procedural (Recorded γ)) (g : Gesture) :
    s.forget.apply g = (s.apply g).forget := by
  cases g <;> rfl

theorem advance_forget (s : Procedural (Recorded γ)) : s.forget.advance = s.advance.forget := by
  rw [advance_eq, advance_eq, prepare_forget, ← apply_forget]
  rfl

theorem run_forget (s : Procedural (Recorded γ)) (calls : List Call) :
    (machine γ).run s.forget calls = ((machine (Recorded γ)).run s calls).forget := by
  induction calls generalizing s with
  | nil => rfl
  | cons call rest ih =>
      have step : (machine γ).step s.forget call = ((machine (Recorded γ)).step s call).forget := by
        cases call with
        | current => exact congrArg Prod.snd (prepare_forget s)
        | advance => exact advance_forget s
      rw [Machine.run_cons, Machine.run_cons, step, ih]

theorem fair_step {s : Procedural (Recorded γ)} (ordered : s.delayMin ≤ s.delayMax)
    (fair : s.draws.Fair) (call : Call) : ((machine (Recorded γ)).step s call).draws.Fair := by
  have prepared := fair_prepare ordered fair
  cases call with
  | current => exact prepared
  | advance =>
      show s.advance.draws.Fair
      rw [advance_eq, apply_draws]
      exact prepared

/-! ## The whole stream -/

theorem toNat_max (a b : UInt64) : (max a b).toNat = max a.toNat b.toNat := by
  show (if a ≤ b then b else a).toNat = _
  simp only [UInt64.le_iff_toNat_le, Nat.max_def]
  split <;> rfl

/-- A source whose delays lie between two durations, both cut to whole milliseconds. -/
def between (draws : γ) (delayMin delayMax : Nat) : Procedural γ :=
  start draws (UInt64.ofNat (delayMin / millis 1)) (UInt64.ofNat (delayMax / millis 1))

omit [Draws γ] in
theorem Sound.between (draws : γ) {delayMin delayMax : Nat} (lower : delayMin < millis (2 ^ 64))
    (upper : delayMax < millis (2 ^ 64)) :
    Sound (delayMin / millis 1) (max (delayMin / millis 1) (delayMax / millis 1))
      (between draws delayMin delayMax) [] where
  lower := by
    show (UInt64.ofNat (delayMin / millis 1)).toNat = _
    rw [UInt64.toNat_ofNat', Nat.mod_eq_of_lt]
    unfold millis at lower ⊢
    omega
  upper := by
    show (max (UInt64.ofNat (delayMin / millis 1)) (UInt64.ofNat (delayMax / millis 1))).toNat = _
    rw [toNat_max, UInt64.toNat_ofNat', UInt64.toNat_ofNat', Nat.mod_eq_of_lt, Nat.mod_eq_of_lt]
    · unfold millis at upper ⊢
      omega
    · unfold millis at lower ⊢
      omega
  recalls := ⟨rfl, fun _ => rfl, fun _ => rfl⟩
  ahead event drawn := by cases drawn
  legal := allLegal_nil
  timely event known := by cases known

/-- **Every stream of random gestures is legal.**  Take any generator whose draws lie in their
ranges, bounds of the delay below `2 ^ 64` milliseconds, and any calls.  Of the events that
advancing consumed:

* each was legal after those before it: entering only from outside; leaving, moving, and whatever
  button or key, only inside; leaving with no button held; codes of the two tables;
* the settings of each button and of each key alternate, a press first;
* each waits a whole number of milliseconds, from the lower bound to the greater of both;
* what the source takes for inside and for held is what they say.

And with a generator that notes what it is asked the source runs the same, no range that it asks
for is empty, and neither is a table out of which it asks for a place. -/
theorem consumed_gestures_are_legal [LawfulDraws γ] (draws : γ) (delayMin delayMax : Nat)
    (lower : delayMin < millis (2 ^ 64)) (upper : delayMax < millis (2 ^ 64))
    (calls : List Call) :
    let source := between draws delayMin delayMax
    let s := (machine γ).run source calls
    let consumed := (machine γ).outputs source calls
    let gestures := consumed.map Scheduled.gesture
    let noted := (machine (Recorded γ)).run (between ⟨draws, []⟩ delayMin delayMax) calls
    (∀ before g after, gestures = before ++ g :: after → Legal before g) ∧
    (∀ code, Alternates (gestures.filterMap (button? code)) ∧
      Alternates (gestures.filterMap (key? code))) ∧
    (∀ event ∈ consumed, ∃ ms, event.delay = millis ms ∧ delayMin / millis 1 ≤ ms ∧
      ms ≤ max (delayMin / millis 1) (delayMax / millis 1)) ∧
    (s.inside = isOn crossing? gestures ∧
      ∀ code, s.buttonsDown.contains code = isOn (button? code) gestures ∧
        s.keysDown.contains code = isOn (key? code) gestures) ∧
    noted.forget = s ∧ buttonCodes ≠ [] ∧ keyCodes ≠ [] ∧
      ∀ range ∈ noted.draws.asked, range.1 ≤ range.2 := by
  intro source s consumed gestures noted
  have ordered : delayMin / millis 1 ≤ max (delayMin / millis 1) (delayMax / millis 1) :=
    Nat.le_max_left _ _
  have sound : Sound _ _ s consumed :=
    (machine γ).holds_after (Sound _ _) (Sound.between draws lower upper) (Sound.step ordered) calls
  obtain ⟨-, -, ⟨inside, buttons, keys⟩, -, legal, timely⟩ := sound
  have same : noted.forget = s := (run_forget (between ⟨draws, []⟩ delayMin delayMax) calls).symm
  have fair : noted.draws.Fair := by
    -- that no range is empty needs the bounds, so both are kept together
    have kept := (machine (Recorded γ)).holds_after (fun s consumed =>
      Sound _ _ s consumed ∧ s.draws.Fair) ⟨Sound.between ⟨draws, []⟩ lower upper, nofun⟩
      (fun s consumed call ⟨sound, fair⟩ => by
        refine ⟨sound.step ordered s consumed call, fair_step ?_ fair call⟩
        rw [UInt64.le_iff_toNat_le, sound.lower, sound.upper]
        exact ordered) calls
    exact kept.2
  exact ⟨legal,
    fun code => ⟨alternates legal fun _ _ _ => Legal.button_turned,
      alternates legal fun _ _ _ => Legal.key_turned⟩,
    timely, ⟨inside, fun code => ⟨buttons code, keys code⟩⟩, same, by decide, by decide, fair⟩

namespace Example

/-- Looking twice, advancing with and without having looked. -/
def calls : List Call :=
  [.current, .current, .advance, .advance, .current, .advance, .advance, .advance]

/-- The left button goes down and up again in the first five gestures of a seed, and what the
source holds afterwards is read off them; the lower bound of a millisecond and a half is cut. -/
theorem left_button_pressed_and_released :
    let source := between (ChaCha.ofSeed 15) 1500000 40000000
    let consumed := (machine ChaCha).outputs source calls
    let left := (consumed.map Scheduled.gesture).filterMap (button? 0x110)
    left = [true, false] ∧ Alternates left ∧
      ((machine ChaCha).run source calls).buttonsDown.contains 0x110 = false ∧
      ∀ event ∈ consumed, ∃ ms, event.delay = millis ms ∧ 1 ≤ ms ∧ ms ≤ 40 := by
  intro source consumed left
  have settings : left = [true, false] := by decide +kernel
  obtain ⟨-, turns, delays, ⟨-, holds⟩, -⟩ :=
    consumed_gestures_are_legal (ChaCha.ofSeed 15) 1500000 40000000 (by decide) (by decide) calls
  refine ⟨settings, (turns 0x110).1, ?_, delays⟩
  rw [(holds 0x110).1]
  show left.getLast?.getD false = false
  rw [settings]
  rfl

end Example

end Procedural

end WaylandProxy
