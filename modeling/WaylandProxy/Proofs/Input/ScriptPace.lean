/-
# Proofs.Input.ScriptPace -- what a script plays, and when

A script plays what its lines say, in order (`accepted`).  The lines that say nothing have no part
in it: the text without them has the same items (`accepted_pared`), so it is played alike, since the
time of the item before is carried from one item to the next and past everything in between.

How long each item waits is said of the items alone (`Paced`): its own delay is added to the time
that went by since the item before, which is none for the first one and where time went back, and
the sum stops below `2 ^ 64` milliseconds.  Where time never goes back and no sum is stopped, the
waiting adds up to the time from the first item to the last and all the delays.

Items in the plain form are read from their lines with the numbers that were written, whatever lines
stand between them that say nothing (`Written`).
-/
import WaylandProxy.Proofs.Input.ScriptLine

namespace WaylandProxy.Script

set_option autoImplicit false

variable {text : String} {items : List Item}

/-- What the lines of a text say, in order. -/
def accepted (text : String) : List Item :=
  (Text.lines text).filterMap item?

/-- The text without its blank lines, its comments and its malformed lines. -/
def pared (text : String) : String :=
  Text.keepLines (fun line => (item? line).isSome) text

/-! ## The lines that count -/

theorem readLines_fst (number : Nat) (lines : List String) :
    (readLines number lines).1 = lines.filterMap item? := by
  induction lines generalizing number with
  | nil => rfl
  | cons line rest ih =>
      unfold readLines
      rw [List.filterMap_cons, ← ih (number + 1)]
      unfold item?
      cases readLine line with
      | none => rfl
      | some read => cases read <;> rfl

theorem parse_eq_schedule (text : String) : parse text = schedule none (accepted text) := by
  unfold parse accepted
  rw [readLines_fst]

/-- The ends of the lines say nothing. -/
theorem accepted_eq_endedLines (text : String) :
    accepted text = (Text.endedLines text).filterMap item? :=
  Text.filterMap_lines item?_congr text

/-- **Lines that say nothing have no part in a script.** -/
theorem accepted_pared (text : String) : accepted (pared text) = accepted text := by
  rw [accepted_eq_endedLines, accepted_eq_endedLines, pared, Text.endedLines_keepLines,
    List.filterMap_filter]
  refine List.filterMap_congr fun line _ => ?_
  cases item? line <;> rfl

/-- Lines that are put together say what they say one by one. -/
theorem accepted_ofLines {lines : List String} (unbroken : ∀ line ∈ lines, '\n' ∉ line.toList) :
    accepted (Text.ofLines lines) = lines.filterMap item? := by
  have unended (line : String) : item? (line ++ "\n") = item? line :=
    item?_congr Text.trim_append_feed
  rw [accepted_eq_endedLines, Text.endedLines_ofLines unbroken, List.filterMap_map]
  refine List.filterMap_congr fun line _ => ?_
  rw [Function.comp_apply, unended]

/-! ## How long they wait -/

/-- The milliseconds between two items, none if time went back, and the delay of the later one; as
far as they stay below `2 ^ 64`. -/
def waiting (before item : Item) : Nat :=
  min (2 ^ 64 - 1) (item.time.toNat - before.time.toNat + item.delay.toNat)

/-- Time does not go back to the item, and what it waits for is not stopped. -/
structure Follows (before item : Item) : Prop where
  forward : before.time.toNat ≤ item.time.toNat
  inRange : item.time.toNat - before.time.toNat + item.delay.toNat < 2 ^ 64

/-- The events are the items, each with the time that it waits for. -/
structure Paced (items : List Item) (events : List Scheduled) : Prop where
  /-- The gestures are those of the items, in order. -/
  gestures : events.map Scheduled.gesture = items.map Item.gesture
  /-- The first waits for its own delay. -/
  first : ∀ item ∈ items.head?, events.head? = some ⟨item.gesture, millis item.delay.toNat⟩
  /-- Every other one waits for the time since the one before, and for its own delay. -/
  later : ∀ i before item, items[i]? = some before → items[i + 1]? = some item →
    events[i + 1]? = some ⟨item.gesture, millis (waiting before item)⟩
  /-- If nothing goes back and nothing is stopped, the waiting is all the time that went by and all
  the delays. -/
  total : ∀ item rest, items = item :: rest → items.IsChain Follows →
    (events.map Scheduled.delay).sum =
      millis (((rest.getLastD item).time.toNat - item.time.toNat) +
        (items.map fun item => item.delay.toNat).sum)

theorem toNat_addMillis (x y : UInt64) :
    (addMillis x y).toNat = min (2 ^ 64 - 1) (x.toNat + y.toNat) := by
  have size : UInt64.size = 2 ^ 64 := rfl
  unfold addMillis
  rw [UInt64.toNat_ofNat_of_lt' (by omega), Nat.min_comm, size]

theorem toNat_gap (before time : UInt64) :
    (gap (some before) time).toNat = time.toNat - before.toNat := by
  unfold gap
  dsimp only
  split
  · rename_i forward
    exact UInt64.toNat_sub_of_le _ _ forward
  · rename_i back
    have earlier : ¬ before.toNat ≤ time.toNat := back
    have none : (0 : UInt64).toNat = 0 := rfl
    omega

theorem schedule_cons (previous : Option UInt64) (item : Item) (rest : List Item) :
    schedule previous (item :: rest) =
      ⟨item.gesture, millis (addMillis (gap previous item.time) item.delay).toNat⟩ ::
        schedule (some item.time) rest := rfl

/-- After an item comes the next one with its waiting. -/
theorem schedule_after (before item : Item) (rest : List Item) :
    schedule (some before.time) (item :: rest) =
      ⟨item.gesture, millis (waiting before item)⟩ :: schedule (some item.time) rest := by
  rw [schedule_cons, toNat_addMillis, toNat_gap]
  rfl

theorem schedule_first (item : Item) (rest : List Item) :
    schedule none (item :: rest) =
      ⟨item.gesture, millis item.delay.toNat⟩ :: schedule (some item.time) rest := by
  have below := item.delay.toNat_lt
  have none : (0 : UInt64).toNat = 0 := rfl
  rw [schedule_cons, toNat_addMillis]
  unfold gap
  rw [none, Nat.zero_add, Nat.min_eq_right (by omega)]

theorem map_gesture_schedule (previous : Option UInt64) (items : List Item) :
    (schedule previous items).map Scheduled.gesture = items.map Item.gesture := by
  induction items generalizing previous with
  | nil => rfl
  | cons item rest ih =>
      rw [schedule_cons, List.map_cons, ih, List.map_cons]

/-- Every item but the first waits after the one before it. -/
theorem getElem?_schedule {before item : Item} {i : Nat} (previous : Option UInt64)
    (here : items[i]? = some before) (next : items[i + 1]? = some item) :
    (schedule previous items)[i + 1]? = some ⟨item.gesture, millis (waiting before item)⟩ := by
  induction items generalizing i previous with
  | nil => cases here
  | cons first rest ih =>
      rw [List.getElem?_cons_succ] at next
      rw [schedule_cons, List.getElem?_cons_succ]
      cases i with
      | zero =>
          cases rest with
          | nil => cases next
          | cons second rest =>
              cases here
              cases next
              rw [schedule_after]
              rfl
      | succ i => exact ih _ here next

/-- The items after one wait for the time from it to the last of them and for their delays. -/
theorem sum_schedule {before : Item} {rest : List Item}
    (chain : (before :: rest).IsChain Follows) :
    before.time.toNat ≤ (rest.getLastD before).time.toNat ∧
      ((schedule (some before.time) rest).map Scheduled.delay).sum =
        millis (((rest.getLastD before).time.toNat - before.time.toNat) +
          (rest.map fun item => item.delay.toNat).sum) := by
  induction rest generalizing before with
  | nil => simp [schedule, millis]
  | cons item rest ih =>
      obtain ⟨⟨forward, inRange⟩, chain⟩ := List.isChain_cons_cons.1 chain
      obtain ⟨later, sum⟩ := ih chain
      have last : (item :: rest).getLastD before = rest.getLastD item := by
        cases rest <;> rfl
      rw [last, schedule_after, List.map_cons, List.sum_cons, sum, List.map_cons, List.sum_cons]
      dsimp only
      unfold waiting millis
      omega

/-- **A script keeps the pace of its items.** -/
theorem paced_schedule (items : List Item) : Paced items (schedule none items) where
  gestures := map_gesture_schedule none items
  first := by
    intro item first
    obtain ⟨rest, rfl⟩ := List.head?_eq_some_iff.1 first
    rw [schedule_first]
    rfl
  later i before item here next := getElem?_schedule none here next
  total := by
    rintro item rest rfl chain
    obtain ⟨-, sum⟩ := sum_schedule chain
    rw [schedule_first, List.map_cons, List.sum_cons, sum, List.map_cons, List.sum_cons]
    dsimp only
    unfold millis
    omega

/-! ## Items that were written down -/

/-- The lines are those of the items, in order and in the plain form, and between them lines that
say nothing. -/
inductive Written : List String → List Plain → Prop where
  | nothing : Written [] []
  | other {line : String} {lines : List String} {plain : List Plain}
      (unbroken : '\n' ∉ line.toList) (noItem : ¬ ∃ item, Tells line item)
      (rest : Written lines plain) : Written (line :: lines) plain
  | item {p : Plain} {lines : List String} {plain : List Plain} (rest : Written lines plain) :
      Written (p.text :: lines) (p :: plain)

namespace Written

variable {lines : List String} {plain : List Plain}

theorem unbroken (written : Written lines plain) : ∀ line ∈ lines, '\n' ∉ line.toList := by
  induction written with
  | nothing => exact nofun
  | other unbroken noItem rest ih => exact List.forall_mem_cons.2 ⟨unbroken, ih⟩
  | item rest ih => exact List.forall_mem_cons.2 ⟨Plain.unbroken, ih⟩

theorem filterMap_item? (written : Written lines plain) :
    lines.filterMap item? = plain.map Plain.item := by
  induction written with
  | nothing => rfl
  | other unbroken noItem rest ih =>
      rw [List.filterMap_cons_none (item?_eq_none_iff.2 noItem), ih]
  | item rest ih =>
      rw [List.filterMap_cons_some (item?_eq_some_iff.2 Plain.tells), ih, List.map_cons]

end Written

/-! ## The script -/

/-- **Lines that say nothing are neutral, and delays follow the times.**  A line is silent, or says
the item that is read in it, or is malformed.  The text is its lines with their ends, and without
the silent and the malformed ones it is played alike.  The events are the gestures of the items, and
each waits for the time since the item before and for its own delay, which is written for keys and
buttons only.  And items in the plain form are read with the numbers that were written, whatever
other lines stand between them: if each line was ended with a line feed, and in every other text
that has these lines. -/
theorem paced_by_accepted_lines (text : String) :
    (∀ line, (readLine line = none ↔ Entry.Silent line) ∧
      ∀ item, item? line = some item ↔ Tells line item) ∧
    (String.join (Text.endedLines text) = text ∧ parse (pared text) = parse text) ∧
    Paced (accepted text) (parse text) ∧
    (∀ item ∈ accepted text, (∀ code pressed, item.gesture ≠ .key code pressed ∧
      item.gesture ≠ .button code pressed) → item.delay = 0) ∧
    ∀ lines plain, Written lines plain →
      accepted (Text.ofLines lines) = plain.map Plain.item ∧
        ∀ other, Text.lines other = lines → accepted other = plain.map Plain.item := by
  refine ⟨fun line => ⟨readLine_eq_none_iff, fun item => item?_eq_some_iff⟩, ?_, ?_, ?_, ?_⟩
  · refine ⟨Text.join_endedLines, ?_⟩
    rw [parse_eq_schedule, parse_eq_schedule, accepted_pared]
  · rw [parse_eq_schedule]
    exact paced_schedule (accepted text)
  · intro item isAccepted other
    obtain ⟨line, -, read⟩ := List.mem_filterMap.1 isAccepted
    exact (item?_eq_some_iff.1 read).delay_eq_zero other
  · intro lines plain written
    refine ⟨(accepted_ofLines written.unbroken).trans written.filterMap_item?, ?_⟩
    rintro other rfl
    exact written.filterMap_item?

namespace Example

/-- A key is pressed, a button is released, and the pointer leaves. -/
def pressed : Plain := .key 1000 5 30 true
def released : Plain := .button 900 18446744073709551615 272 false
def left : Plain := .leave 18446744073709551615

def demoLines : List String :=
  ["# demo", pressed.text, "", "KEY 2000,5,30", released.text, "\tNOISE 3", left.text]

/-- One of the lines ends as other systems end their lines, and the last one does not end. -/
def demo : String :=
  "# demo\nKEY 1000,5,30,1\r\n\nKEY 2000,5,30\n" ++
    "BUTTON 900,18446744073709551615,272,0\n\tNOISE 3\nLEAVE 18446744073709551615"

theorem demo_written : Written demoLines [pressed, released, left] := by
  have silent {line : String} (nothing : (item? line).isNone = true) :
      ¬ ∃ item, Tells line item :=
    item?_eq_none_iff.1 (Option.isNone_iff_eq_none.1 nothing)
  refine .other (by decide) (silent (by decide)) (.item ?_)
  refine .other (by decide) (silent (by decide)) (.other (by decide) (silent (by decide)) ?_)
  exact .item (.other (by decide) (silent (by decide)) (.item .nothing))

/-- Time goes back to the button, which waits for its own delay, the longest there is; then it goes
far forward, and the pointer leaves when as much has gone by.  In another script time only goes
forward, and the waiting is what goes by and the delays. -/
theorem delays_of_demo :
    Text.lines demo = demoLines ∧ Written demoLines [pressed, released, left] ∧
      accepted demo = [pressed.item, released.item, left.item] ∧
      parse (pared demo) = parse demo ∧
      (parse demo).head? = some ⟨.key 30 true, millis 5⟩ ∧
      (parse demo)[1]? = some ⟨.button 272 false, millis 18446744073709551615⟩ ∧
      (parse demo)[2]? = some ⟨.leave, millis 18446744073709550715⟩ ∧
      ((parse "KEY 5,1,30,1\nKEY 20,2,30,0\nLEAVE 30").map Scheduled.delay).sum = millis 28 := by
  have cut : Text.lines demo = demoLines := by decide +kernel
  obtain ⟨-, ⟨-, alike⟩, paced, -, plain⟩ := paced_by_accepted_lines demo
  have items : accepted demo = [pressed.item, released.item, left.item] :=
    (plain demoLines _ demo_written).2 demo cut
  rw [items] at paced
  have back : waiting pressed.item released.item = 18446744073709551615 := by decide +kernel
  have forward : waiting released.item left.item = 18446744073709550715 := by decide +kernel
  have first := paced.first pressed.item rfl
  have second := paced.later 0 pressed.item released.item rfl rfl
  have third := paced.later 1 released.item left.item rfl rfl
  rw [back] at second
  rw [forward] at third
  refine ⟨cut, demo_written, items, alike, first, second, third, ?_⟩
  obtain ⟨-, -, paced, -, plain⟩ :=
    paced_by_accepted_lines "KEY 5,1,30,1\nKEY 20,2,30,0\nLEAVE 30"
  have cut : Text.lines "KEY 5,1,30,1\nKEY 20,2,30,0\nLEAVE 30" =
      [Plain.text (.key 5 1 30 true), Plain.text (.key 20 2 30 false), Plain.text (.leave 30)] := by
    decide +kernel
  have chain : [Plain.item (.key 5 1 30 true), Plain.item (.key 20 2 30 false),
      Plain.item (.leave 30)].IsChain Follows :=
    .cons_cons ⟨by decide, by decide⟩ (.cons_cons ⟨by decide, by decide⟩ (.singleton _))
  rw [(plain _ [_, _, _] (.item (.item (.item .nothing)))).2 _ cut] at paced
  rw [paced.total _ _ rfl chain]
  decide +kernel

end Example

end WaylandProxy.Script
