/-
# Proofs.Input.ScriptLine -- what a line of a script says

A line says a gesture if, trimmed, it is a tag, a blank and the fields that go with the tag
(`Tells`, `Form`): numerals for the time, the delay and the code, a one or a zero for the press,
numbers of the unit interval for a place.  Exactly these lines are read as gestures, to what they
say (`readLine_eq_ok_iff`); nothing is read in the silent lines, which are those of a capture
(`readLine_eq_none_iff`); every other line is malformed.

Gestures without a place have a plain form, the tag and then the numbers with commas between them
(`Plain`).  A line in the plain form says its gesture, whatever the numbers are (`Plain.tells`).
-/
import WaylandProxy.Input.Script
import WaylandProxy.Proofs.Capture.Line
import WaylandProxy.Proofs.Input.Group
import WaylandProxy.Proofs.Text.Lines

namespace WaylandProxy.Script

set_option autoImplicit false

open Number.Decimal (Numeral)

def flag (pressed : Bool) : String :=
  toString pressed.toNat

def IsCoordinate (text : String) (x : Float) : Prop :=
  Number.Binary64.read? text = some x ∧ 0.0 ≤ x ∧ x ≤ 1.0

/-- The fields that go with a tag, and the item that they say. -/
inductive Form : String → List String → Item → Prop where
  | key {time delay : UInt64} {code : UInt32} {pressed : Bool} {when wait which : String}
      (isTime : Numeral when.toList time.toNat) (isDelay : Numeral wait.toList delay.toNat)
      (isCode : Numeral which.toList code.toNat) :
      Form "KEY" [when, wait, which, flag pressed] ⟨time, delay, .key code pressed⟩
  | button {time delay : UInt64} {code : UInt32} {pressed : Bool} {when wait which : String}
      (isTime : Numeral when.toList time.toNat) (isDelay : Numeral wait.toList delay.toNat)
      (isCode : Numeral which.toList code.toNat) :
      Form "BUTTON" [when, wait, which, flag pressed] ⟨time, delay, .button code pressed⟩
  | motion {time : UInt64} {x y : Float} {when across down : String}
      (isTime : Numeral when.toList time.toNat) (isAcross : IsCoordinate across x)
      (isDown : IsCoordinate down y) :
      Form "MOTION" [when, across, down] ⟨time, 0, .motion x y⟩
  | enter {time : UInt64} {x y : Float} {when across down : String}
      (isTime : Numeral when.toList time.toNat) (isAcross : IsCoordinate across x)
      (isDown : IsCoordinate down y) :
      Form "ENTER" [when, across, down] ⟨time, 0, .enter x y⟩
  | leave {time : UInt64} {when : String} (isTime : Numeral when.toList time.toNat) :
      Form "LEAVE" [when] ⟨time, 0, .leave⟩

/-- The line is, but for blanks around it, a tag, a blank and the fields of the item. -/
def Tells (line : String) (item : Item) : Prop :=
  ∃ tag blank rest, (Text.trim line).toList = tag.toList ++ blank :: rest.toList ∧
    Text.isBlank blank = true ∧ Form tag (fieldsOf rest) item

/-! ## Reading the fields -/

theorem readTime_eq_ok_iff {what text : String} {time : UInt64} :
    readTime what text = .ok time ↔ Numeral text.toList time.toNat :=
  mapError_eq_ok_iff.trans Number.Decimal.readU64_eq_ok_iff

theorem readCode_eq_ok_iff {text : String} {code : UInt32} :
    readCode text = .ok code ↔ Numeral text.toList code.toNat :=
  mapError_eq_ok_iff.trans Number.Decimal.readU32_eq_ok_iff

theorem readPressed_eq_ok_iff {text : String} {pressed : Bool} :
    readPressed text = .ok pressed ↔ text = flag pressed := by
  have one : flag true = "1" := by decide
  have zero : flag false = "0" := by decide
  unfold readPressed
  by_cases isOne : text = "1"
  · rw [if_pos isOne, isOne]
    cases pressed <;> simp [one, zero]
  · rw [if_neg isOne]
    by_cases isZero : text = "0"
    · rw [if_pos isZero, isZero]
      cases pressed <;> simp [one, zero]
    · rw [if_neg isZero]
      cases pressed <;> simp [one, zero, isOne, isZero]

theorem readCoordinate_eq_ok_iff {text : String} {x : Float} :
    readCoordinate text = .ok x ↔ IsCoordinate text x := by
  unfold readCoordinate IsCoordinate
  cases Number.Binary64.read? text with
  | none => simp
  | some y =>
      by_cases inside : 0.0 ≤ y ∧ y ≤ 1.0
      · simp only [if_pos inside, Except.ok.injEq, Option.some.injEq]
        exact ⟨fun same => ⟨same, same ▸ inside⟩, And.left⟩
      · simp only [if_neg inside, Option.some.injEq]
        exact ⟨nofun, fun ⟨same, inside'⟩ => absurd (same ▸ inside') inside⟩

/-! ## Reading the line -/

section

variable {line : String} {item : Item}

/-- A line is read as an item only if its fields go with its tag. -/
theorem form_of_readItem {tag rest : String}
    (cut : (Text.cut? Text.isBlank line).getD (line, "") = (tag, rest))
    (read : readItem line = .ok item) : Form tag (fieldsOf rest) item := by
  unfold readItem at read
  rw [cut] at read
  dsimp only at read
  generalize fieldsOf rest = fields at read
  split at read
  · rename_i device
    split at read
    · obtain ⟨time, isTime, read⟩ := bind_eq_ok.1 read
      obtain ⟨delay, isDelay, read⟩ := bind_eq_ok.1 read
      obtain ⟨code, isCode, read⟩ := bind_eq_ok.1 read
      obtain ⟨pressed, isPressed, read⟩ := bind_eq_ok.1 read
      cases read
      obtain rfl := readPressed_eq_ok_iff.1 isPressed
      have time := readTime_eq_ok_iff.1 isTime
      have delay := readTime_eq_ok_iff.1 isDelay
      have code := readCode_eq_ok_iff.1 isCode
      obtain rfl | rfl := device
      · exact .key time delay code
      · exact .button time delay code
    · cases read
  split at read
  · rename_i place
    split at read
    · obtain ⟨time, isTime, read⟩ := bind_eq_ok.1 read
      obtain ⟨x, isAcross, read⟩ := bind_eq_ok.1 read
      obtain ⟨y, isDown, read⟩ := bind_eq_ok.1 read
      cases read
      have time := readTime_eq_ok_iff.1 isTime
      have across := readCoordinate_eq_ok_iff.1 isAcross
      have down := readCoordinate_eq_ok_iff.1 isDown
      obtain rfl | rfl := place
      · exact .motion time across down
      · exact .enter time across down
    · cases read
  split at read
  · rename_i leaves
    split at read
    · obtain ⟨time, isTime, read⟩ := bind_eq_ok.1 read
      cases read
      subst leaves
      exact .leave (readTime_eq_ok_iff.1 isTime)
    · cases read
  · cases read

/-- A line whose fields go with its tag is read as the item that they say. -/
theorem readItem_of_form {tag rest : String}
    (cut : (Text.cut? Text.isBlank line).getD (line, "") = (tag, rest))
    (form : Form tag (fieldsOf rest) item) : readItem line = .ok item := by
  unfold readItem
  rw [cut]
  dsimp only
  generalize fieldsOf rest = fields at form
  cases form with
  | key isTime isDelay isCode
  | button isTime isDelay isCode =>
      simp [readTime_eq_ok_iff.2 isTime, readTime_eq_ok_iff.2 isDelay,
        readCode_eq_ok_iff.2 isCode, readPressed_eq_ok_iff.2 rfl, bind, Except.bind, pure,
        Except.pure]
  | motion isTime isAcross isDown
  | enter isTime isAcross isDown =>
      simp [readTime_eq_ok_iff.2 isTime, readCoordinate_eq_ok_iff.2 isAcross,
        readCoordinate_eq_ok_iff.2 isDown, bind, Except.bind, pure, Except.pure]
  | leave isTime =>
      simp [readTime_eq_ok_iff.2 isTime, bind, Except.bind, pure, Except.pure]

theorem fieldsOf_empty : fieldsOf "" = [] := by decide

def tags : List String :=
  ["KEY", "BUTTON", "MOTION", "ENTER", "LEAVE"]

theorem Form.tag_mem {tag : String} {fields : List String} (form : Form tag fields item) :
    tag ∈ tags := by
  cases form <;> simp [tags]

theorem not_blank_of_tag {tag : String} (isTag : tag ∈ tags) :
    ∀ c ∈ tag.toList, Text.isBlank c = false := by
  have whole : ∀ tag ∈ tags, tag.toList.all (fun c => !Text.isBlank c) := by decide
  simpa using List.all_eq_true.1 (whole tag isTag)

theorem head?_tag {tag : String} (isTag : tag ∈ tags) :
    ∃ c rest, tag.toList = c :: rest ∧ c ≠ '#' := by
  have letter : ∀ tag ∈ tags, tag ≠ "" ∧ tag.toList.head? ≠ some '#' := by decide
  obtain ⟨some, noSign⟩ := letter tag isTag
  cases split : tag.toList with
  | nil => exact absurd (String.toList_eq_nil_iff.1 split) some
  | cons c rest =>
      rw [split] at noSign
      exact ⟨c, rest, rfl, fun sign => noSign (congrArg Option.some sign)⟩

theorem readItem_eq_ok_iff : readItem line = .ok item ↔
    ∃ tag blank rest, line.toList = tag.toList ++ blank :: rest.toList ∧
      Text.isBlank blank = true ∧ Form tag (fieldsOf rest) item := by
  constructor
  · intro read
    cases cut : Text.cut? Text.isBlank line with
    | none =>
        -- a tag alone has no fields, and no tag goes without
        have alone : (Text.cut? Text.isBlank line).getD (line, "") = (line, "") := by rw [cut]; rfl
        have form := form_of_readItem alone read
        rw [fieldsOf_empty] at form
        cases form
    | some parts =>
        obtain ⟨tag, rest⟩ := parts
        have split : (Text.cut? Text.isBlank line).getD (line, "") = (tag, rest) := by rw [cut]; rfl
        obtain ⟨blank, characters, isBlank, -⟩ := Text.cut?_eq_some_iff.1 cut
        exact ⟨tag, blank, rest, characters, isBlank, form_of_readItem split read⟩
  · rintro ⟨tag, blank, rest, characters, isBlank, form⟩
    have cut : Text.cut? Text.isBlank line = some (tag, rest) :=
      Text.cut?_eq_some_iff.2 ⟨blank, characters, isBlank, not_blank_of_tag form.tag_mem⟩
    exact readItem_of_form (by rw [cut]; rfl) form

/-- **Nothing is read** in the silent lines. -/
theorem readLine_eq_none_iff : readLine line = none ↔ Entry.Silent line := by
  rw [← Entry.silent_iff]
  unfold readLine
  dsimp only
  split <;> simp_all

theorem Tells.not_silent (tells : Tells line item) : ¬ Entry.Silent line := by
  obtain ⟨tag, blank, rest, characters, -, form⟩ := tells
  obtain ⟨c, others, letters, noSign⟩ := head?_tag form.tag_mem
  rw [letters] at characters
  rintro (nothing | ⟨comment, sign⟩)
  · rw [nothing] at characters
    cases characters
  · rw [sign] at characters
    exact noSign (List.cons.inj characters).1.symm

/-- **What is read in a line** is what it says. -/
theorem readLine_eq_ok_iff : readLine line = some (.ok item) ↔ Tells line item := by
  have loud (audible : ¬ Entry.Silent line) : readLine line = some (readItem (Text.trim line)) :=
    if_neg ((not_congr Entry.silent_iff).2 audible)
  constructor
  · intro read
    have audible : ¬ Entry.Silent line := fun silent =>
      nomatch read.symm.trans (readLine_eq_none_iff.2 silent)
    rw [loud audible] at read
    exact readItem_eq_ok_iff.1 (Option.some.inj read)
  · intro tells
    rw [loud tells.not_silent]
    exact congrArg some (readItem_eq_ok_iff.2 tells)

def item? (line : String) : Option Item :=
  (readLine line).bind Except.toOption

theorem item?_eq_some_iff : item? line = some item ↔ Tells line item := by
  rw [← readLine_eq_ok_iff]
  unfold item?
  cases readLine line with
  | none => simp
  | some read => cases read <;> simp [Except.toOption]

theorem item?_eq_none_iff : item? line = none ↔ ¬ ∃ item, Tells line item := by
  simp only [Option.eq_none_iff_forall_ne_some, ne_eq, item?_eq_some_iff, not_exists]

/-- Only what is left of a line when it is trimmed says something. -/
theorem item?_congr {other : String} (same : Text.trim line = Text.trim other) :
    item? line = item? other := by
  unfold item? readLine
  rw [same]

/-- **Delays are written** for keys and buttons only. -/
theorem Tells.delay_eq_zero (tells : Tells line item)
    (other : ∀ code pressed,
      item.gesture ≠ .key code pressed ∧ item.gesture ≠ .button code pressed) :
    item.delay = 0 := by
  obtain ⟨tag, blank, rest, -, -, form⟩ := tells
  generalize fieldsOf rest = fields at form
  cases form with
  | key => exact absurd rfl (other _ _).1
  | button => exact absurd rfl (other _ _).2
  | motion | enter | leave => rfl

end

/-! ## The plain form -/

/-- A gesture without a place, as it is written down. -/
inductive Plain where
  | key (time delay : UInt64) (code : UInt32) (pressed : Bool)
  | button (time delay : UInt64) (code : UInt32) (pressed : Bool)
  | leave (time : UInt64)

namespace Plain

def item : Plain → Item
  | .key time delay code pressed => ⟨time, delay, .key code pressed⟩
  | .button time delay code pressed => ⟨time, delay, .button code pressed⟩
  | .leave time => ⟨time, 0, .leave⟩

def tag : Plain → String
  | .key .. => "KEY"
  | .button .. => "BUTTON"
  | .leave .. => "LEAVE"

def numbers : Plain → List Nat
  | .key time delay code pressed => [time.toNat, delay.toNat, code.toNat, pressed.toNat]
  | .button time delay code pressed => [time.toNat, delay.toNat, code.toNat, pressed.toNat]
  | .leave time => [time.toNat]

/-- The line: the tag, a blank, and the numbers with commas between them. -/
def text (p : Plain) : String :=
  p.tag ++ " " ++ ",".intercalate (p.numbers.map toString)

end Plain

/-- Numbers with commas between them are made of digits and commas. -/
theorem mem_intercalate_numbers {numbers : List Nat} {c : Char}
    (member : c ∈ (",".intercalate (numbers.map toString)).toList) : c.isDigit ∨ c = ',' := by
  rw [String.toList_intercalate, List.map_map] at member
  induction numbers with
  | nil => cases member
  | cons n numbers ih =>
      cases numbers with
      | nil => exact .inl (Number.Decimal.isDigit_of_mem_toString (by simpa using member))
      | cons next numbers =>
          simp only [List.map_cons, List.intercalate_cons_cons, List.mem_append] at member ih
          obtain (digit | comma) | later := member
          · exact .inl (Number.Decimal.isDigit_of_mem_toString digit)
          · exact .inr (List.mem_singleton.1 comma)
          · exact ih later

/-- Between the commas stand the digits of the numbers. -/
theorem pieces_numbers {numbers : List Nat} (some : numbers ≠ []) :
    Text.pieces (· == ',') (",".intercalate (numbers.map toString)) = numbers.map toString := by
  have characters : (",".intercalate (numbers.map toString)).toList =
      [','].intercalate (numbers.map fun n => (toString n).toList) := by
    rw [String.toList_intercalate, List.map_map]
    rfl
  unfold Text.pieces
  rw [characters, Text.Chars.pieces_intercalate rfl (by simpa using some), List.map_map]
  · exact List.map_congr_left fun n _ => String.ofList_toList
  · intro piece isPiece c member
    obtain ⟨n, -, rfl⟩ := List.mem_map.1 isPiece
    refine beq_false_of_ne ?_
    rintro rfl
    exact absurd (Number.Decimal.isDigit_of_mem_toString member) (by decide)

theorem trim_number (n : Nat) : Text.trim (toString n) = toString n := by
  have visible : ∀ c ∈ (toString n).toList, Text.isBlank c = false := by
    intro c member
    have range := (Number.Decimal.isDigit_iff c).1 (Number.Decimal.isDigit_of_mem_toString member)
    exact Text.Chars.isBlank_of_visible (by omega) (by omega)
  unfold Text.trim
  rw [Text.Chars.trim_eq_self (fun c first => visible c (List.mem_of_mem_head? first))
    fun c last => visible c (List.mem_of_getLast? last), String.ofList_toList]

/-- The fields of numbers with commas between them are the numbers. -/
theorem fieldsOf_numbers {numbers : List Nat} (some : numbers ≠ []) :
    fieldsOf (",".intercalate (numbers.map toString)) = numbers.map toString := by
  have trimmed : (numbers.map toString).map Text.trim = numbers.map toString := by
    rw [List.map_map]
    exact List.map_congr_left fun n _ => trim_number n
  unfold fieldsOf
  rw [pieces_numbers some, trimmed, List.filter_eq_self]
  intro field written
  obtain ⟨n, -, rfl⟩ := List.mem_map.1 written
  have digits := (Number.Decimal.numeral_toString n).ne_nil
  rw [Bool.not_eq_true', ← Bool.not_eq_true, String.isEmpty_iff]
  exact fun empty => digits (congrArg String.toList empty)

namespace Plain

variable {p : Plain}

theorem form : Form p.tag (p.numbers.map toString) p.item := by
  have numeral (n : Nat) := Number.Decimal.numeral_toString n
  cases p with
  | key time delay code pressed => exact .key (numeral _) (numeral _) (numeral _)
  | button time delay code pressed => exact .button (numeral _) (numeral _) (numeral _)
  | leave time => exact .leave (numeral _)

theorem numbers_ne_nil : p.numbers ≠ [] := by
  cases p <;> exact List.cons_ne_nil _ _

theorem toList_text : p.text.toList =
    p.tag.toList ++ ' ' :: (",".intercalate (p.numbers.map toString)).toList := by
  simp [text]

/-- The plain form is one line. -/
theorem unbroken : '\n' ∉ p.text.toList := by
  have tagged : '\n' ∉ p.tag.toList := fun feed =>
    absurd (not_blank_of_tag form.tag_mem _ feed) (by decide)
  rw [toList_text, List.mem_append, List.mem_cons, not_or, not_or]
  refine ⟨tagged, by decide, fun feed => ?_⟩
  obtain digit | comma := mem_intercalate_numbers feed
  · exact absurd digit (by decide)
  · exact absurd comma (by decide)

/-- A line in the plain form begins with a letter and ends in a digit, so nothing is trimmed. -/
theorem trim_text : Text.trim p.text = p.text := by
  have isTag : p.tag ∈ tags := form.tag_mem
  generalize joined : ",".intercalate (p.numbers.map toString) = numbers
  have some : numbers.toList ≠ [] := by
    intro none
    have fields : fieldsOf (",".intercalate (p.numbers.map toString)) = p.numbers.map toString :=
      fieldsOf_numbers numbers_ne_nil
    rw [joined, String.toList_eq_nil_iff.1 none, fieldsOf_empty] at fields
    exact numbers_ne_nil (List.map_eq_nil_iff.1 fields.symm)
  have characters : p.text.toList = (p.tag.toList ++ [' ']) ++ numbers.toList := by
    rw [toList_text, joined, List.append_assoc, List.singleton_append]
  unfold Text.trim
  rw [Text.Chars.trim_eq_self, String.ofList_toList]
  · obtain ⟨c, rest, letters, -⟩ := head?_tag isTag
    rw [characters, letters]
    intro d first
    exact not_blank_of_tag isTag d (by rw [letters]; exact List.mem_of_mem_head? first)
  · rw [characters, List.getLast?_append_of_ne_nil _ some]
    intro c last
    have member := List.mem_of_getLast? last
    rw [← joined] at member
    obtain digit | rfl := mem_intercalate_numbers member
    · have range := (Number.Decimal.isDigit_iff c).1 digit
      exact Text.Chars.isBlank_of_visible (by omega) (by omega)
    · decide

/-- **A line in the plain form says its gesture.** -/
theorem tells : Tells p.text p.item := by
  refine ⟨p.tag, ' ', ",".intercalate (p.numbers.map toString), ?_, by decide, ?_⟩
  · rw [trim_text, toList_text]
  · rw [fieldsOf_numbers numbers_ne_nil]
    exact form

end Plain

end WaylandProxy.Script
