/-
# Proofs.Capture.Load -- what a whole capture holds

A line of a capture is silent, holds a message or is malformed, and which of these it is depends on
that line alone: not on its number, not on its end, not on the lines around it (`Entry.held?`,
`Entry.fault?`).  Loading goes through the lines and keeps what each of them holds
(`entries_ofLines`, `skipped_ofLines`), so captures with a line feed between them hold what they
hold one by one (`ofText_append`), and a line that holds nothing can be taken out
(`entries_without`).

Each malformed line is counted once in the metrics, and nothing else is (`metrics_reportSkips`).
-/
import WaylandProxy.Capture.Load
import WaylandProxy.Proofs.Capture.Line
import WaylandProxy.Proofs.Metrics.Labels
import WaylandProxy.Proofs.Metrics.Sums
import WaylandProxy.Proofs.Text.Lines

namespace WaylandProxy

set_option autoImplicit false

variable {connection : Connection}

/-! ## One line -/

namespace Entry

variable {line : String} {e : Entry}

instance : Decidable (Silent line) :=
  decidable_of_iff _ silent_iff

/-- The message that a line holds, if it holds one. -/
def held? (connection : Connection) (line : String) : Option Entry :=
  match decode connection line with
  | .ok found => found
  | .error _ => none

/-- What is wrong with a line, if it is malformed. -/
def fault? (connection : Connection) (line : String) : Option Fault :=
  match decode connection line with
  | .ok _ => none
  | .error fault => some fault

theorem held?_eq_some_iff :
    held? connection line = some e ↔ decode connection line = .ok (some e) := by
  unfold held?
  cases decode connection line <;> simp

theorem isSome_fault? : (fault? connection line).isSome = !(decode connection line).isOk := by
  unfold fault?
  cases decode connection line <;> rfl

/-- Only what is left of a line when it is trimmed is read. -/
theorem decode_congr {other : String} (same : Text.trim line = Text.trim other) :
    decode connection line = decode connection other := by
  unfold decode
  rw [same]

theorem held?_congr {other : String} (same : Text.trim line = Text.trim other) :
    held? connection line = held? connection other := by
  unfold held?
  rw [decode_congr same]

theorem fault?_congr {other : String} (same : Text.trim line = Text.trim other) :
    fault? connection line = fault? connection other := by
  unfold fault?
  rw [decode_congr same]

/-- **Each line is one of three.** -/
theorem held_or_malformed_or_silent (connection : Connection) (lines : List String) :
    (lines.filterMap (held? connection)).length + (lines.filterMap (fault? connection)).length +
      lines.countP (fun line => Silent line) = lines.length := by
  induction lines with
  | nil => rfl
  | cons line rest ih =>
      rw [List.filterMap_cons, List.filterMap_cons, List.countP_cons, List.length_cons, ← ih]
      -- only this line is looked at
      generalize rest.filterMap (held? connection) = entries
      generalize rest.filterMap (fault? connection) = faults
      generalize rest.countP (fun line => decide (Silent line)) = silent
      simp only [held?, fault?, ← @decode_eq_ok_none_iff connection]
      cases decode connection line with
      | error fault => simp; omega
      | ok found => cases found <;> simp <;> omega

/-- The entry at whole milliseconds. -/
def truncated (e : Entry) : Entry :=
  { e with offset := millis (e.offset / 1000000) }

/-- The offset has no more milliseconds than a line can hold. -/
def InRange (e : Entry) : Prop :=
  e.offset < millis (2 ^ 64)

instance : Decidable e.InRange :=
  inferInstanceAs (Decidable (e.offset < millis (2 ^ 64)))

/-- **The line of a message** is read as that message, unless its offset is out of range. -/
theorem decode_encode (wellFormed : e.message.flaw? = none) (inRange : e.InRange) :
    decode e.message.connection (encode e) = .ok (some e.truncated) :=
  decode_eq_ok_iff.2 (holds_encodeLine wellFormed inRange)

theorem isOk_decode_encode (wellFormed : e.message.flaw? = none) :
    (decode e.message.connection (encode e)).isOk = decide e.InRange := by
  by_cases inRange : e.InRange
  · rw [decode_encode wellFormed inRange, decide_eq_true inRange]
    rfl
  · rw [decide_eq_false inRange]
    cases read : decode e.message.connection (encode e) with
    | error fault => rfl
    | ok found =>
        cases found with
        | none =>
            have laid : Text.Chars.Laid (encode e).toList _ :=
              laid_encodeLine (toBytes_ne_nil wellFormed)
            exact absurd (decode_eq_ok_none_iff.1 read)
              (not_silent_of_numeral laid (Number.Decimal.numeral_toString _))
        | some other =>
            exact absurd (inRange_of_holds_encodeLine wellFormed (decode_eq_ok_iff.1 read)) inRange

theorem held?_encode (wellFormed : e.message.flaw? = none) :
    held? e.message.connection (encode e) =
      (Option.guard (fun e => decide e.InRange) e).map truncated := by
  have read := isOk_decode_encode wellFormed
  unfold held?
  by_cases inRange : e.InRange
  · simp [decode_encode wellFormed inRange, Option.guard, inRange]
  · cases refused : decode e.message.connection (encode e) with
    | error fault => simp [Option.guard, inRange]
    | ok found => simp [refused, inRange, Except.isOk, Except.toBool] at read

/-- A line that is written has something to be seen in it, and no end. -/
theorem encode_sound (e : Entry) :
    encode e ≠ "" ∧ '\n' ∉ (encode e).toList ∧ (encode e).toList.getLast? ≠ some '\r' := by
  have visible : ∀ c ∈ (encode e).toList, 32 ≤ c.toNat ∧ c.toNat ≤ 122 := visible_encodeLine
  refine ⟨fun empty => ?_, fun feed => ?_, fun last => ?_⟩
  · have blank : ' ' ∈ (encode e).toList := by
      rw [encode, toList_encodeLine]
      simp
    rw [empty] at blank
    cases blank
  · exact absurd (visible _ feed).1 (by decide)
  · exact absurd (visible _ (List.mem_of_getLast? last)).1 (by decide)

end Entry

/-! ## All lines -/

namespace Capture

theorem entries_ofLines (number : Nat) (lines : List String) :
    (ofLines connection number lines).entries = lines.filterMap (Entry.held? connection) := by
  induction lines generalizing number with
  | nil => rfl
  | cons line rest ih =>
      rw [List.filterMap_cons, ← ih (number + 1), ofLines, Entry.held?]
      cases Entry.decode connection line with
      | error fault => rfl
      | ok found => cases found <;> rfl

theorem held_ofLines (lines : List String) (number : Nat) :
    ∀ e ∈ (ofLines connection number lines).entries, ∃ line, Entry.Holds connection line e := by
  intro e member
  rw [entries_ofLines] at member
  obtain ⟨line, -, held⟩ := List.mem_filterMap.1 member
  exact ⟨line, Entry.decode_eq_ok_iff.1 (Entry.held?_eq_some_iff.1 held)⟩

/-- The malformed lines stand with their numbers, and with what is wrong with them. -/
theorem skipped_ofLines (number : Nat) (lines : List String) :
    (ofLines connection number lines).skipped =
      (lines.zipIdx number).filterMap fun line =>
        (Entry.fault? connection line.1).map fun fault => (line.2, fault) := by
  induction lines generalizing number with
  | nil => rfl
  | cons line rest ih =>
      rw [List.zipIdx_cons, List.filterMap_cons, ← ih (number + 1), ofLines, Entry.fault?]
      cases Entry.decode connection line with
      | error fault => rfl
      | ok found => cases found <;> rfl

theorem length_skipped_ofLines (number : Nat) (lines : List String) :
    (ofLines connection number lines).skipped.length =
      lines.countP fun line => !(Entry.decode connection line).isOk := by
  rw [skipped_ofLines, List.length_filterMap_eq_countP]
  conv => rhs; rw [← List.zipIdx_map_fst number lines, List.countP_map]
  simp only [Option.isSome_map, Entry.isSome_fault?]
  rfl

/-- Lines that were written from messages hold these, as far as their offsets are in range. -/
theorem ofLines_encode {all : List Entry}
    (sound : ∀ e ∈ all, e.message.flaw? = none ∧ e.message.connection = connection) (number : Nat) :
    (ofLines connection number (all.map Entry.encode)).entries =
        (all.filter fun e => e.InRange).map Entry.truncated ∧
      (ofLines connection number (all.map Entry.encode)).skipped.length =
        all.countP fun e => ¬ e.InRange := by
  constructor
  · rw [entries_ofLines, List.filterMap_map, ← List.filterMap_eq_filter, List.map_filterMap]
    refine List.filterMap_congr fun e member => ?_
    obtain ⟨wellFormed, rfl⟩ := sound e member
    rw [Function.comp_apply, Entry.held?_encode wellFormed]
  · rw [length_skipped_ofLines, List.countP_map]
    refine List.countP_congr fun e member => ?_
    obtain ⟨wellFormed, rfl⟩ := sound e member
    simp [Entry.isOk_decode_encode wellFormed]

/-! ## All of a text -/

theorem entries_ofText (connection : Connection) (text : String) :
    (ofText connection text).entries = (Text.lines text).filterMap (Entry.held? connection) :=
  entries_ofLines 1 (Text.lines text)

theorem length_skipped_ofText (connection : Connection) (text : String) :
    (ofText connection text).skipped.length =
      ((Text.lines text).filterMap (Entry.fault? connection)).length := by
  simp only [List.length_filterMap_eq_countP, Entry.isSome_fault?]
  exact length_skipped_ofLines 1 (Text.lines text)

/-- **What is written for messages without flaw** holds these messages, if their offsets are in
range. -/
theorem ofText_encode {all : List Entry} {output : String}
    (is : Text.lines output = all.map Entry.encode)
    (sound : ∀ e ∈ all, e.message.flaw? = none ∧ e.message.connection = connection)
    (inRange : ∀ e ∈ all, e.InRange) :
    ofText connection output = ⟨all.map Entry.truncated, []⟩ := by
  obtain ⟨entries, skipped⟩ := ofLines_encode sound 1
  have kept : (all.filter fun e => e.InRange) = all := by simpa using inRange
  have none : (all.countP fun e => ¬ e.InRange) = 0 := by simpa using inRange
  rw [← is, kept] at entries
  rw [← is, none, List.length_eq_zero_iff] at skipped
  exact congrArg₂ Capture.mk entries skipped

/-- **Captures with a line feed between them** hold what they hold one by one. -/
theorem ofText_append (connection : Connection) (a b : String) :
    (ofText connection (a ++ "\n" ++ b)).entries =
        (ofText connection a).entries ++ (ofText connection b).entries ∧
      (ofText connection (a ++ "\n" ++ b)).skipped.length =
        (ofText connection a).skipped.length + (ofText connection b).skipped.length := by
  constructor
  · simp only [entries_ofText]
    exact Text.filterMap_lines_append Entry.held?_congr rfl a b
  · simp only [length_skipped_ofText]
    rw [Text.filterMap_lines_append Entry.fault?_congr rfl, List.length_append]

/-- **A line that holds no message can be taken out.** -/
theorem entries_without {text : String} {before after : List String} {line : String}
    (split : Text.endedLines text = before ++ line :: after)
    (nothing : Entry.held? connection line = none) :
    (ofText connection (String.join (before ++ after))).entries =
      (ofText connection text).entries := by
  have sub : (before ++ after).Sublist (Text.endedLines text) := by
    rw [split]
    exact (List.Sublist.refl before).append (List.sublist_cons_self line after)
  rw [entries_ofText, entries_ofText, Text.filterMap_lines_join Entry.held?_congr sub,
    Text.filterMap_lines Entry.held?_congr, split]
  simp [nothing]

/-! ## Reporting -/

/-- **Each malformed line is counted** once, for the session, and nothing else is. -/
theorem metrics_reportSkips (skips : List (Nat × Fault)) (w : World) :
    let after := skips.foldl reportSkip w
    (∀ labels, after.metrics.protocolErrors.get labels =
      w.metrics.protocolErrors.get labels +
        if labels = [("pass", "session")] then UInt64.ofNat skips.length else 0) ∧
    after.metrics = { w.metrics with protocolErrors := after.metrics.protocolErrors } := by
  induction skips generalizing w with
  | nil => exact ⟨fun labels => by simp, rfl⟩
  | cons skip rest ih =>
      obtain ⟨counted, others⟩ := ih (reportSkip w skip)
      refine ⟨fun labels => ?_, ?_⟩
      · have one : (reportSkip w skip).metrics.protocolErrors.get labels =
            w.metrics.protocolErrors.get labels +
              if labels = [("pass", "session")] then 1 else 0 := by
          refine (Counter.get_add _ _ _ 1).trans ?_
          simp only [LabelSet.ofPairs_eq_iff, List.perm_singleton]
        rw [List.foldl_cons, counted, one, List.length_cons]
        split <;> simp [UInt64.add_assoc, UInt64.add_comm 1]
      · rw [List.foldl_cons, others]
        rfl

/-! ## Loading -/

/-- **Loading loses nothing, and no line spoils another.**  A capture holds what its lines hold, in
order.  The lines that are refused are counted as skipped and in the metrics, where nothing else
changes; held, refused and silent lines are all there are.  A text is its lines with their ends.
Captures with a line feed between them hold what they hold one by one, and are skipped in as many
lines; a line with no message in it can be taken out.  And lines that were written from messages
without flaw, each ended with a line feed or with line feeds between them, hold these messages and
skip none, as far as their offsets fit into a line. -/
theorem load_keeps_lines_apart (connection : Connection) (text : String) (w : World) :
    let lines := Text.lines text
    let capture := (load connection text w).1
    let after := (load connection text w).2
    (capture.entries = lines.filterMap (Entry.held? connection) ∧
      ∀ line e, Entry.held? connection line = some e ↔
        Entry.decode connection line = .ok (some e)) ∧
    (capture.skipped.length = lines.countP (fun line => !(Entry.decode connection line).isOk) ∧
      (∀ labels, after.metrics.protocolErrors.get labels =
        w.metrics.protocolErrors.get labels +
          if labels = [("pass", "session")] then UInt64.ofNat capture.skipped.length else 0) ∧
      after.metrics = { w.metrics with protocolErrors := after.metrics.protocolErrors }) ∧
    capture.entries.length + capture.skipped.length +
      lines.countP (fun line => Entry.Silent line) = lines.length ∧
    (String.join (Text.endedLines text) = text ∧ lines = (Text.endedLines text).map Text.dropEnd) ∧
    (∀ a b, (ofText connection (a ++ "\n" ++ b)).entries =
        (ofText connection a).entries ++ (ofText connection b).entries ∧
      (ofText connection (a ++ "\n" ++ b)).skipped.length =
        (ofText connection a).skipped.length + (ofText connection b).skipped.length) ∧
    (∀ before line after, Text.endedLines text = before ++ line :: after →
      Entry.held? connection (Text.dropEnd line) = none →
        (ofText connection (String.join (before ++ after))).entries = capture.entries) ∧
    ∀ all : List Entry,
      (∀ e ∈ all, e.message.flaw? = none ∧ e.message.connection = connection) →
      let written := all.map Entry.encode
      (Text.lines (Text.ofLines written) = written ∧
        Text.lines ("\n".intercalate written) = written) ∧
      ∀ output, Text.lines output = written →
        (ofText connection output).entries =
          (all.filter fun e => e.InRange).map Entry.truncated ∧
        (ofText connection output).skipped.length = all.countP (fun e => ¬ e.InRange) ∧
        ((∀ e ∈ all, e.InRange) →
          ofText connection output = ⟨all.map Entry.truncated, []⟩) := by
  intro lines capture after
  have held : capture.entries = lines.filterMap (Entry.held? connection) :=
    entries_ofText connection text
  have skipped : capture.skipped.length =
      (lines.filterMap (Entry.fault? connection)).length := length_skipped_ofText connection text
  refine ⟨⟨held, fun line e => Entry.held?_eq_some_iff⟩, ⟨length_skipped_ofLines 1 lines, ?_⟩, ?_,
    ⟨Text.join_endedLines, Text.lines_eq_map_endedLines⟩, ofText_append connection, ?_, ?_⟩
  · exact metrics_reportSkips capture.skipped w
  · rw [held, skipped]
    exact Entry.held_or_malformed_or_silent connection lines
  · intro before line after split nothing
    rw [Entry.held?_congr Text.trim_dropEnd] at nothing
    exact entries_without split nothing
  · intro all sound written
    have plain : ∀ line ∈ written,
        line ≠ "" ∧ '\n' ∉ line.toList ∧ line.toList.getLast? ≠ some '\r' := by
      intro line member
      obtain ⟨e, -, rfl⟩ := List.mem_map.1 member
      exact e.encode_sound
    refine ⟨⟨Text.lines_ofLines fun line member => (plain line member).2,
      Text.lines_intercalate plain⟩, fun output is => ?_⟩
    obtain ⟨entries, skips⟩ := ofLines_encode sound 1
    have made : ofText connection output = ofLines connection 1 written := by rw [ofText, is]
    rw [← made] at entries skips
    exact ⟨entries, skips, ofText_encode is sound⟩

namespace Example

open Message.Example (message)

/-- A request in the last nanosecond before its second millisecond, and an event. -/
def request : Entry :=
  ⟨1999999, message .fromClient 1 0 [3]⟩

def event : Entry :=
  ⟨millis 2, message .fromServer 3 0 [7]⟩

/-- The request with a blank among its bytes, which makes four fields. -/
def brokenLine : String :=
  "1 C 010000000000 0c0003000000\r\n"

/-- The lines of the request, of a comment and of the event; the last one does not end. -/
def otherLines : List String :=
  ["1 C 0100000000000c0003000000\r\n", "# cut\n", "2 S 0300000000000c0007000000"]

def text : String :=
  String.join (brokenLine :: otherLines)

/-- The broken line is skipped and counted, and the others are loaded with it and without it.  The
request and the event are written and loaded again, the request at its first millisecond. -/
theorem broken_line_skipped :
    let loaded := load ⟨1, none⟩ text (.start .reliable .reliable)
    loaded.1.entries = [request.truncated, event] ∧ loaded.1.skipped.length = 1 ∧
      loaded.2.metrics.protocolErrors.get [("pass", "session")] = 1 ∧
      Text.endedLines text = [] ++ brokenLine :: otherLines ∧
      Entry.held? ⟨1, none⟩ (Text.dropEnd brokenLine) = none ∧
      (ofText ⟨1, none⟩ (String.join otherLines)).entries = [request.truncated, event] ∧
      (∀ e ∈ [request, event], e.message.flaw? = none ∧ e.message.connection = ⟨1, none⟩) ∧
      (∀ e ∈ [request, event], e.InRange) ∧
      ofText ⟨1, none⟩ (request.encode ++ "\n" ++ event.encode) =
        ⟨[request.truncated, event], []⟩ := by
  intro loaded
  obtain ⟨⟨entries, -⟩, ⟨skipped, counted, -⟩, -, -, -, without, written⟩ :=
    load_keeps_lines_apart ⟨1, none⟩ text (.start .reliable .reliable)
  have split : Text.endedLines text = [] ++ brokenLine :: otherLines := by decide +kernel
  have nothing : Entry.held? ⟨1, none⟩ (Text.dropEnd brokenLine) = none := by decide +kernel
  have held : (Text.lines text).filterMap (Entry.held? ⟨1, none⟩) = [request.truncated, event] := by
    decide +kernel
  have one : (Text.lines text).countP (fun line => !(Entry.decode ⟨1, none⟩ line).isOk) = 1 := by
    decide +kernel
  have sound : ∀ e ∈ [request, event],
      e.message.flaw? = none ∧ e.message.connection = ⟨1, none⟩ := by decide
  have inRange : ∀ e ∈ [request, event], e.InRange := by decide
  obtain ⟨⟨-, lines⟩, holds⟩ := written [request, event] sound
  obtain ⟨-, -, again⟩ := holds (request.encode ++ "\n" ++ event.encode) lines
  refine ⟨entries.trans held, skipped.trans one, ?_, split, nothing,
    (without [] brokenLine otherLines split nothing).trans (entries.trans held), sound, inRange,
    again inRange⟩
  rw [counted, skipped, one]
  decide

/-- The request at the first millisecond that a line cannot hold. -/
def late : Entry :=
  { request with offset := millis (2 ^ 64) }

/-- **A line that is written is not always read back.**  The late request has no flaw, and is
skipped all the same. -/
theorem late_message_skipped :
    late.message.flaw? = none ∧ late.message.connection = ⟨1, none⟩ ∧
      Text.ofLines [late.encode] = "18446744073709551616 C 0100000000000c0003000000\n" ∧
      (ofText ⟨1, none⟩ (Text.ofLines [late.encode])).entries = [] ∧
      (ofText ⟨1, none⟩ (Text.ofLines [late.encode])).skipped.length = 1 := by
  have sound : ∀ e ∈ [late], e.message.flaw? = none ∧ e.message.connection = ⟨1, none⟩ := by decide
  have lines : Text.lines (Text.ofLines [late.encode]) = [late].map Entry.encode := by
    apply Text.lines_ofLines
    intro line member
    obtain rfl := List.mem_singleton.1 member
    exact late.encode_sound.2
  rcases ofLines_encode sound 1 with ⟨entries, skipped⟩
  rw [← lines] at entries skipped
  have outOfRange : ¬ late.InRange := by decide
  exact ⟨by decide, by decide, by decide +kernel, entries.trans (by simp [outOfRange]),
    skipped.trans (by simp [outOfRange])⟩

end Example

end Capture

end WaylandProxy
