/-
# Proofs.Metrics.Exposition -- counter lines that can be read back

A sample line is a name, the labels between braces, a blank and a number.  Keys are words
(`IsWord`); a value can be any text, and stands between quotes with its backslashes, quotes and line
feeds escaped, which three replacements one after the other come to as well (`escape_eq_replaced`).
`readLabels` reads such labels character by character, and never has to look ahead: an escaped value
cannot end itself (`readLabels_value`), so a label ends where it was written to end
(`readLabels_label`), and so do all of them (`readLabels_render`).

What can be read back cannot be the same for two series: labels have the same text exactly if they
are permutations of each other (`render_eq_iff`), and no two series of a counter have the same line.
-/
import Mathlib
import WaylandProxy.Proofs.Metrics.Tally
import WaylandProxy.Proofs.Number.Decimal
import WaylandProxy.Proofs.Text.Lines

namespace WaylandProxy

set_option autoImplicit false

/-! ## Words and values -/

/-- Letters, digits and underscores, and at least one of them. -/
def IsWord (word : String) : Prop :=
  word ≠ "" ∧ ∀ c ∈ word.toList, c.isAlphanum ∨ c = '_'

instance (word : String) : Decidable (IsWord word) :=
  decidable_of_iff (word ≠ "" ∧ word.toList.all fun c => c.isAlphanum || c = '_')
    (by simp [IsWord])

/-- The keys of some labels are words. -/
def Worded (labels : List (String × String)) : Prop :=
  ∀ label ∈ labels, IsWord label.1

instance (labels : List (String × String)) : Decidable (Worded labels) :=
  inferInstanceAs (Decidable (∀ label ∈ labels, IsWord label.1))

/-- No character of a word has a meaning of its own on a line. -/
theorem IsWord.plain {word : String} (isWord : IsWord word) {c : Char} (member : c ∈ word.toList) :
    c ≠ '=' ∧ c ≠ '\x7d' ∧ c ≠ '\n' := by
  rcases isWord.2 c member with letter | rfl
  · refine ⟨?_, ?_, ?_⟩ <;> rintro rfl <;> exact absurd letter (by decide)
  · decide

namespace LabelSet

/-- The text with every occurrence of one character replaced. -/
def substitute (old : Char) (new text : List Char) : List Char :=
  text.flatMap fun c => if c = old then new else [c]

/-- A value after three replacements, one after the other. -/
def replaced (value : String) : String :=
  String.ofList
    (substitute '\n' ['\\', 'n']
      (substitute '"' ['\\', '"'] (substitute '\\' ['\\', '\\'] value.toList)))

theorem not_mem_substitute {old : Char} {new : List Char} (gone : old ∉ new) (text : List Char) :
    old ∉ substitute old new text := by
  intro left
  obtain ⟨c, -, written⟩ := List.mem_flatMap.1 left
  split at written
  · exact gone written
  · rename_i other
    exact other (List.mem_singleton.1 written).symm

/-- **Three replacements, one after the other**, are one: what one of them writes is not replaced by
the next. -/
theorem escape_eq_replaced (value : String) : escape value = replaced value := by
  simp only [escape, replaced, substitute, List.flatMap_assoc]
  congr 1
  apply List.flatMap_congr
  intro c _
  by_cases backslash : c = '\\'
  · simp [escapeChar, backslash]
  · by_cases quote : c = '"'
    · simp [escapeChar, quote]
    · by_cases feed : c = '\n' <;> simp [escapeChar, backslash, quote, feed]

/-- What is escaped has no line feed in it, since the line feeds are replaced last. -/
theorem feed_not_mem_escape (value : String) : '\n' ∉ (escape value).toList := by
  rw [escape_eq_replaced, replaced, String.toList_ofList]
  exact not_mem_substitute (by decide) _

/-- The text of labels, each value after the three replacements. -/
theorem render_eq_replaced (labels : LabelSet) :
    labels.render =
      ",".intercalate (labels.pairs.map fun (key, value) =>
        key ++ "=\"" ++ replaced value ++ "\"") := by
  simp only [render, escape_eq_replaced]

end LabelSet

/-! ## Reading labels -/

namespace Exposition

/-- Where in some labels a reader stands, and what it has of the label it is in. -/
inductive Place where
  | key (key : List Char)
  | quote (key : List Char)
  | value (key value : List Char)
  /-- After a backslash in a value. -/
  | escaped (key value : List Char)
  /-- After the quote that ends a value. -/
  | closed

def unescape (c : Char) : Char :=
  if c = 'n' then '\n' else c

/-- The labels up to the brace that ends them, after those that were found already, and the text
after the brace. -/
def readLabels (found : List (String × String)) :
    Place → List Char → Option (List (String × String) × List Char)
  | _, [] => none
  | .key key, c :: rest =>
    if c = '=' then readLabels found (.quote key) rest
    else if c = '\x7d' then some (found, rest)
    else readLabels found (.key (key ++ [c])) rest
  | .quote key, c :: rest => if c = '"' then readLabels found (.value key []) rest else none
  | .value key value, c :: rest =>
    if c = '\\' then readLabels found (.escaped key value) rest
    else if c = '"' then
      readLabels (found ++ [(String.ofList key, String.ofList value)]) .closed rest
    else readLabels found (.value key (value ++ [c])) rest
  | .escaped key value, c :: rest => readLabels found (.value key (value ++ [unescape c])) rest
  | .closed, c :: rest =>
    if c = ',' then readLabels found (.key []) rest
    else if c = '\x7d' then some (found, rest)
    else none

variable {found : List (String × String)} {key value rest : List Char}

theorem readLabels_key {word : List Char} (plain : ∀ c ∈ word, c ≠ '=' ∧ c ≠ '\x7d') :
    readLabels found (.key key) (word ++ rest) = readLabels found (.key (key ++ word)) rest := by
  induction word generalizing key with
  | nil => simp
  | cons c word ih =>
      obtain ⟨⟨notEquals, notBrace⟩, others⟩ := List.forall_mem_cons.1 plain
      simp [readLabels, notEquals, notBrace, ih others]

/-- **A value cannot end itself**: all of it is read, and what stands after it is left. -/
theorem readLabels_value (text : List Char) :
    readLabels found (.value key value) (text.flatMap LabelSet.escapeChar ++ rest) =
      readLabels found (.value key (value ++ text)) rest := by
  induction text generalizing value with
  | nil => simp
  | cons c text ih =>
      -- what stands for the character is read up to its own end, whatever follows
      rw [List.flatMap_cons, List.append_assoc]
      by_cases backslash : c = '\\'
      · simp [LabelSet.escapeChar, backslash, readLabels, unescape, ih]
      · by_cases quote : c = '"'
        · simp [LabelSet.escapeChar, quote, readLabels, unescape, ih]
        · by_cases feed : c = '\n'
          · simp [LabelSet.escapeChar, feed, readLabels, unescape, ih]
          · simp [LabelSet.escapeChar, backslash, quote, feed, readLabels, ih]

def labelChars (label : String × String) : List Char :=
  label.1.toList ++ '=' :: '"' :: (label.2.toList.flatMap LabelSet.escapeChar ++ ['"'])

theorem readLabels_label {label : String × String} (isWord : IsWord label.1) :
    readLabels found (.key []) (labelChars label ++ rest) =
      readLabels (found ++ [label]) .closed rest := by
  have plain : ∀ c ∈ label.1.toList, c ≠ '=' ∧ c ≠ '\x7d' := by
    intro c member
    rcases isWord.plain member with ⟨notEquals, notBrace, -⟩
    exact ⟨notEquals, notBrace⟩
  have key := @readLabels_key found [] ('=' :: '"' ::
    (label.2.toList.flatMap LabelSet.escapeChar ++ '"' :: rest)) _ plain
  rw [labelChars, List.append_assoc]
  simp only [List.cons_append, List.append_assoc, List.nil_append, key]
  simp [readLabels, readLabels_value]

theorem feed_not_mem_labelChars {label : String × String} (isWord : IsWord label.1) :
    '\n' ∉ labelChars label := by
  have inKey : '\n' ∉ label.1.toList := fun feed => (isWord.plain feed).2.2 rfl
  have inValue : '\n' ∉ label.2.toList.flatMap LabelSet.escapeChar := by
    simpa [LabelSet.escape, -List.mem_flatMap] using LabelSet.feed_not_mem_escape label.2
  simp [labelChars, inKey, inValue, -List.mem_flatMap]

theorem intercalate_cons {label : String × String} {others : List (String × String)}
    (some : others ≠ []) :
    [','].intercalate ((label :: others).map labelChars) =
      labelChars label ++ ',' :: [','].intercalate (others.map labelChars) := by
  cases others with
  | nil => exact absurd rfl some
  | cons next others => simp [List.intercalate_cons_cons]

theorem readLabels_labels {labels : List (String × String)} (some : labels ≠ [])
    (words : Worded labels) :
    readLabels found (.key []) ([','].intercalate (labels.map labelChars) ++ rest) =
      readLabels (found ++ labels) .closed rest := by
  induction labels generalizing found with
  | nil => exact absurd rfl some
  | cons label others ih =>
      rcases List.forall_mem_cons.1 words with ⟨isWord, words⟩
      by_cases last : others = []
      · simp [last, readLabels_label isWord]
      · rw [intercalate_cons last, List.append_assoc, List.cons_append, readLabels_label isWord,
          readLabels, if_pos rfl, ih last words]
        simp

theorem feed_not_mem_labels {labels : List (String × String)} (words : Worded labels) :
    '\n' ∉ [','].intercalate (labels.map labelChars) := by
  induction labels with
  | nil => simp [List.intercalate]
  | cons label others ih =>
      rcases List.forall_mem_cons.1 words with ⟨isWord, words⟩
      have first := feed_not_mem_labelChars isWord
      by_cases last : others = []
      · simpa [last] using first
      · rw [intercalate_cons last]
        simp [first, ih words]

theorem toList_render (labels : LabelSet) :
    labels.render.toList = [','].intercalate (labels.pairs.map labelChars) := by
  rw [LabelSet.render, String.toList_intercalate, List.map_map]
  congr 1
  apply List.map_congr_left
  intro label _
  simp [labelChars, LabelSet.escape]

/-- **Labels that were written are read back**, and what stands after their brace is left. -/
theorem readLabels_render {labels : LabelSet} (words : Worded labels.pairs) (rest : List Char) :
    readLabels [] (.key []) (labels.render.toList ++ '\x7d' :: rest) =
      some (labels.pairs, rest) := by
  rw [toList_render]
  by_cases none : labels.pairs = []
  · simp [none, readLabels]
  · rw [readLabels_labels none words]
    simp [readLabels]

/-- The name, the labels and the value of a sample line. -/
def readSample (line : String) : Option (String × LabelSet × UInt64) := do
  let (name, rest) ← Text.cut? (· == '\x7b') line
  let (pairs, rest) ← readLabels [] (.key []) rest.toList
  let value ← (Number.Decimal.readU64 (String.ofList (rest.drop 1))).toOption
  return (name, ⟨pairs⟩, value)

variable {name : String} {labels : LabelSet}

/-- **A sample line is read back.** -/
theorem readSample_sampleLine (noBrace : '\x7b' ∉ name.toList) (words : Worded labels.pairs)
    (value : UInt64) :
    readSample (sampleLine name labels.render value) = some (name, labels, value) := by
  have cut : Text.cut? (· == '\x7b') (sampleLine name labels.render value) =
      some (name, labels.render ++ "\x7d " ++ toString value) := by
    apply Text.cut?_eq_some_iff.2
    refine ⟨'\x7b', by simp [sampleLine], rfl, ?_⟩
    intro c member
    exact beq_false_of_ne fun same => noBrace (same ▸ member)
  have number : Number.Decimal.readU64 (toString value) = .ok value :=
    Number.Decimal.readU64_eq_ok_iff.2 (Number.Decimal.numeral_toString value.toNat)
  have labelsRead := readLabels_render words (' ' :: (toString value).toList)
  simp [readSample, cut, labelsRead, number, Except.toOption]

/-- **A sample line is one line.** -/
theorem feed_not_mem_sampleLine (noFeed : '\n' ∉ name.toList) (words : Worded labels.pairs)
    (value : UInt64) : '\n' ∉ (sampleLine name labels.render value).toList := by
  have inLabels : '\n' ∉ labels.render.toList := by
    rw [toList_render]
    exact feed_not_mem_labels words
  have inValue : '\n' ∉ (toString value).toList := by
    intro feed
    have digit : ('\n').isDigit := @Number.Decimal.isDigit_of_mem_toString value.toNat _ feed
    exact absurd digit (by decide)
  simp [sampleLine, noFeed, inLabels, inValue]

end Exposition

namespace LabelSet

variable {a b : List (String × String)}

theorem worded_ofPairs (words : Worded a) : Worded (ofPairs a).pairs := by
  intro label member
  exact words label (List.mem_mergeSort.1 member)

/-- **Labels have the same text** exactly if they are permutations of each other. -/
theorem render_eq_iff (words : Worded a) (others : Worded b) :
    (ofPairs a).render = (ofPairs b).render ↔ a.Perm b := by
  rw [← ofPairs_eq_iff]
  constructor
  · intro same
    have first := Exposition.readLabels_render (worded_ofPairs words) []
    have second := Exposition.readLabels_render (worded_ofPairs others) []
    rw [same, second] at first
    have pairs : (ofPairs b).pairs = (ofPairs a).pairs := by simpa using first
    exact congrArg mk pairs.symm
  · intro same
    rw [same]

end LabelSet

/-! ## The lines of a counter -/

namespace Counter

variable {calls : List Call} {name : String}

/-- **The exposition of a counter** has one line for each label set among the calls. -/
theorem exists_samples (calls : List Call) (name : String) :
    ∃ samples : List String,
      (after calls).render name = ("# TYPE " ++ name ++ " counter") :: samples ∧
        samples.Perm ((touched calls).map fun labels =>
          sampleLine name labels.render ((after calls).get labels.pairs)) := by
  rcases Family.renderSorted_perm (series_after calls) fun labels value =>
    [sampleLine name labels.render value] with ⟨blocks, flat, perm⟩
  have lines := perm.flatten
  rw [← List.flatMap_def, ← List.map_eq_flatMap] at lines
  exact ⟨blocks.flatten, congrArg _ flat, lines⟩

theorem worded_touched (words : ∀ call ∈ calls, Worded call.labels) {labels : LabelSet}
    (among : labels ∈ touched calls) : Worded labels.pairs := by
  rcases List.mem_map.1 (List.mem_dedup.1 among) with ⟨call, member, rfl⟩
  exact LabelSet.worded_ofPairs (words call member)

/-- **The lines of a counter tell its series apart.**  The text of labels has each value after three
replacements.  Labels whose keys are words have the same text exactly if they are permutations of
each other, whatever their values are.  So the exposition of a counter has one line for each label
set among the calls; no two of them are equal, and name, label set and value are read back from
each.  No line has a line feed in it but the one that ends it. -/
theorem lines_tell_series_apart (noBrace : '\x7b' ∉ name.toList) (noFeed : '\n' ∉ name.toList)
    (words : ∀ call ∈ calls, Worded call.labels) :
    (∀ labels : LabelSet, labels.render =
      ",".intercalate (labels.pairs.map fun (key, value) =>
        key ++ "=\"" ++ LabelSet.replaced value ++ "\"")) ∧
    (∀ a b, Worded a → Worded b →
      ((LabelSet.ofPairs a).render = (LabelSet.ofPairs b).render ↔ a.Perm b)) ∧
    ∃ samples : List String,
      (after calls).render name = ("# TYPE " ++ name ++ " counter") :: samples ∧
      samples.Perm ((touched calls).map fun labels =>
        sampleLine name labels.render ((after calls).get labels.pairs)) ∧
      samples.Nodup ∧
      (samples.map Exposition.readSample).Perm ((touched calls).map fun labels =>
        some (name, labels, (after calls).get labels.pairs)) ∧
      (∀ line ∈ samples, '\n' ∉ line.toList) ∧
      Text.endedLines (Text.ofLines ((after calls).render name)) =
        ((after calls).render name).map (· ++ "\n") := by
  refine ⟨LabelSet.render_eq_replaced, fun a b => LabelSet.render_eq_iff, ?_⟩
  rcases exists_samples calls name with ⟨samples, rendered, perm⟩
  have read : (samples.map Exposition.readSample).Perm ((touched calls).map fun labels =>
      some (name, labels, (after calls).get labels.pairs)) := by
    refine (perm.map Exposition.readSample).trans (List.Perm.of_eq ?_)
    rw [List.map_map]
    apply List.map_congr_left
    intro labels among
    exact Exposition.readSample_sampleLine noBrace (worded_touched words among) _
  -- lines from which different labels are read are different
  have distinct : (samples.map Exposition.readSample).Nodup := by
    rw [read.nodup_iff]
    apply (List.nodup_dedup _).map
    intro labels others same
    injection same with same
    exact congrArg (fun found => found.2.1) same
  have unbroken : ∀ line ∈ samples, '\n' ∉ line.toList := by
    intro line member
    rcases List.mem_map.1 (perm.mem_iff.1 member) with ⟨labels, among, rfl⟩
    exact Exposition.feed_not_mem_sampleLine noFeed (worded_touched words among) _
  refine ⟨samples, rendered, perm, distinct.of_map, read, unbroken, ?_⟩
  apply Text.endedLines_ofLines
  intro line member
  rw [rendered] at member
  rcases List.mem_cons.1 member with rfl | member
  · simp [noFeed]
  · exact unbroken line member

namespace Example

def errors : String := "wlfuzz_transport_errors_total"

/-- A value that imitates the end of a value and another label, these two labels in both orders, and
a line feed next to the characters that stand for it. -/
def imitations : List Call :=
  [.increment [("side", "a\",pass=\"b")], .increment [("side", "a"), ("pass", "b")],
    .add [("side", "\n")] 5, .increment [("side", "\\n")],
    .increment [("pass", "b"), ("side", "a")]]

def lines : List String :=
  ["wlfuzz_transport_errors_total\x7bside=\"a\\\",pass=\\\"b\"\x7d 1",
    "wlfuzz_transport_errors_total\x7bside=\"\\n\"\x7d 5",
    "wlfuzz_transport_errors_total\x7bside=\"\\\\n\"\x7d 1",
    "wlfuzz_transport_errors_total\x7bpass=\"b\",side=\"a\"\x7d 2"]

/-- The imitations do not succeed: there is a line for each, and the line of the two labels counts
their two calls. -/
theorem imitations_told_apart :
    '\x7b' ∉ errors.toList ∧ '\n' ∉ errors.toList ∧ (∀ call ∈ imitations, Worded call.labels) ∧
      (LabelSet.ofPairs [("side", "a\",pass=\"b")]).render ≠
        (LabelSet.ofPairs [("side", "a"), ("pass", "b")]).render ∧
      ∃ samples : List String,
        (after imitations).render errors = ("# TYPE " ++ errors ++ " counter") :: samples ∧
          samples.Nodup ∧ samples.Perm lines := by
  have noBrace : '\x7b' ∉ errors.toList := by decide
  have noFeed : '\n' ∉ errors.toList := by decide
  have words : ∀ call ∈ imitations, Worded call.labels := by decide
  rcases lines_tell_series_apart noBrace noFeed words with
    ⟨-, texts, samples, rendered, perm, distinct, -⟩
  have differ := texts [("side", "a\",pass=\"b")] [("side", "a"), ("pass", "b")] (by decide)
    (by decide)
  have written : ((touched imitations).map fun labels =>
      sampleLine errors labels.render ((after imitations).get labels.pairs)) = lines := by
    cbv
  exact ⟨noBrace, noFeed, words, differ.not.2 (by decide), samples, rendered, distinct,
    written ▸ perm⟩

end Example

end Counter

end WaylandProxy
