/-
# Proofs.Text.Typed -- what an operator types

The interactive pass reads its input as bytes, cut after each line feed.  Where the bytes are those
of a text, the cuts lie between characters, for no other character has the byte of a line feed in
it (`feed_not_mem_encodeChar`).  So what is read is the encoding of the lines of the text, each with
its end (`linesOf_encodeChars`), and these have the fields of the lines without their ends
(`linesOf_encode`).

A command is told by the first field of its line (`firstWord_eq`).
-/
import WaylandProxy.Pass.Interactive
import WaylandProxy.Proofs.Text.Hex
import WaylandProxy.Proofs.Text.Lines

namespace WaylandProxy

set_option autoImplicit false

namespace Text

/-! ## Texts as bytes -/

/-- A byte is a line feed only by its value. -/
theorem Utf8.ofNat_ne_feed {n : Nat} (other : n % 256 ≠ 10) : (10 : UInt8) ≠ UInt8.ofNat n := by
  intro same
  exact other (congrArg UInt8.toNat same).symm

/-- No character but the line feed has the byte of a line feed in it. -/
theorem Utf8.feed_not_mem_encodeChar {c : Char} (other : c ≠ '\n') :
    10 ∉ String.utf8EncodeChar c := by
  have value : c.val.toNat ≠ 10 := fun same =>
    other (Char.ext (UInt32.toNat_inj.1 same))
  have range : c.val.toNat < 4294967296 := c.val.toNat_lt
  intro member
  unfold String.utf8EncodeChar at member
  simp only at member
  -- every byte of a longer form has its highest bit set
  split at member
  · exact Utf8.ofNat_ne_feed (by omega) (List.mem_singleton.1 member)
  · split at member
    · simp only [List.mem_cons, List.not_mem_nil, or_false] at member
      obtain is | is := member <;> exact Utf8.ofNat_ne_feed (by omega) is
    · split at member
      · simp only [List.mem_cons, List.not_mem_nil, or_false] at member
        obtain is | is | is := member <;> exact Utf8.ofNat_ne_feed (by omega) is
      · simp only [List.mem_cons, List.not_mem_nil, or_false] at member
        obtain is | is | is | is := member <;> exact Utf8.ofNat_ne_feed (by omega) is

end Text

namespace Interactive

/-! ## Lines of bytes -/

/-- A byte that is no line feed belongs to the line that begins after it. -/
theorem linesOf_cons {byte : UInt8} (notFeed : byte ≠ 10) {bytes line : List UInt8}
    {more : List (List UInt8)} (cut : linesOf bytes = line :: more) :
    linesOf (byte :: bytes) = (byte :: line) :: more := by
  unfold linesOf at cut ⊢
  simp only [List.foldr_cons, cut, if_neg notFeed]

/-- A line and its line feed before more bytes. -/
theorem linesOf_append_line {line : List UInt8} (unbroken : 10 ∉ line) (rest : List UInt8) :
    linesOf (line ++ 10 :: rest) = (line ++ [10]) :: linesOf rest := by
  induction line with
  | nil => rfl
  | cons byte line ih =>
      obtain ⟨notFeed, others⟩ := List.ne_and_not_mem_of_not_mem_cons unbroken
      exact linesOf_cons notFeed.symm (ih others)

/-- Bytes without a line feed are one line, if there are any. -/
theorem linesOf_unbroken {bytes : List UInt8} (unbroken : 10 ∉ bytes) (some : bytes ≠ []) :
    linesOf bytes = [bytes] := by
  induction bytes with
  | nil => exact absurd rfl some
  | cons byte rest ih =>
      obtain ⟨notFeed, others⟩ := List.ne_and_not_mem_of_not_mem_cons unbroken
      cases rest with
      | nil => exact if_neg notFeed.symm
      | cons next rest =>
          exact linesOf_cons notFeed.symm (ih others (List.cons_ne_nil next rest))

/-! ## Lines of a text -/

def encodeChars (s : List Char) : List UInt8 :=
  s.flatMap String.utf8EncodeChar

theorem feed_not_mem_encodeChars {line : List Char} (unbroken : '\n' ∉ line) :
    10 ∉ encodeChars line := by
  intro member
  obtain ⟨c, inside, feed⟩ := List.mem_flatMap.1 member
  exact Text.Utf8.feed_not_mem_encodeChar (fun is => unbroken (is ▸ inside)) feed

open Text.Chars in
/-- **The lines that are read of a text** are its lines with their ends. -/
theorem linesOf_encodeChars (s : List Char) :
    linesOf (encodeChars s) = (endedLines s).map encodeChars := by
  induction s using line_induction with
  | unbroken s unbroken =>
      rw [endedLines_unbroken unbroken]
      cases s with
      | nil => rfl
      | cons c s =>
          refine linesOf_unbroken (feed_not_mem_encodeChars unbroken) ?_
          exact List.append_ne_nil_of_left_ne_nil String.utf8EncodeChar_ne_nil _
  | line first rest unbroken ih =>
      have cut (s : List Char) : encodeChars (first ++ '\n' :: s) =
          encodeChars first ++ 10 :: encodeChars s := List.flatMap_append
      rw [cut, linesOf_append_line (feed_not_mem_encodeChars unbroken), ih,
        endedLines_append_line unbroken, List.map_cons, cut]
      rfl

def typed (text : String) : List String :=
  (linesOf (Text.Utf8.encode text)).filterMap Text.Utf8.decode?

/-- **What an operator types is read line by line**, each line being a text with the fields of a
line of what was typed. -/
theorem linesOf_encode (text : String) :
    linesOf (Text.Utf8.encode text) = (typed text).map Text.Utf8.encode ∧
      (typed text).map Text.fields = (Text.lines text).map Text.fields := by
  have encoded : linesOf (Text.Utf8.encode text) =
      (Text.endedLines text).map Text.Utf8.encode := by
    rw [Text.Utf8.encode_eq_flatMap, show text.toList.flatMap _ = encodeChars text.toList from rfl,
      linesOf_encodeChars, Text.endedLines, List.map_map]
    refine List.map_congr_left fun line _ => ?_
    simp [Text.Utf8.encode_eq_flatMap, encodeChars]
  have texts : typed text = Text.endedLines text := by
    unfold typed
    rw [encoded, List.filterMap_map]
    simp
  refine ⟨texts ▸ encoded, ?_⟩
  rw [texts, Text.lines_eq_map_endedLines, List.map_map]
  exact List.map_congr_left fun line _ => Text.fields_dropEnd.symm

end Interactive

namespace Text.Chars

/-- A field is cut off at the first blank, if there is one. -/
theorem cut?_field {f s : List Char} (whole : ∀ c ∈ f, isBlank c = false)
    (ended : ∀ c ∈ s.head?, isBlank c = true) :
    cut? isBlank (f ++ s) = s.head?.map fun _ => (f, s.tail) := by
  cases s with
  | nil =>
      rw [List.append_nil]
      refine Option.eq_none_iff_forall_ne_some.2 fun parts cut => ?_
      obtain ⟨c, split, blank, -⟩ := cut?_eq_some_iff.1 cut
      have member : c ∈ f := by
        rw [split]
        exact List.mem_append_right _ List.mem_cons_self
      cases blank.symm.trans (whole c member)
  | cons c s => exact cut?_eq_some_iff.2 ⟨c, rfl, ended c rfl, whole⟩

/-- What stands before the first blank of a trimmed text, or all of it, is its first field. -/
theorem firstField_eq (s : List Char) :
    ((cut? isBlank (trim s)).map Prod.fst).getD (trim s) = (fields s).head?.getD [] := by
  obtain ⟨found, laid⟩ := exists_laid (trim s)
  rw [← fields_trim s, laid.fields_eq]
  have unblank := head?_trim s
  generalize trim s = t at laid unblank
  cases laid with
  | nothing => rfl
  | blank isBlank rest => cases isBlank.symm.trans (unblank _ rfl)
  | @field f s found some whole ended rest =>
      rw [cut?_field whole ended]
      cases s with
      | nil => exact List.append_nil f
      | cons c s => rfl

end Text.Chars

theorem Command.firstWord_eq (line : String) :
    firstWord line = (Text.fields line).head?.getD "" := by
  have chars := congrArg String.ofList (Text.Chars.firstField_eq line.toList)
  have first : (Text.fields line).head?.getD "" =
      String.ofList ((Text.Chars.fields line.toList).head?.getD []) := by
    unfold Text.fields
    cases Text.Chars.fields line.toList <;> rfl
  rw [first, ← chars]
  unfold firstWord Text.cut? Text.trim
  simp only [String.toList_ofList]
  cases Text.Chars.cut? Text.isBlank (Text.Chars.trim line.toList) <;> rfl

end WaylandProxy
