/-
# Proofs.Text.Lines -- lines with their ends

To cut a text into lines is to drop the line feeds, and the carriage returns before them.
`endedLines` cuts at the same places and drops nothing: its pieces make up the text again
(`join_endedLines`), and without their ends they are the lines (`lines_eq_map_endedLines`).  So
lines can be taken out of a text, and what is left has the lines that were not taken out, with the
ends that they had (`endedLines_join`).  Lines that are put together are the lines of the text they
make (`lines_ofLines`, `lines_intercalate`), and whoever trims a line before reading it finds the
same in it with its end and without (`filterMap_lines`).

Only the last piece of a text may lack its line feed, so the induction is on the text from its first
line to the last (`line_induction`).
-/
import Mathlib.Data.List.TakeDrop
import WaylandProxy.Proofs.Text.Fields

namespace WaylandProxy.Text

set_option autoImplicit false

namespace Chars

/-- The lines of a text, each with the line feed that ends it. -/
def endedLines (s : List Char) : List (List Char) :=
  s.foldr
    (fun c found =>
      if c = '\n' then [c] :: found
      else match found with
        | [] => [[c]]
        | line :: rest => (c :: line) :: rest)
    []

def dropEnd (line : List Char) : List Char :=
  if line.getLast? = some '\n' then dropReturn line.dropLast else line

/-- A text is unbroken, or a line stands before a text. -/
theorem line_induction {motive : List Char → Prop} (unbroken : ∀ s, '\n' ∉ s → motive s)
    (line : ∀ first rest, '\n' ∉ first → motive rest → motive (first ++ '\n' :: rest))
    (s : List Char) : motive s := by
  by_cases feed : '\n' ∈ s
  · obtain ⟨first, rest, rfl, whole⟩ := List.eq_append_cons_of_mem feed
    exact line first rest whole (line_induction unbroken line rest)
  · exact unbroken s feed
termination_by s.length
decreasing_by
  have split : s = first ++ '\n' :: rest := ‹_›
  rw [split, List.length_append, List.length_cons]
  omega

/-- A character that is no line feed belongs to the line that begins after it. -/
theorem endedLines_cons {c : Char} (notFeed : c ≠ '\n') {s line : List Char}
    {more : List (List Char)} (cut : endedLines s = line :: more) :
    endedLines (c :: s) = (c :: line) :: more := by
  unfold endedLines at cut ⊢
  simp only [List.foldr_cons, cut, if_neg notFeed]

theorem endedLines_append_line {line : List Char} (unbroken : '\n' ∉ line) (rest : List Char) :
    endedLines (line ++ '\n' :: rest) = (line ++ ['\n']) :: endedLines rest := by
  induction line with
  | nil => rfl
  | cons c line ih =>
      obtain ⟨notFeed, others⟩ := List.ne_and_not_mem_of_not_mem_cons unbroken
      exact endedLines_cons notFeed.symm (ih others)

/-- Text without a line feed is one line, if there is any. -/
theorem endedLines_unbroken {s : List Char} (unbroken : '\n' ∉ s) :
    endedLines s = if s.isEmpty then [] else [s] := by
  induction s with
  | nil => rfl
  | cons c s ih =>
      obtain ⟨notFeed, others⟩ := List.ne_and_not_mem_of_not_mem_cons unbroken
      cases s with
      | nil => exact if_neg notFeed.symm
      | cons next rest => exact endedLines_cons notFeed.symm (ih others)

theorem lines_unbroken {s : List Char} (unbroken : '\n' ∉ s) :
    lines s = if s.isEmpty then [] else [s] := by
  have sep : ∀ c ∈ s, (c == '\n') = false :=
    fun c member => beq_false_of_ne fun same => unbroken (same ▸ member)
  simp [lines, pieces_of_none sep]

theorem dropEnd_append_feed (line : List Char) : dropEnd (line ++ ['\n']) = dropReturn line := by
  simp [dropEnd]

theorem dropEnd_unbroken {s : List Char} (unbroken : '\n' ∉ s) : dropEnd s = s :=
  if_neg fun feed => unbroken (List.mem_of_getLast? feed)

/-- The pieces make up the text. -/
theorem flatten_endedLines (s : List Char) : (endedLines s).flatten = s := by
  induction s using line_induction with
  | unbroken s unbroken =>
      rw [endedLines_unbroken unbroken]
      cases s <;> simp
  | line first rest unbroken ih =>
      rw [endedLines_append_line unbroken, List.flatten_cons, ih, List.append_assoc]
      rfl

/-- Without their ends they are the lines. -/
theorem lines_eq_map_dropEnd (s : List Char) : lines s = (endedLines s).map dropEnd := by
  induction s using line_induction with
  | unbroken s unbroken =>
      rw [endedLines_unbroken unbroken, lines_unbroken unbroken]
      cases s with
      | nil => rfl
      | cons c s => exact congrArg (fun line => [line]) (dropEnd_unbroken unbroken).symm
  | line first rest unbroken ih =>
      rw [endedLines_append_line unbroken, lines_append_line unbroken, ih, List.map_cons,
        dropEnd_append_feed]

/-- Pieces of which some are taken out are the pieces of what they make up. -/
theorem endedLines_flatten_of_sublist {s : List Char} {kept : List (List Char)}
    (sub : kept.Sublist (endedLines s)) : endedLines kept.flatten = kept := by
  induction s using line_induction generalizing kept with
  | unbroken s unbroken =>
      rw [endedLines_unbroken unbroken] at sub
      cases s with
      | nil =>
          cases sub
          rfl
      | cons c s =>
          have alone : endedLines (c :: s) = [c :: s] := endedLines_unbroken unbroken
          obtain rfl | rfl := List.sublist_singleton.1 sub
          · rfl
          · simpa using alone
  | line first rest unbroken ih =>
      rw [endedLines_append_line unbroken] at sub
      cases sub with
      | cons _ sub => exact ih sub
      | cons_cons _ sub =>
          rw [List.flatten_cons, List.append_assoc, List.singleton_append,
            endedLines_append_line unbroken, ih sub]

theorem endedLines_flatMap {all : List (List Char)} (unbroken : ∀ line ∈ all, '\n' ∉ line) :
    endedLines (all.flatMap fun line => line ++ ['\n']) = all.map fun line => line ++ ['\n'] := by
  induction all with
  | nil => rfl
  | cons line rest ih =>
      obtain ⟨whole, others⟩ := List.forall_mem_cons.1 unbroken
      rw [List.flatMap_cons, List.append_assoc, List.singleton_append,
        endedLines_append_line whole, ih others, List.map_cons]

/-! ## Trimming -/

theorem trim_append_blank {c : Char} (blank : isBlank c = true) (s : List Char) :
    trim (s ++ [c]) = trim s := by
  have ended (s : List Char) : trim s = (s.dropWhile isBlank).rdropWhile isBlank := rfl
  rw [ended, ended, List.dropWhile_append]
  cases left : s.dropWhile isBlank with
  | nil => simp [blank]
  | cons d rest => exact List.rdropWhile_concat_pos isBlank (d :: rest) c blank

theorem trim_dropEnd (line : List Char) : trim (dropEnd line) = trim line := by
  have dropped {c : Char} (blank : isBlank c = true) (s : List Char)
      (last : s.getLast? = some c) : trim s.dropLast = trim s := by
    obtain ⟨body, rfl⟩ := List.getLast?_eq_some_iff.1 last
    rw [List.dropLast_concat, trim_append_blank blank]
  unfold dropEnd
  split
  · rename_i feed
    rw [← dropped (by decide) line feed]
    unfold dropReturn
    split
    · rename_i returns
      exact dropped (by decide) _ returns
    · rfl
  · rfl

/-- What a trimmed line says does not depend on the text around the line: a line feed between two
texts ends the last line of the first, which may be an empty one. -/
theorem filterMap_endedLines_append {α : Type} {f : List Char → Option α}
    (trimmed : ∀ {s t}, trim s = trim t → f s = f t) (blank : f [] = none) (a b : List Char) :
    (endedLines (a ++ '\n' :: b)).filterMap f =
      (endedLines a).filterMap f ++ (endedLines b).filterMap f := by
  induction a using line_induction with
  | unbroken a unbroken =>
      have unended : f (a ++ ['\n']) = f a := trimmed (trim_append_blank (by decide) a)
      rw [endedLines_append_line unbroken, endedLines_unbroken unbroken, List.filterMap_cons,
        unended]
      cases a with
      | nil => simp [blank]
      | cons c a => cases said : f (c :: a) <;> simp [said]
  | line first rest unbroken ih =>
      rw [List.append_assoc, List.cons_append, endedLines_append_line unbroken,
        endedLines_append_line unbroken, List.filterMap_cons, List.filterMap_cons, ih]
      cases f (first ++ ['\n']) <;> rfl

/-- A text with no blank at either end is left as it is. -/
theorem trim_eq_self {s : List Char} (first : ∀ c ∈ s.head?, isBlank c = false)
    (last : ∀ c ∈ s.getLast?, isBlank c = false) : trim s = s := by
  have starts : s.dropWhile isBlank = s := by
    cases s with
    | nil => rfl
    | cons c s => exact List.dropWhile_cons_of_neg (by simp [first c rfl])
  have ends : s.rdropWhile isBlank = s :=
    List.rdropWhile_eq_self_iff.2 fun some => by
      simp [last _ (List.getLast?_eq_getLast_of_ne_nil some)]
  have both : trim s = (s.dropWhile isBlank).rdropWhile isBlank := rfl
  rw [both, starts, ends]

/-! ## Cutting -/

/-- **Where a text is cut**: at a separator that none comes before. -/
theorem cut?_eq_some_iff {sep : Char → Bool} {s before after : List Char} :
    cut? sep s = some (before, after) ↔
      ∃ c, s = before ++ c :: after ∧ sep c = true ∧ ∀ d ∈ before, sep d = false := by
  unfold cut?
  rw [List.span_eq_takeWhile_dropWhile]
  have split : s.takeWhile (fun c => !sep c) ++ s.dropWhile (fun c => !sep c) = s :=
    List.takeWhile_append_dropWhile
  constructor
  · intro cut
    cases left : s.dropWhile (fun c => !sep c) with
    | nil =>
        rw [left] at cut
        cases cut
    | cons c rest =>
        rw [left] at cut split
        cases cut
        have stopped := List.head?_dropWhile_not (fun c => !sep c) s
        rw [left] at stopped
        exact ⟨c, split.symm, by simpa using stopped,
          fun d member => by simpa using List.mem_takeWhile_imp member⟩
  · rintro ⟨c, rfl, isSep, whole⟩
    have passes : ∀ d ∈ before, (!sep d) = true := fun d member => by rw [whole d member]; rfl
    rw [List.takeWhile_append_of_pos passes, List.dropWhile_append_of_pos passes]
    simp [isSep]

/-- Pieces with separators between them are the pieces. -/
theorem pieces_intercalate {sep : Char → Bool} {c : Char} (isSep : sep c = true)
    {all : List (List Char)} (some : all ≠ [])
    (whole : ∀ piece ∈ all, ∀ d ∈ piece, sep d = false) :
    pieces sep ([c].intercalate all) = all := by
  induction all with
  | nil => exact absurd rfl some
  | cons piece rest ih =>
      obtain ⟨first, others⟩ := List.forall_mem_cons.1 whole
      cases rest with
      | nil => rw [List.intercalate_singleton, pieces_of_none first]
      | cons next rest =>
          rw [List.intercalate_cons_cons, List.append_assoc, List.singleton_append,
            pieces_append_sep sep _ _ c isSep, pieces_of_none first,
            ih (List.cons_ne_nil next rest) others, List.singleton_append]

/-- Lines with line feeds between them are the lines of what they make up, if none of them is empty,
has a line feed itself or ends in a carriage return. -/
theorem lines_intercalate {all : List (List Char)}
    (sound : ∀ line ∈ all, line ≠ [] ∧ '\n' ∉ line ∧ line.getLast? ≠ some '\r') :
    lines (['\n'].intercalate all) = all := by
  obtain rfl | some := eq_or_ne all []
  · rfl
  obtain ⟨before, last, rfl⟩ := List.eq_nil_or_concat' all |>.resolve_left some
  have cut : pieces (· == '\n') (['\n'].intercalate (before ++ [last])) = before ++ [last] := by
    refine pieces_intercalate rfl some fun line member c among => ?_
    exact beq_false_of_ne fun same => (sound line member).2.1 (same ▸ among)
  have kept : before.map dropReturn = before := by
    conv => rhs; rw [← List.map_id before]
    exact List.map_congr_left fun line member => if_neg (sound line (by simp [member])).2.2
  have nonempty := (sound last (by simp)).1
  simp [lines, cut, kept, nonempty]

end Chars

/-- The lines of a text, each with the line feed that ends it. -/
def endedLines (text : String) : List String :=
  (Chars.endedLines text.toList).map String.ofList

def dropEnd (line : String) : String :=
  String.ofList (Chars.dropEnd line.toList)

/-- What is left of a text if only such lines are kept. -/
def keepLines (keep : String → Bool) (text : String) : String :=
  String.join ((endedLines text).filter keep)

/-- The text that has these lines, with a line feed after each. -/
def ofLines (lines : List String) : String :=
  String.join (lines.map fun line => line ++ "\n")

variable {text line : String}

/-- **A text is its lines**, one after the other and with their ends. -/
theorem join_endedLines : String.join (endedLines text) = text := by
  rw [← String.toList_inj, String.toList_join, endedLines, List.flatMap_map]
  simpa [List.flatMap] using Chars.flatten_endedLines text.toList

/-- **The lines of a text** are these without their ends. -/
theorem lines_eq_map_endedLines : lines text = (endedLines text).map dropEnd := by
  unfold lines endedLines dropEnd
  rw [Chars.lines_eq_map_dropEnd, List.map_map, List.map_map]
  refine List.map_congr_left fun line _ => ?_
  simp

/-- **Lines that are left** of a text are the lines of what they make up. -/
theorem endedLines_join {kept : List String} (sub : kept.Sublist (endedLines text)) :
    endedLines (String.join kept) = kept := by
  obtain ⟨pieces, among, rfl⟩ := List.sublist_map_iff.1 sub
  have characters : (String.join (pieces.map String.ofList)).toList = pieces.flatten := by
    rw [String.toList_join, List.flatMap_map]
    simp [List.flatMap]
  rw [endedLines, characters, Chars.endedLines_flatten_of_sublist among]

theorem endedLines_keepLines (keep : String → Bool) :
    endedLines (keepLines keep text) = (endedLines text).filter keep :=
  endedLines_join List.filter_sublist

theorem toList_ofLines (lines : List String) :
    (ofLines lines).toList = (lines.map String.toList).flatMap fun line => line ++ ['\n'] := by
  rw [ofLines, String.toList_join, List.flatMap_map, List.flatMap_map]
  simp

/-- Lines put together are the lines, each with its line feed. -/
theorem endedLines_ofLines {lines : List String} (unbroken : ∀ line ∈ lines, '\n' ∉ line.toList) :
    endedLines (ofLines lines) = lines.map fun line => line ++ "\n" := by
  have whole : ∀ line ∈ lines.map String.toList, '\n' ∉ line := by simpa using unbroken
  rw [endedLines, toList_ofLines, Chars.endedLines_flatMap whole, List.map_map, List.map_map]
  refine List.map_congr_left fun line _ => ?_
  rw [← String.toList_inj]
  simp

/-- Lines put together, each with its line feed, have these lines. -/
theorem lines_ofLines {all : List String}
    (sound : ∀ line ∈ all, '\n' ∉ line.toList ∧ line.toList.getLast? ≠ some '\r') :
    lines (ofLines all) = all := by
  rw [lines, toList_ofLines, Chars.lines_flatMap (by simpa using sound), List.map_map]
  simp [Function.comp_def]

/-- Lines put together with line feeds between them have these lines. -/
theorem lines_intercalate {all : List String}
    (sound : ∀ line ∈ all,
      line ≠ "" ∧ '\n' ∉ line.toList ∧ line.toList.getLast? ≠ some '\r') :
    lines ("\n".intercalate all) = all := by
  have characters : ("\n".intercalate all).toList = ['\n'].intercalate (all.map String.toList) := by
    simp
  rw [lines, characters, Chars.lines_intercalate (by simpa using sound), List.map_map]
  simp [Function.comp_def]

theorem trim_dropEnd : trim (dropEnd line) = trim line := by
  unfold trim dropEnd
  rw [String.toList_ofList, Chars.trim_dropEnd]

theorem fields_dropEnd : fields (dropEnd line) = fields line := by
  unfold fields dropEnd
  rw [String.toList_ofList, ← Chars.fields_trim, Chars.trim_dropEnd, Chars.fields_trim]

theorem trim_append_feed : trim (line ++ "\n") = trim line := by
  unfold trim
  rw [String.toList_append]
  exact congrArg String.ofList (Chars.trim_append_blank (by decide) line.toList)

section Said

/-! What lines say once they are trimmed. -/

variable {α : Type} {f : String → Option α} (trimmed : ∀ {s t}, trim s = trim t → f s = f t)
include trimmed

theorem filterMap_lines (text : String) :
    (lines text).filterMap f = (endedLines text).filterMap f := by
  rw [lines_eq_map_endedLines, List.filterMap_map]
  exact List.filterMap_congr fun line _ => trimmed trim_dropEnd

/-- **Texts with a line feed between them** say what they say one by one. -/
theorem filterMap_lines_append (blank : f "" = none) (a b : String) :
    (lines (a ++ "\n" ++ b)).filterMap f = (lines a).filterMap f ++ (lines b).filterMap f := by
  have characters : (a ++ "\n" ++ b).toList = a.toList ++ '\n' :: b.toList := by simp
  have within : ∀ {s t : List Char}, Chars.trim s = Chars.trim t →
      (f ∘ String.ofList) s = (f ∘ String.ofList) t :=
    fun same => trimmed (by simp [trim, same])
  rw [filterMap_lines trimmed, filterMap_lines trimmed, filterMap_lines trimmed]
  unfold endedLines
  rw [List.filterMap_map, List.filterMap_map, List.filterMap_map, characters]
  exact Chars.filterMap_endedLines_append within blank a.toList b.toList

/-- **Lines that are left** of a text say what they say one by one. -/
theorem filterMap_lines_join {text : String} {kept : List String}
    (sub : kept.Sublist (endedLines text)) :
    (lines (String.join kept)).filterMap f = kept.filterMap f := by
  rw [filterMap_lines trimmed, endedLines_join sub]

end Said

/-- **Where a text is cut**: at a separator that none comes before. -/
theorem cut?_eq_some_iff {sep : Char → Bool} {s before after : String} :
    cut? sep s = some (before, after) ↔
      ∃ c, s.toList = before.toList ++ c :: after.toList ∧ sep c = true ∧
        ∀ d ∈ before.toList, sep d = false := by
  rw [← Chars.cut?_eq_some_iff]
  unfold cut?
  constructor
  · intro cut
    obtain ⟨⟨first, second⟩, found, same⟩ := Option.map_eq_some_iff.1 cut
    cases same
    simpa using found
  · intro found
    rw [found]
    simp

end WaylandProxy.Text
