/-
# Proofs.Text.Fields -- what the fields and the lines of a text are

A text is laid out in fields: runs without a blank, with blanks between two of them and perhaps
before the first and after the last (`Laid`).  Every text is laid out in one way, and `fields`
finds it (`fields_eq_iff`); trimming takes blanks only, so it changes nothing about it and lets
the text begin with its first field (`trim_laid`).

A text that was put together from lines, each with a line feed after it, has these lines
(`lines_flatMap`), unless one of them has a line feed itself or ends in a carriage return.
-/
import Mathlib.Data.List.DropRight
import WaylandProxy.Text.Blank

namespace WaylandProxy.Text.Chars

set_option autoImplicit false

/-! ## Fields -/

/-- The text has these fields, and blanks around them: before the first and after the last there
may be blanks, and between two there are some. -/
inductive Laid : List Char → List (List Char) → Prop where
  | nothing : Laid [] []
  | blank {c : Char} {s : List Char} {found : List (List Char)} (isBlank : isBlank c = true)
      (rest : Laid s found) : Laid (c :: s) found
  | field {f s : List Char} {found : List (List Char)} (some : f ≠ [])
      (whole : ∀ c ∈ f, isBlank c = false) (ended : ∀ c ∈ s.head?, isBlank c = true)
      (rest : Laid s found) : Laid (f ++ s) (f :: found)

/-- The characters of ASCII that can be seen are no blanks. -/
theorem isBlank_of_visible {c : Char} (low : 33 ≤ c.toNat) (high : c.toNat ≤ 126) :
    isBlank c = false := by
  simp only [isBlank, Bool.or_eq_false_iff, Bool.and_eq_false_iff, decide_eq_false_iff_not,
    beq_eq_false_iff_ne]
  omega

theorem pieces_of_none {sep : Char → Bool} {s : List Char} (none : ∀ c ∈ s, sep c = false) :
    pieces sep s = [s] := by
  induction s with
  | nil => rfl
  | cons c s ih =>
      obtain ⟨first, others⟩ := List.forall_mem_cons.1 none
      have rest : pieces sep s = [s] := ih others
      unfold pieces at rest ⊢
      rw [List.foldr_cons, first, rest]
      rfl

/-- A blank separates the fields before it from those after it. -/
theorem fields_append_blank (a b : List Char) {c : Char} (blank : isBlank c = true) :
    fields (a ++ c :: b) = fields a ++ fields b := by
  unfold fields
  rw [pieces_append_sep isBlank a b c blank, List.filter_append]

theorem fields_cons_blank {c : Char} (blank : isBlank c = true) (s : List Char) :
    fields (c :: s) = fields s :=
  fields_append_blank [] s blank

theorem fields_of_blank {s : List Char} (blank : ∀ c ∈ s, isBlank c = true) : fields s = [] := by
  induction s with
  | nil => rfl
  | cons c s ih =>
      obtain ⟨first, others⟩ := List.forall_mem_cons.1 blank
      rw [fields_cons_blank first, ih others]

theorem fields_of_field {f : List Char} (some : f ≠ []) (whole : ∀ c ∈ f, isBlank c = false) :
    fields f = [f] := by
  unfold fields
  rw [pieces_of_none whole]
  simp [some]

theorem Laid.fields_eq {s : List Char} {found : List (List Char)} (laid : Laid s found) :
    fields s = found := by
  induction laid with
  | nothing => rfl
  | blank isBlank rest ih => rw [fields_cons_blank isBlank, ih]
  | @field f s found some whole ended rest ih =>
      cases s with
      | nil =>
          rw [List.append_nil, fields_of_field some whole, ← ih]
          rfl
      | cons c s =>
          have blank : isBlank c = true := ended c rfl
          rw [fields_append_blank f s blank, fields_of_field some whole, ← ih,
            fields_cons_blank blank, List.singleton_append]

theorem exists_laid (s : List Char) : ∃ found, Laid s found := by
  induction s with
  | nil => exact ⟨[], .nothing⟩
  | cons c s ih =>
      obtain ⟨found, laid⟩ := ih
      cases blank : isBlank c with
      | true => exact ⟨found, .blank blank laid⟩
      | false =>
          -- the character joins the field that comes right after it, if there is one
          cases laid with
          | nothing =>
              exact ⟨[[c]], .field (List.cons_ne_nil c []) (by simp [blank]) (by simp) .nothing⟩
          | @blank d s found isBlank rest =>
              exact ⟨[c] :: found, .field (List.cons_ne_nil c []) (by simp [blank])
                (by simp [isBlank]) (.blank isBlank rest)⟩
          | @field f s found some whole ended rest =>
              exact ⟨(c :: f) :: found,
                .field (List.cons_ne_nil c f) (List.forall_mem_cons.2 ⟨blank, whole⟩) ended rest⟩

/-- **The fields of a text** are those that it is laid out in. -/
theorem fields_eq_iff {s : List Char} {found : List (List Char)} :
    fields s = found ↔ Laid s found := by
  refine ⟨fun same => ?_, Laid.fields_eq⟩
  obtain ⟨others, laid⟩ := exists_laid s
  rwa [← same, laid.fields_eq]

/-! ## Trimming -/

theorem exists_trim (s : List Char) :
    ∃ before after, s = before ++ trim s ++ after ∧ (∀ c ∈ before, isBlank c = true) ∧
      ∀ c ∈ after, isBlank c = true := by
  refine ⟨s.takeWhile isBlank, (s.dropWhile isBlank).rtakeWhile isBlank, ?_, ?_, ?_⟩
  · have ends : trim s ++ (s.dropWhile isBlank).rtakeWhile isBlank = s.dropWhile isBlank :=
      List.rdropWhile_append_rtakeWhile
    rw [List.append_assoc, ends, List.takeWhile_append_dropWhile]
  · exact fun c member => List.mem_takeWhile_imp member
  · exact fun c member => List.mem_rtakeWhile_imp member

theorem fields_trim (s : List Char) : fields (trim s) = fields s := by
  obtain ⟨before, after, split, blankBefore, blankAfter⟩ := exists_trim s
  have leading : ∀ {blanks : List Char} (rest : List Char), (∀ c ∈ blanks, isBlank c = true) →
      fields (blanks ++ rest) = fields rest := by
    intro blanks rest blank
    induction blanks with
    | nil => rfl
    | cons c blanks ih =>
        obtain ⟨first, others⟩ := List.forall_mem_cons.1 blank
        rw [List.cons_append, fields_cons_blank first, ih others]
  conv => rhs; rw [split, List.append_assoc, leading _ blankBefore]
  cases after with
  | nil => rw [List.append_nil]
  | cons c after =>
      obtain ⟨first, others⟩ := List.forall_mem_cons.1 blankAfter
      rw [fields_append_blank _ _ first, fields_of_blank others, List.append_nil]

/-- A trimmed text does not begin with a blank. -/
theorem head?_trim (s : List Char) : ∀ c ∈ (trim s).head?, isBlank c = false := by
  intro c first
  have starts : trim s <+: s.dropWhile isBlank := List.rdropWhile_prefix isBlank _
  obtain ⟨rest, same⟩ := starts
  have same' : (s.dropWhile isBlank).head? = some c := by
    rw [← same, List.head?_append, first]
    rfl
  have stopped := List.head?_dropWhile_not isBlank s
  rw [same'] at stopped
  simpa using stopped

/-- A trimmed text begins with its first field. -/
theorem trim_laid {s f : List Char} {found : List (List Char)} (laid : Laid s (f :: found)) :
    ∃ rest, trim s = f ++ rest := by
  have trimmed : Laid (trim s) (f :: found) :=
    fields_eq_iff.1 ((fields_trim s).trans laid.fields_eq)
  have unblank := head?_trim s
  generalize trim s = t at trimmed unblank
  cases trimmed with
  | blank isBlank rest => cases isBlank.symm.trans (unblank _ rfl)
  | field some whole ended rest => exact ⟨_, rfl⟩

/-! ## Lines -/

theorem lines_append_line {line : List Char} (unbroken : '\n' ∉ line) (s : List Char) :
    lines (line ++ '\n' :: s) = dropReturn line :: lines s := by
  have one : lines (line ++ ['\n']) = [dropReturn line] := by
    have sep : ∀ c ∈ line, (c == '\n') = false :=
      fun c member => beq_false_of_ne fun same => unbroken (same ▸ member)
    have cut : pieces (· == '\n') (line ++ ['\n']) = [line, []] := by
      rw [pieces_append_sep _ line [] '\n' rfl, pieces_of_none sep]
      rfl
    simp [lines, cut]
  rw [lines_append_newline, one, List.singleton_append]

/-- **Lines put together** are the lines of what they are put together to. -/
theorem lines_flatMap {all : List (List Char)}
    (sound : ∀ line ∈ all, '\n' ∉ line ∧ line.getLast? ≠ some '\r') :
    lines (all.flatMap fun line => line ++ ['\n']) = all := by
  induction all with
  | nil => rfl
  | cons line rest ih =>
      obtain ⟨⟨unbroken, noReturn⟩, others⟩ := List.forall_mem_cons.1 sound
      have kept : dropReturn line = line := if_neg noReturn
      rw [List.flatMap_cons, List.append_assoc, List.singleton_append,
        lines_append_line unbroken, kept, ih others]

end WaylandProxy.Text.Chars
