/-
# Text.Blank -- blanks, fields and lines

Every reader of this library cuts its text the same way: at blanks, at line
feeds, or once at the first separator.  A blank is a character with the Unicode
property White_Space, so the no-break space and the ideographic space separate
fields while the zero-width space and the byte order mark do not.

The cuts are stated over lists of characters and lifted to `String`:

* `trim` drops the blanks at both ends;
* `fields` are the maximal runs without a blank;
* `cut?` splits once, at the first separator, and drops it;
* `lines` are the pieces between line feeds.  A carriage return right before a
  line feed belongs to the line's end, and text that ends in a line feed has no
  empty last line (`lines_append_newline` is the law the loaders rest on).
-/

namespace WaylandProxy.Text

set_option autoImplicit false

/-- A character with the Unicode property White_Space. -/
def isBlank (c : Char) : Bool :=
  let n := c.toNat
  (9 ≤ n && n ≤ 13) || n == 0x20 || n == 0x85 || n == 0xA0 || n == 0x1680 ||
    (0x2000 ≤ n && n ≤ 0x200A) || n == 0x2028 || n == 0x2029 || n == 0x202F ||
    n == 0x205F || n == 0x3000

namespace Chars

def trim (s : List Char) : List Char :=
  ((s.dropWhile isBlank).reverse.dropWhile isBlank).reverse

/-- The pieces between the characters that satisfy `sep`: one more piece than
there are separators. -/
def pieces (sep : Char → Bool) (s : List Char) : List (List Char) :=
  s.foldr
    (fun c found =>
      if sep c then [] :: found
      else match found with
        | [] => [[c]]
        | piece :: rest => (c :: piece) :: rest)
    [[]]

/-- The maximal runs of characters that are not blank. -/
def fields (s : List Char) : List (List Char) :=
  (pieces isBlank s).filter fun piece => !piece.isEmpty

/-- What stands before and after the first character that satisfies `sep`. -/
def cut? (sep : Char → Bool) (s : List Char) : Option (List Char × List Char) :=
  match s.span fun c => !sep c with
  | (_, []) => none
  | (before, _ :: after) => some (before, after)

/-- A terminated line without the carriage return before its line feed. -/
def dropReturn (line : List Char) : List Char :=
  if line.getLast? = some '\r' then line.dropLast else line

/-- The lines of a text, without their ends. -/
def lines (s : List Char) : List (List Char) :=
  let all := pieces (· == '\n') s
  let last := all.getLast?.getD []
  all.dropLast.map dropReturn ++ (if last.isEmpty then [] else [last])

theorem pieces_ne_nil (sep : Char → Bool) (s : List Char) : pieces sep s ≠ [] := by
  induction s with
  | nil => simp [pieces]
  | cons c s ih =>
    simp only [pieces, List.foldr_cons]
    split
    · simp
    · split <;> simp

theorem pieces_append_sep (sep : Char → Bool) (a b : List Char) (c : Char) (h : sep c = true) :
    pieces sep (a ++ c :: b) = pieces sep a ++ pieces sep b := by
  induction a with
  | nil => simp [pieces, h]
  | cons x a ih =>
    have step : ∀ t, pieces sep (x :: t) =
        if sep x then [] :: pieces sep t
        else match pieces sep t with
          | [] => [[x]]
          | piece :: rest => (x :: piece) :: rest := fun t => rfl
    rw [List.cons_append, step, step, ih]
    split
    · rfl
    · have : pieces sep a ≠ [] := pieces_ne_nil sep a
      split <;> split <;> simp_all

/-- The lines after a line feed do not depend on the text before it. -/
theorem lines_append_newline (a b : List Char) :
    lines (a ++ '\n' :: b) = lines (a ++ ['\n']) ++ lines b := by
  have cut : ∀ t, pieces (· == '\n') (a ++ '\n' :: t) =
      pieces (· == '\n') a ++ pieces (· == '\n') t :=
    fun t => pieces_append_sep _ a t '\n' rfl
  obtain ⟨before, last, split⟩ : ∃ before last, pieces (· == '\n') b = before ++ [last] :=
    ⟨_, _, (List.dropLast_concat_getLast (pieces_ne_nil _ b)).symm⟩
  have nothing : pieces (· == '\n') [] = [[]] := rfl
  simp only [lines, cut, split, nothing, ← List.append_assoc, List.dropLast_concat,
    List.getLast?_concat, List.map_append, Option.getD_some]
  simp

end Chars

def trim (s : String) : String :=
  String.ofList (Chars.trim s.toList)

def fields (s : String) : List String :=
  (Chars.fields s.toList).map String.ofList

/-- The text before and after the first character that satisfies `sep`. -/
def cut? (sep : Char → Bool) (s : String) : Option (String × String) :=
  (Chars.cut? sep s.toList).map fun (before, after) => (String.ofList before, String.ofList after)

/-- The pieces between the characters that satisfy `sep`. -/
def pieces (sep : Char → Bool) (s : String) : List String :=
  (Chars.pieces sep s.toList).map String.ofList

def lines (s : String) : List String :=
  (Chars.lines s.toList).map String.ofList

end WaylandProxy.Text
