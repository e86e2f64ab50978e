/-
# Proofs.Pass.Turn -- what the operator's lines come to

A turn of the operator is ended by a word: `continue`, `next`, `drop` or `quit`, or the letter of
one (`Ending`).  It reads lines up to the first that says such a word, and all that are left if
none does (`Heard`).  Every other line, whether blank, unknown or a question, is answered and
has no effect (`answer_of_quiet`), so a turn is told by the last line it read (`query_obeys`).

How often the operator was invited to say something is read off what is shown (`Invited`).  An
invitation cannot be mistaken for an answer, for an answer ends with a line feed.
-/
import WaylandProxy.Proofs.Text.Typed

namespace WaylandProxy

set_option autoImplicit false

/-! ## What a line says -/

inductive Ending where
  | resume
  | next
  | drop
  | quit
  deriving DecidableEq

namespace Ending

def words : Ending → List String
  | .resume => ["continue", "c"]
  | .next => ["next", "n"]
  | .drop => ["drop", "d"]
  | .quit => ["quit", "q"]

def ofWord? (word : String) : Option Ending :=
  [resume, next, drop, quit].find? fun ending => word ∈ ending.words

/-- The ending that a line asks for, with its first word. -/
def ofLine? (line : String) : Option Ending :=
  (Text.fields line).head?.bind ofWord?

end Ending

/-- The ending that a command is, if it lets the pipeline go on. -/
def Command.ending? : Command → Option Ending
  | .resume => some .resume
  | .next => some .next
  | .drop => some .drop
  | .quit => some .quit
  | .info | .hex | .help => none

/-- The words of the endings are those of the commands that let the pipeline go on. -/
theorem Command.ending?_ofWord (word : String) :
    Ending.ofWord? word = (ofWord? word).bind ending? := by
  by_cases known : ∃ c ∈ all, word = c.name ∨ word = c.letter
  · obtain ⟨c, -, rfl | rfl⟩ := known
    · cases c <;> decide
    · cases c <;> decide
  · have unknown : ofWord? word = none := by
      refine List.find?_eq_none.2 fun c isCommand meant => known ⟨c, isCommand, ?_⟩
      exact (of_decide_eq_true meant).imp Eq.symm Eq.symm
    rw [unknown]
    refine List.find?_eq_none.2 fun ending _ meant => known ?_
    have either := of_decide_eq_true meant
    cases ending with
    | resume => exact ⟨.resume, by decide, List.mem_pair.1 either⟩
    | next => exact ⟨.next, by decide, List.mem_pair.1 either⟩
    | drop => exact ⟨.drop, by decide, List.mem_pair.1 either⟩
    | quit => exact ⟨.quit, by decide, List.mem_pair.1 either⟩

/-- The lines of one turn, and those left for later ones: the first line that asks for an ending is
the last one read, and if none does all are read. -/
inductive Heard : List String → List String → Prop where
  | ended (quiet : List String) (last : String) (left : List String) {ending : Ending}
      (waits : ∀ line ∈ quiet, Ending.ofLine? line = none)
      (ends : Ending.ofLine? last = some ending) : Heard (quiet ++ [last]) left
  | exhausted (quiet : List String) (waits : ∀ line ∈ quiet, Ending.ofLine? line = none) :
      Heard quiet []

def Ending.ofLines? (read : List String) : Option Ending :=
  read.getLast?.bind ofLine?

/-- A turn with one more line before it that asks for no ending. -/
theorem Heard.cons {line : String} {read left : List String}
    (waits : Ending.ofLine? line = none) (heard : Heard read left) :
    Heard (line :: read) left ∧ Ending.ofLines? (line :: read) = Ending.ofLines? read := by
  cases heard with
  | ended quiet last left others ends =>
      refine ⟨.ended (line :: quiet) last left (List.forall_mem_cons.2 ⟨waits, others⟩) ends, ?_⟩
      simp [Ending.ofLines?, List.getLast?_cons]
  | exhausted quiet others =>
      refine ⟨.exhausted (line :: read) (List.forall_mem_cons.2 ⟨waits, others⟩), ?_⟩
      cases read with
      | nil => simpa [Ending.ofLines?] using waits
      | cons next rest => simp [Ending.ofLines?, List.getLast?_cons]

namespace Interactive

/-! ## What is shown -/

def prompts (notes : List Note) : Nat :=
  notes.count (.shown prompt)

theorem line_ne_prompt (text : String) : text ++ "\n" ≠ prompt := by
  intro same
  have chars := congrArg (fun s : String => s.toList.getLast?) same
  simp [prompt] at chars

/-- The world after the operator was invited a number of times. -/
structure Invited (before after : World) (times : Nat) : Prop where
  notes : ∃ new, after.notes = before.notes ++ new ∧ prompts new = times
  calm : before.breakRaised = false → after.breakRaised = false

namespace Invited

theorem refl (w : World) : Invited w w 0 :=
  ⟨⟨[], (List.append_nil _).symm, rfl⟩, id⟩

theorem trans {w middle after : World} {once more : Nat} (first : Invited w middle once)
    (second : Invited middle after more) : Invited w after (once + more) := by
  obtain ⟨⟨new, notes, count⟩, calm⟩ := first
  obtain ⟨⟨new', notes', count'⟩, calm'⟩ := second
  refine ⟨⟨new ++ new', by rw [notes', notes, List.append_assoc], ?_⟩, calm' ∘ calm⟩
  unfold prompts at count count' ⊢
  rw [List.count_append, count, count']

theorem note {n : Note} (other : n ≠ .shown prompt) (w : World) : Invited w (w.note n) 0 := by
  refine ⟨⟨[n], List.reverse_cons, ?_⟩, id⟩
  unfold prompts
  rw [List.count_singleton, if_neg (by simpa using other)]

/-- What is told is no invitation if it is a line. -/
theorem tellLine (text : String) (w : World) : Invited w (w.tell (text ++ "\n")) 0 :=
  .note (fun same => line_ne_prompt text (Note.shown.inj same)) w

theorem lowered (w : World) : Invited w { w with breakRaised := false } 0 :=
  ⟨⟨[], (List.append_nil _).symm, rfl⟩, fun _ => rfl⟩

theorem ask (t : Transit) : Invited t.world (Interactive.ask t).world 1 := by
  have invites (w : World) : Invited w (w.tell prompt) 1 := by
    refine ⟨⟨[.shown prompt], List.reverse_cons, ?_⟩, id⟩
    exact List.count_singleton_self
  unfold Interactive.ask World.takeBreak
  simp only
  split
  · exact ((lowered t.world).trans (tellLine "" _)).trans (invites _)
  · exact (lowered t.world).trans (invites _)

end Invited

/-! ## One line -/

/-- What the line that ends a turn, or the end of the input, leaves of a message in transit. -/
def Ended (ending : Option Ending) (before after : Transit) : Prop :=
  after.skipped = (before.skipped || decide (ending = some .drop)) ∧
    after.exit = (before.exit || decide (ending = some .quit ∨ ending = none))

theorem answer_of_ending {line : String} {ending : Ending}
    (ends : Ending.ofLine? line = some ending) (tally : Tally) (t : Transit) :
    ∃ after, answer (Text.Utf8.encode line) tally t = (some (decide (ending = .next)), after) ∧
      after.world = t.world ∧ Ended (some ending) t after := by
  obtain ⟨word, first, asks⟩ := Option.bind_eq_some_iff.1 ends
  rw [Command.ending?_ofWord] at asks
  obtain ⟨c, known, asks⟩ := Option.bind_eq_some_iff.1 asks
  have notEmpty : word.isEmpty = false := by
    rw [Bool.eq_false_iff]
    intro empty
    rw [String.isEmpty_iff.1 empty] at known
    cases known
  have ran : Command.runLine line tally t = c.run tally t := by
    unfold Command.runLine
    rw [Command.firstWord_eq, first]
    simp [notEmpty, known]
  unfold answer Ended
  simp only [Text.Utf8.decode?_encode, ran]
  cases c with
  | info | hex | help => cases asks
  | resume | next | drop | quit =>
      cases asks
      simp [Command.run]

/-- A line that asks for no ending is blank or unknown, or is answered by lines. -/
theorem runLine_of_quiet {line : String} (waits : Ending.ofLine? line = none) (tally : Tally)
    (t : Transit) :
    Command.runLine line tally t = (.more, t) ∨ Command.runLine line tally t = (.unknown, t) ∨
      ∃ text, Command.runLine line tally t =
        (.more, { t with world := t.world.tell (text ++ "\n") }) := by
  unfold Command.runLine
  rw [Command.firstWord_eq]
  cases first : (Text.fields line).head? with
  | none => exact .inl rfl
  | some word =>
      have quiet : (Command.ofWord? word).bind Command.ending? = none := by
        rw [← Command.ending?_ofWord]
        unfold Ending.ofLine? at waits
        rwa [first] at waits
      simp only [Option.getD_some]
      split
      · exact .inl rfl
      · cases known : Command.ofWord? word with
        | none => exact .inr (.inl rfl)
        | some c =>
            rw [known] at quiet
            refine .inr (.inr ?_)
            cases c with
            | info => exact ⟨_, rfl⟩
            | hex => exact ⟨_, rfl⟩
            | help =>
                have lines : String.join (Command.all.map fun c => c.helpLine ++ "\n") =
                    String.join (Command.all.dropLast.map fun c => c.helpLine ++ "\n") ++
                      Command.quit.helpLine ++ "\n" := by decide +kernel
                exact ⟨_, by unfold Command.run; rw [lines]⟩
            | resume | next | drop | quit => cases quiet

/-- **Any other line has no effect** but an answer. -/
theorem answer_of_quiet {line : String} (waits : Ending.ofLine? line = none) (tally : Tally)
    (t : Transit) :
    ∃ w, answer (Text.Utf8.encode line) tally t = (none, { t with world := w }) ∧
      Invited t.world w 0 := by
  unfold answer
  simp only [Text.Utf8.decode?_encode]
  obtain ran | ran | ⟨text, ran⟩ := runLine_of_quiet waits tally t
  · exact ⟨t.world, by rw [ran], .refl _⟩
  · exact ⟨_, by rw [ran], .tellLine _ _⟩
  · exact ⟨_, by rw [ran], .tellLine text _⟩

/-! ## One turn -/

/-- **The operator's turn** reads lines up to the first that asks for an ending, invites before each
attempt to read one, and does with the message what the ending says; the end of the input ends the
session. -/
theorem query_obeys (tally : Tally) :
    ∀ (lines : List String) (t : Transit), t.exit = false →
      ∃ read left after, lines = read ++ left ∧ Heard read left ∧
        query tally (lines.map Text.Utf8.encode) t =
          (decide (Ending.ofLines? read = some .next), decide (Ending.ofLines? read = none),
            left.map Text.Utf8.encode, after) ∧
        Ended (Ending.ofLines? read) t after ∧
        Invited t.world after.world
          (read.length + if Ending.ofLines? read = none then 1 else 0)
  | [], t, going => by
      refine ⟨[], [], { ask t with exit := true }, rfl, .exhausted [] nofun, ?_, ?_, .ask t⟩
      · unfold query
        simp [going, Ending.ofLines?]
      · simp [Ended, ask, Ending.ofLines?]
  | line :: rest, t, going => by
      have asked := Invited.ask t
      have going' : (ask t).exit = false := going
      have ends {again : Bool} {after : Transit}
          (answered : answer (Text.Utf8.encode line) tally (ask t) = (some again, after)) :
          query tally ((line :: rest).map Text.Utf8.encode) t =
            (again, false, rest.map Text.Utf8.encode, after) := by
        rw [List.map_cons, query, if_neg (by simp [going]), answered]
      have goesOn {after : Transit}
          (answered : answer (Text.Utf8.encode line) tally (ask t) = (none, after)) :
          query tally ((line :: rest).map Text.Utf8.encode) t =
            query tally (rest.map Text.Utf8.encode) after := by
        rw [List.map_cons, query, if_neg (by simp [going]), answered]
      cases asks : Ending.ofLine? line with
      | some ending =>
          obtain ⟨after, answered, world, ended⟩ := answer_of_ending asks tally (ask t)
          have last : Ending.ofLines? [line] = some ending := asks
          refine ⟨[line], rest, after, rfl, .ended [] line rest nofun asks, ?_, ?_, ?_⟩
          · rw [ends answered, last]
            simp
          · rw [last]
            exact ended
          · rw [last, world]
            exact asked
      | none =>
          obtain ⟨w, answered, replied⟩ := answer_of_quiet asks tally (ask t)
          obtain ⟨read, left, after, split, heard, queried, ended, invited⟩ :=
            query_obeys tally rest { ask t with world := w } going'
          obtain ⟨heard, same⟩ := heard.cons asks
          refine ⟨line :: read, left, after, by rw [split, List.cons_append], heard, ?_, ?_, ?_⟩
          · rw [goesOn answered, same]
            exact queried
          · rw [same]
            exact ended
          · have count (more : Nat) :
                (line :: read).length + more = 1 + 0 + (read.length + more) := by
              rw [List.length_cons]
              omega
            rw [same, count]
            exact (asked.trans replied).trans invited

end Interactive

end WaylandProxy
