/-
# Proofs.Pass.Operator -- the operator's loop does exactly what the input says

A message gives the operator a turn if the pass stops at it and nothing has asked for the session
to end (`visit_serves`).  Over a run three things are carried from one message to the next: the
lines not read, whether the turn was ended by `next`, and the break signal (`Account`).

That the pass stopped is read off what it shows.  What it says then cannot be mistaken for a
message that it shows, for a message begins with a bracket.
-/
import WaylandProxy.Proofs.Input.Group
import WaylandProxy.Proofs.Machine
import WaylandProxy.Proofs.Pass.Turn
import WaylandProxy.Proofs.Wire.Words

namespace WaylandProxy

set_option autoImplicit false

namespace Interactive

/-! ## One message -/

/-- What is said when the pass stops at a message. -/
def announcement (number : UInt64) (direction : Direction) : String :=
  "Stopped at message no. " ++ toString number ++ " from " ++ direction.name ++ "\n"

/-- A message that is shown does not say that the pass stops. -/
theorem describe_ne_announcement (m : Message) (resolved : Option Resolved) (number : UInt64)
    (direction : Direction) : m.describe resolved ++ "\n" ≠ announcement number direction := by
  intro same
  have shown : (m.describe resolved ++ "\n").toList.head? = some '[' := by
    simp only [Message.describe, String.toList_append, List.append_assoc]
    rfl
  have said : (announcement number direction).toList.head? = some 'S' := by
    have first : "Stopped at message no. ".toList.head? = some 'S' := rfl
    unfold announcement
    rw [String.append_assoc, String.append_assoc, String.append_assoc, String.toList_append,
      List.head?_append, first, Option.some_or]
  rw [same, said] at shown
  cases shown

/-- What is seen of one message going through the pass. -/
structure Visit where
  /-- The message as it came. -/
  came : Transit
  /-- The message as it was left. -/
  left : Transit
  verdict : Verdict
  /-- The lines that were read. -/
  read : List String

namespace Visit

def notes (v : Visit) : List Note :=
  v.left.world.notes.drop v.came.world.notes.length

def Stopped (v : Visit) : Prop :=
  ∃ number, .shown (announcement number v.came.message.direction) ∈ v.notes

/-- The ending that the last line read asks for. -/
def ending? (v : Visit) : Option Ending :=
  Ending.ofLines? v.read

/-- The operator had a turn: the pass stopped, and nothing had asked for the session to end. -/
def IsTurn (v : Visit) : Prop :=
  v.Stopped ∧ v.came.exit = false

/-- The operator's turn did what the lines said, with one invitation for each line read and one for
the end of the input. -/
structure Obeys (v : Visit) (left : List String) : Prop where
  heard : Heard v.read left
  invitations : prompts v.notes = v.read.length + if v.ending? = none then 1 else 0
  skipped : v.left.skipped = (v.came.skipped || decide (v.ending? = some .drop))
  exit : v.left.exit = decide (v.ending? = some .quit ∨ v.ending? = none)

/-- The operator had no turn: nothing was read, and the pass asked for nothing. -/
structure GoesBy (v : Visit) : Prop where
  read : v.read = []
  invitations : prompts v.notes = 0
  skipped : v.left.skipped = v.came.skipped
  exit : v.left.exit = v.came.exit

end Visit

/-- The pass handles a message with its handler for the peer that the message is from. -/
def handler (ctx : Context) (t : Transit) (p : Interactive) : Handled Interactive :=
  match t.message.direction with
  | .fromServer => Pass.onEvent ctx t p
  | .fromClient => Pass.onRequest ctx t p

/-- The two handlers are one. -/
theorem handler_eq (ctx : Context) (t : Transit) (p : Interactive) :
    handler ctx t p = process ctx t p := by
  unfold handler
  cases t.message.direction <;> rfl

/-- What is seen of a message that the pass handles. -/
def visit (ctx : Context) (t : Transit) (p : Interactive) : Visit :=
  let handled := handler ctx t p
  ⟨t, handled.transit, handled.verdict,
    (p.input.take (p.input.length - handled.pass.input.length)).filterMap Text.Utf8.decode?⟩

/-- A note that is neither an invitation nor says that the pass stops. -/
structure Silent (n : Note) : Prop where
  noPrompt : n ≠ .shown prompt
  noStop : ∀ number direction, n ≠ .shown (announcement number direction)

theorem put_silent (s : Screen) (m : Message) (resolved : Option Resolved) (w : World) :
    ∃ n, s.put (m.describe resolved) w = w.note n ∧ Silent n := by
  unfold Screen.put
  cases s.fault with
  | none =>
      refine ⟨.shown (m.describe resolved ++ "\n"), rfl, fun same => ?_,
        fun number direction same => ?_⟩
      · exact line_ne_prompt _ (Note.shown.inj same)
      · exact describe_ne_announcement m resolved number direction (Note.shown.inj same)
  | some reason => exact ⟨_, rfl, nofun, nofun⟩

/-- What a pass has counted with one more message. -/
def counted (p : Interactive) (t : Transit) : Tally :=
  countMessage p.tally t.message.direction

/-- The message as the operator gets it: shown, with the break signal cleared, and announced. -/
def announced (p : Interactive) (t : Transit) (n : Note) : Transit :=
  { t with
    world := ({ t.world with breakRaised := false }.note n).tell
      (announcement (number (p.counted t) t.message.direction) t.message.direction) }

/-- A pass that does not stop shows the message, and a pass that stops announces it and gives the
operator a turn. -/
theorem process_eq (ctx : Context) (t : Transit) (p : Interactive) :
    ∃ n, Silent n ∧ process ctx t p =
      if p.stop || t.world.breakRaised then
        let turn := query (p.counted t) p.input (p.announced t n)
        ⟨{ p with
            input := turn.2.2.1
            stop := turn.1
            tally := p.counted t
            ended := p.ended || turn.2.1 },
          turn.2.2.2, .stopChain⟩
      else
        ⟨{ p with stop := false, tally := p.counted t },
          { t with world := { t.world with breakRaised := false }.note n }, .stopChain⟩ := by
  obtain ⟨n, shown, silent⟩ := put_silent p.screen t.message (ctx.objects.resolve t.message)
    { t.world with breakRaised := false }
  refine ⟨n, silent, ?_⟩
  unfold process World.takeBreak
  simp only [shown]
  cases p.stop || t.world.breakRaised <;> rfl

/-- The lines that are gone are those that were read. -/
theorem read_eq (read left : List String) :
    (((read ++ left).map Text.Utf8.encode).take
      (((read ++ left).map Text.Utf8.encode).length -
        (left.map Text.Utf8.encode).length)).filterMap Text.Utf8.decode? = read := by
  have gone : ((read ++ left).map Text.Utf8.encode).length - (left.map Text.Utf8.encode).length =
      (read.map Text.Utf8.encode).length := by
    simp
  rw [gone, List.map_append, List.take_left, List.filterMap_map]
  simp

/-- What a message comes to, for a pass that has these lines before it: it stops if it is to stop
or the break signal was raised; the operator has a turn then, if nothing asked for the session to
end; and the pass is to stop at the next message if the turn was ended by `next`. -/
structure Serves (lines : List String) (p : Interactive) (t : Transit) (v : Visit)
    (after : Interactive) : Prop where
  verdict : v.verdict = .stopChain
  calm : v.left.world.breakRaised = false
  stopped : v.Stopped ↔ p.stop = true ∨ t.world.breakRaised = true
  lines : ∃ left, lines = v.read ++ left ∧ after.input = left.map Text.Utf8.encode ∧
    (v.IsTurn → v.Obeys left)
  again : after.stop = decide (v.ending? = some .next)
  goesBy : ¬ v.IsTurn → v.GoesBy

theorem Visit.notes_eq {v : Visit} {new : List Note}
    (noted : v.left.world.notes = v.came.world.notes ++ new) : v.notes = new := by
  unfold notes
  rw [noted, List.drop_left]

variable {p : Interactive} {lines : List String} {t : Transit} {n : Note}

/-- A message that the pass does not stop at goes by. -/
theorem serves_going (input : p.input = lines.map Text.Utf8.encode) (silent : Silent n)
    (stop : p.stop = false) (calm : t.world.breakRaised = false) (tally : Tally) :
    Serves lines p t
      ⟨t, { t with world := { t.world with breakRaised := false }.note n }, .stopChain, []⟩
      { p with stop := false, tally := tally } := by
  let v : Visit :=
    ⟨t, { t with world := { t.world with breakRaised := false }.note n }, .stopChain, []⟩
  have notes : v.notes = [n] := Visit.notes_eq List.reverse_cons
  have notStopped : ¬ v.Stopped := by
    rintro ⟨number, announced⟩
    rw [notes] at announced
    exact silent.noStop _ _ (List.mem_singleton.1 announced).symm
  have invitations : prompts v.notes = 0 := by
    rw [notes]
    exact (List.count_singleton ..).trans (if_neg (by simpa using silent.noPrompt))
  exact {
    verdict := rfl
    calm := rfl
    stopped := ⟨fun stopped => absurd stopped notStopped, by simp [stop, calm]⟩
    lines := ⟨lines, rfl, input, fun turn => absurd turn.1 notStopped⟩
    again := rfl
    goesBy := fun _ => ⟨rfl, invitations, rfl, rfl⟩ }

/-- The announcement is noted, and it is no invitation. -/
theorem invited_announced (silent : Silent n) (p : Interactive) (t : Transit) :
    Invited t.world (p.announced t n).world 0 :=
  ((Invited.lowered _).trans (.note silent.noPrompt _)).trans (.tellLine _ _)

/-- A message that was announced is one that the pass stopped at. -/
theorem stopped_of_announced {after : Transit} {times : Nat} {read : List String}
    (invited : Invited (p.announced t n).world after.world times) :
    Visit.Stopped ⟨t, after, .stopChain, read⟩ := by
  obtain ⟨⟨new, noted, -⟩, -⟩ := invited
  have announced : (p.announced t n).world.notes = t.world.notes ++
      [n, .shown
        (announcement (number (p.counted t) t.message.direction) t.message.direction)] := by
    unfold announced World.notes World.tell World.note
    simp
  have notes : Visit.notes ⟨t, after, .stopChain, read⟩ = _ :=
    Visit.notes_eq (noted.trans (by rw [announced, List.append_assoc]))
  refine ⟨number (p.counted t) t.message.direction, ?_⟩
  rw [notes]
  simp

/-- A message at which the pass stops after the session was asked to end goes by. -/
theorem serves_exiting (input : p.input = lines.map Text.Utf8.encode) (silent : Silent n)
    (stops : p.stop = true ∨ t.world.breakRaised = true) (exit : t.exit = true) (tally : Tally)
    (ended : Bool) :
    Serves lines p t ⟨t, p.announced t n, .stopChain, []⟩
      { p with stop := false, tally := tally, ended := ended } := by
  let v : Visit := ⟨t, p.announced t n, .stopChain, []⟩
  have noTurn : ¬ v.IsTurn := fun turn => Bool.noConfusion (exit.symm.trans turn.2)
  obtain ⟨⟨new, noted, none⟩, -⟩ := invited_announced silent p t
  have invitations : prompts v.notes = 0 := by
    rw [Visit.notes_eq (v := v) noted]
    exact none
  exact {
    verdict := rfl
    calm := rfl
    stopped := ⟨fun _ => stops, fun _ => stopped_of_announced (.refl _)⟩
    lines := ⟨lines, rfl, input, fun turn => absurd turn noTurn⟩
    again := rfl
    goesBy := fun _ => ⟨rfl, invitations, rfl, rfl⟩ }

theorem serves_turn {read left : List String} {after : Transit} (silent : Silent n)
    (stops : p.stop = true ∨ t.world.breakRaised = true) (going : t.exit = false)
    (heard : Heard read left) (ended : Ended (Ending.ofLines? read) (p.announced t n) after)
    (invited : Invited (p.announced t n).world after.world
      (read.length + if Ending.ofLines? read = none then 1 else 0)) (next : Interactive)
    (input : next.input = left.map Text.Utf8.encode)
    (again : next.stop = decide (Ending.ofLines? read = some .next)) :
    Serves (read ++ left) p t ⟨t, after, .stopChain, read⟩ next := by
  let v : Visit := ⟨t, after, .stopChain, read⟩
  have stopped : v.Stopped := stopped_of_announced invited
  obtain ⟨⟨new, noted, count⟩, calm⟩ := (invited_announced silent p t).trans invited
  have exit : after.exit =
      decide (Ending.ofLines? read = some .quit ∨ Ending.ofLines? read = none) := by
    rw [ended.2, show (p.announced t n).exit = t.exit from rfl, going, Bool.false_or]
  have obeys : v.Obeys left := by
    refine ⟨heard, ?_, ended.1, exit⟩
    rw [Visit.notes_eq (v := v) noted, count, Nat.zero_add]
    rfl
  exact {
    verdict := rfl
    calm := invited.calm rfl
    stopped := ⟨fun _ => stops, fun _ => stopped⟩
    lines := ⟨left, rfl, input, fun _ => obeys⟩
    again := again
    goesBy := fun noTurn => absurd ⟨stopped, going⟩ noTurn }

/-- **One message.** -/
theorem visit_serves (input : p.input = lines.map Text.Utf8.encode) (ctx : Context) (t : Transit) :
    Serves lines p t (visit ctx t p) (handler ctx t p).pass := by
  obtain ⟨n, silent, done⟩ := process_eq ctx t p
  have nothing : (p.input.take (p.input.length - p.input.length)).filterMap Text.Utf8.decode? =
      [] := by
    rw [Nat.sub_self]
    rfl
  unfold visit
  rw [handler_eq, done]
  cases stops : p.stop || t.world.breakRaised with
  | false =>
      obtain ⟨stop, calm⟩ := Bool.or_eq_false_iff.1 stops
      simp only [Bool.false_eq_true, if_false, nothing]
      exact serves_going input silent stop calm _
  | true =>
      have stops := Bool.or_eq_true_iff.1 stops
      simp only [if_true]
      cases exit : t.exit with
      | true =>
          have turn : query (p.counted t) p.input (p.announced t n) =
              (false, false, p.input, p.announced t n) := by
            cases p.input <;> exact if_pos exit
          simp only [turn, nothing]
          exact serves_exiting input silent stops exit _ _
      | false =>
          obtain ⟨read, left, after, rfl, heard, turn, ended, invited⟩ :=
            query_obeys (p.counted t) lines (p.announced t n) exit
          rw [← input] at turn
          simp only [turn]
          rw [input, read_eq]
          exact serves_turn silent stops exit heard ended invited _ rfl rfl

/-! ## Runs -/

/-- A pass that was set up stops at the first message unless it was told otherwise, and is as it was
made in everything else. -/
theorem ready_of_init {args : List String} {made ready : Interactive}
    (isReady : args.foldlM withArgument made = .ok ready) :
    ready = { made with stop := made.stop && decide ("skip-first" ∉ args) } := by
  induction args generalizing made with
  | nil =>
      cases isReady
      simp
  | cons argument rest ih =>
      rw [List.foldlM_cons] at isReady
      obtain ⟨next, took, isReady⟩ := bind_eq_ok.1 isReady
      unfold withArgument at took
      split at took
      · rename_i isSkip
        cases took
        rw [ih isReady, isSkip]
        simp
      · cases took

/-- What happens to the pass, between messages or with one. -/
inductive Move where
  /-- The operator raises the break signal. -/
  | raise
  /-- A message comes, in a world of its own. -/
  | message (ctx : Context) (t : Transit)

inductive Entry where
  | raised
  | visited (v : Visit)

/-- The message with the break signal as it was left. -/
def signalled (t : Transit) (raised : Bool) : Transit :=
  { t with world := { t.world with breakRaised := raised } }

/-- A pass with the break signal that it shares with the operator. -/
def operated : Machine (Interactive × Bool) Move Entry where
  step
    | (p, _), .raise => (p, true)
    | (p, raised), .message ctx t =>
      let handled := handler ctx (signalled t raised) p
      (handled.pass, handled.transit.world.breakRaised)
  out
    | _, .raise => [.raised]
    | (p, raised), .message ctx t => [.visited (visit ctx (signalled t raised) p)]

def Entry.visit? : Entry → Option Visit
  | .raised => none
  | .visited v => some v

def visits (log : List Entry) : List Visit :=
  log.filterMap Entry.visit?

/-- The pass is to stop at the message after these: none has come, and the pass was not told to skip
the first, or the turn at the last one was ended by `next`. -/
def StopsNext (args : List String) (log : List Entry) : Prop :=
  (visits log = [] ∧ "skip-first" ∉ args) ∨
    ∃ last ∈ (visits log).getLast?, last.ending? = some .next

/-- A message that came after these was treated as the operator's lines say. -/
structure Faithful (args : List String) (lines : List String) (earlier : List Entry) (v : Visit) :
    Prop where
  verdict : v.verdict = .stopChain
  /-- The pass stopped if it was to do so, or if the signal was raised since the message before:
  then that is what was seen last. -/
  stopped : v.Stopped ↔ StopsNext args earlier ∨ earlier.getLast? = some .raised
  /-- A turn takes up the lines where the turns before left them. -/
  turn : v.IsTurn →
    ∃ left, lines = (visits earlier).flatMap Visit.read ++ v.read ++ left ∧ v.Obeys left
  goesBy : ¬ v.IsTurn → v.GoesBy

/-- A pass and the break signal after what a run was seen to do. -/
structure Account (args : List String) (lines : List String) (state : Interactive × Bool)
    (log : List Entry) : Prop where
  unread : ∃ left, lines = (visits log).flatMap Visit.read ++ left ∧
    state.1.input = left.map Text.Utf8.encode
  stop : state.1.stop = true ↔ StopsNext args log
  raised : state.2 = true ↔ log.getLast? = some .raised
  faithful : ∀ earlier v later, log = earlier ++ .visited v :: later →
    Faithful args lines earlier v

theorem visits_concat_raised (log : List Entry) : visits (log ++ [.raised]) = visits log := by
  simp [visits, Entry.visit?]

theorem visits_concat_visited (log : List Entry) (v : Visit) :
    visits (log ++ [.visited v]) = visits log ++ [v] := by
  simp [visits, Entry.visit?]

variable {args : List String} {state : Interactive × Bool} {log : List Entry}

/-- The signal leaves the lines and what the pass is to do. -/
theorem Account.raise (account : Account args lines state log) :
    Account args lines (state.1, true) (log ++ [.raised]) := by
  obtain ⟨unread, stop, -, faithful⟩ := account
  refine ⟨?_, ?_, ?_, fun earlier v later split => ?_⟩
  · rwa [visits_concat_raised]
  · unfold StopsNext
    rwa [visits_concat_raised]
  · simp
  · obtain ⟨-, same, -⟩ | ⟨within, -, inside⟩ := entry_of_concat split
    · cases same
    · exact faithful earlier v within inside

/-- **A message** is treated faithfully, and the account goes on. -/
theorem Account.visit (account : Account args lines state log) (ctx : Context) (t : Transit) :
    let came := signalled t state.2
    Account args lines
      ((handler ctx came state.1).pass, (handler ctx came state.1).transit.world.breakRaised)
      (log ++ [.visited (Interactive.visit ctx came state.1)]) := by
  intro came
  obtain ⟨⟨left, split, input⟩, stop, raised, faithful⟩ := account
  have serves := visit_serves input ctx came
  have calm : (handler ctx came state.1).transit.world.breakRaised = false := serves.calm
  generalize Interactive.visit ctx came state.1 = v at serves
  obtain ⟨unread, lines', input', obeys⟩ := serves.lines
  refine ⟨⟨unread, ?_, input'⟩, ?_, ?_, fun earlier u later cut => ?_⟩
  · rw [visits_concat_visited, split, lines']
    simp
  · rw [serves.again]
    unfold StopsNext
    rw [visits_concat_visited]
    simp
  · rw [calm]
    simp
  · obtain ⟨rfl, same, -⟩ | ⟨within, -, inside⟩ := entry_of_concat cut
    · cases same
      refine ⟨serves.verdict, ?_, fun turn => ⟨unread, ?_, obeys turn⟩, serves.goesBy⟩
      · rw [serves.stopped, ← stop, ← raised]
        rfl
      · rw [split, lines', List.append_assoc]
    · exact faithful earlier u within inside

/-- **The operator's loop does exactly what the input says.**  Take a pass for what an operator
types, set up with any arguments that it accepts, and any run of messages and break signals.

* The lines that it reads have the fields of the lines typed.
* Every message is treated faithfully (`Faithful`): the chain ends with it; the pass stops at it
  if it is the first and was not to be skipped, if the signal was raised since the message before,
  or if the turn at that message was ended by `next`; a turn reads the lines up to the first whose
  first word asks for an ending, or all that are left, inviting the operator before each attempt;
  it keeps the message from being forwarded only for `drop`, and ends the session only for `quit`
  or at the end of the input.  Where there is no turn nothing is read and nothing asked for. -/
theorem operator_is_obeyed (text : String) (screen : Screen) (storage : Storage)
    (args : List String) (w : World) {p : Interactive}
    (ready : (Pass.init storage args w
      (create (linesOf (Text.Utf8.encode text)) screen)).1 = .ok p) (moves : List Move) :
    (typed text).map Text.fields = (Text.lines text).map Text.fields ∧
      ∀ earlier v later, operated.outputs (p, false) moves = earlier ++ .visited v :: later →
        Faithful args (typed text) earlier v := by
  obtain ⟨read, fields⟩ := linesOf_encode text
  have set := ready_of_init ready
  -- nothing was read and no message seen, and whether to stop first is up to the arguments
  have start : Account args (typed text) (p, false) [] := by
    refine ⟨⟨typed text, rfl, ?_⟩, ?_, by simp, fun earlier v later split => ?_⟩
    · rw [set]
      exact read
    · rw [set]
      simp [StopsNext, visits, create]
    · cases earlier <;> cases split
  refine ⟨fields, (operated.holds_after (Account args (typed text)) start ?_ moves).faithful⟩
  intro state log move account
  cases move with
  | raise => exact account.raise
  | message ctx t => exact account.visit ctx t

namespace Example

open Message.Example (message)

/-- What the operator types: a word that is no command, `next`, a blank line, `drop`, and a
question. -/
def script : String :=
  "what\n  next please\n\nd\nhex"

def asked : Interactive :=
  create (linesOf (Text.Utf8.encode script)) ⟨none⟩

def request : Move :=
  .message ⟨⟨[]⟩, 0⟩ ⟨message .fromClient 1 0 [5], false, false, .start .reliable .reliable⟩

/-- Three messages, one more after the signal, and one after the end of the input. -/
def day : List Move :=
  [request, request, request, .raise, request, request]

example : (visits (operated.outputs (asked, false) day)).map
    (fun v => (v.read, prompts v.notes, v.left.skipped, v.left.exit)) =
      [(["what\n", "  next please\n"], 2, false, false), (["\n", "d\n"], 2, true, false),
        ([], 0, false, false), (["hex"], 2, false, true), ([], 0, false, false)] := by
  decide +kernel

def nowhere : Storage :=
  ⟨fun _ => .error "", fun _ => .error ""⟩

/-- The first turn is ended by `next`, so the pass stops at the second message too; that one is held
back, for it is dropped. -/
theorem next_stops_at_second :
    (Pass.init nowhere [] (.start .reliable .reliable)
        (create (linesOf (Text.Utf8.encode script)) ⟨none⟩)).1 = .ok asked ∧
      ∃ first second later,
        operated.outputs (asked, false) day = [.visited first] ++ .visited second :: later ∧
          first.ending? = some .next ∧ second.IsTurn ∧ second.read = ["\n", "d\n"] ∧
          second.left.skipped = true ∧ second.left.exit = false := by
  have ready : (Pass.init nowhere [] (.start .reliable .reliable)
    (create (linesOf (Text.Utf8.encode script)) ⟨none⟩)).1 = .ok asked := rfl
  obtain ⟨first, second, later, run⟩ : ∃ first second later,
      operated.outputs (asked, false) day = [.visited first] ++ .visited second :: later :=
    ⟨_, _, _, rfl⟩
  have seen : ((visits (operated.outputs (asked, false) day)).take 2).map
      (fun v => (v.read, v.came.skipped, v.came.exit)) =
        [(["what\n", "  next please\n"], false, false), (["\n", "d\n"], false, false)] := by
    decide +kernel
  rw [run] at seen
  obtain ⟨⟨firstRead, -⟩, secondRead, notSkipped, going⟩ :
      (first.read = ["what\n", "  next please\n"] ∧ first.came.skipped = false ∧
        first.came.exit = false) ∧
      second.read = ["\n", "d\n"] ∧ second.came.skipped = false ∧ second.came.exit = false := by
    simpa [visits, Entry.visit?] using seen
  have next : first.ending? = some .next := by
    unfold Visit.ending?
    rw [firstRead]
    decide +kernel
  have drop : second.ending? = some .drop := by
    unfold Visit.ending?
    rw [secondRead]
    decide +kernel
  have faithful := (operator_is_obeyed script ⟨none⟩ nowhere [] _ ready day).2 _ second later run
  have turn : second.IsTurn := ⟨faithful.stopped.2 (.inl (.inr ⟨first, rfl, next⟩)), going⟩
  obtain ⟨left, -, obeys⟩ := faithful.turn turn
  refine ⟨ready, first, second, later, run, next, turn, secondRead, ?_, ?_⟩
  · rw [obeys.skipped, notSkipped, drop]
    rfl
  · rw [obeys.exit, drop]
    rfl

end Example

end Interactive

end WaylandProxy
