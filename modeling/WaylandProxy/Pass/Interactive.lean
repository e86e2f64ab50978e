/-
# Pass.Interactive -- stop at a message and ask the operator

The interactive pass shows every message and is always the last one.  It stops at the
first message unless told otherwise, at a message after the break signal was raised, and
at the message after one that the operator left with `next`.  While it stands it reads
commands line by line until one lets the pipeline go on; the end of the operator's input,
or a line that is no text, ends the session.

The input is a list of lines, each with the line feed that ends it; `linesOf` cuts bytes
that way.  Lines not read stay for later stops.  `ended` tells that a line was asked for
and there was none.
-/
import WaylandProxy.Object.Describe
import WaylandProxy.Pass.Command
import WaylandProxy.Storage

namespace WaylandProxy

set_option autoImplicit false

structure Interactive where
  /-- The operator's lines that were not read. -/
  input : List (List UInt8)
  screen : Screen
  /-- Stop at the next message. -/
  stop : Bool
  tally : Tally
  /-- The end of the operator's input was reached. -/
  ended : Bool
  deriving DecidableEq, Repr

namespace Interactive

/-- Bytes as lines, each but perhaps the last with the line feed that ends it. -/
def linesOf (bytes : List UInt8) : List (List UInt8) :=
  bytes.foldr
    (fun byte lines =>
      if byte = 10 then [byte] :: lines
      else match lines with
        | [] => [[byte]]
        | line :: rest => (byte :: line) :: rest)
    []

/-- A pass that stops at the first message. -/
def create (input : List (List UInt8)) (screen : Screen) : Interactive where
  input := input
  screen := screen
  stop := true
  tally := ⟨0, 0⟩
  ended := false

def prompt : String := "(wlfuzz) "

def withArgument (p : Interactive) (argument : String) : Except Fault Interactive :=
  if argument = "skip-first" then .ok { p with stop := false }
  else .error (.configuration ("interactive: unknown argument " ++ argument))

/-- What one line of the operator leads to: whether to stop at the next message, once the
pipeline goes on. -/
def answer (line : List UInt8) (tally : Tally) (t : Transit) : Option Bool × Transit :=
  match Text.Utf8.decode? line with
  | none =>
    let w := t.world.log .error .interactive "reading operator input failed"
      [("error", .plain Storage.notText)]
    (some false, { t with exit := true, world := w })
  | some line =>
    match Command.runLine line tally t with
    | (.over again, t) => (some again, t)
    | (.more, t) => (none, t)
    | (.unknown, t) =>
      (none, { t with world := t.world.tell ("Unknown command: " ++ Text.trim line ++ "\n") })

/-- Clear the break signal, with a new line if it was raised, and ask for a line. -/
def ask (t : Transit) : Transit :=
  let (raised, w) := t.world.takeBreak
  let w := if raised then w.tell "\n" else w
  { t with world := w.tell prompt }

/-- The operator's turn: read lines until one lets the pipeline go on.  The result is
whether to stop at the next message, whether the input ended, the lines not read, and the
message in transit. -/
def query (tally : Tally) : List (List UInt8) → Transit → Bool × Bool × List (List UInt8) × Transit
  | [], t =>
    if t.exit then (false, false, [], t)
    else (false, true, [], { ask t with exit := true })
  | line :: rest, t =>
    if t.exit then (false, false, line :: rest, t)
    else
      match answer line tally (ask t) with
      | (some again, t) => (again, false, rest, t)
      | (none, t) => query tally rest t

def countMessage (tally : Tally) : Direction → Tally
  | .fromServer => { tally with fromServer := tally.fromServer + 1 }
  | .fromClient => { tally with fromClient := tally.fromClient + 1 }

/-- The number of the latest message of a peer. -/
def number (tally : Tally) : Direction → UInt64
  | .fromServer => tally.fromServer
  | .fromClient => tally.fromClient

/-- Show a message, and stop at it if that is due. -/
def process (ctx : Context) (t : Transit) (p : Interactive) : Handled Interactive :=
  let direction := t.message.direction
  let tally := countMessage p.tally direction
  let (raised, w) := t.world.takeBreak
  let stop := p.stop || raised
  let w := p.screen.put (t.message.describe (ctx.objects.resolve t.message)) w
  if !stop then ⟨{ p with stop := stop, tally := tally }, { t with world := w }, .stopChain⟩
  else
    let w := w.tell ("Stopped at message no. " ++ toString (number tally direction) ++ " from " ++
      direction.name ++ "\n")
    let (again, ended, input, t) := query tally p.input { t with world := w }
    ⟨{ p with input := input, stop := again, tally := tally, ended := p.ended || ended }, t,
      .stopChain⟩

instance : Pass Interactive where
  name _ := "interactive"
  usage _ := "interactive [skip-first]: break on messages and wait for operator commands"
  pinned _ := true
  init _ args w p := (args.foldlM withArgument p, w)
  onEvent := process
  onRequest := process
  idle _ i p := (p, i)
  finalize w p := (p, w)

end Interactive

end WaylandProxy
