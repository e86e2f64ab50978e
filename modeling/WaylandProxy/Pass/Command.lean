/-
# Pass.Command -- what an operator can say

While the pipeline stands still the operator speaks in commands, one on a line.  The first
word of a line is a command by its name or its letter; words after it are ignored.  Some
commands show something and wait for another line, the others let the pipeline go on.
-/
import WaylandProxy.Pass.Basic
import WaylandProxy.Text.Blank
import WaylandProxy.Text.Hex

namespace WaylandProxy

set_option autoImplicit false

inductive Command where
  | resume
  | next
  | drop
  | info
  | hex
  | help
  | quit
  deriving DecidableEq, Repr

namespace Command

/-- All commands, in the order in which they are listed. -/
def all : List Command :=
  [.resume, .next, .drop, .info, .hex, .help, .quit]

def name : Command → String
  | .resume => "continue"
  | .next => "next"
  | .drop => "drop"
  | .info => "info"
  | .hex => "hex"
  | .help => "help"
  | .quit => "quit"

def letter : Command → String
  | .resume => "c"
  | .next => "n"
  | .drop => "d"
  | .info => "i"
  | .hex => "x"
  | .help => "h"
  | .quit => "q"

def summary : Command → String
  | .resume => "resume the pipeline"
  | .next => "resume and stop at the next message"
  | .drop => "do not forward the current message, then resume"
  | .info => "show message counters"
  | .hex => "dump the current message words"
  | .help => "list commands"
  | .quit => "end the session"

def ofWord? (word : String) : Option Command :=
  all.find? fun c => c.name = word ∨ c.letter = word

def firstWord (line : String) : String :=
  let line := Text.trim line
  match Text.cut? Text.isBlank line with
  | some (word, _) => word
  | none => line

/-- A text with blanks after it up to a width. -/
def padRight (width : Nat) (text : String) : String :=
  text ++ String.ofList (List.replicate (width - text.length) ' ')

def helpLine (c : Command) : String :=
  padRight 10 c.name ++ " (" ++ c.letter ++ ")  " ++ c.summary

end Command

structure Tally where
  fromServer : UInt64
  fromClient : UInt64
  deriving DecidableEq, Repr

/-- How the operator's turn goes on after a line. -/
inductive Turn where
  /-- The pipeline goes on; `again` asks to stop at the next message. -/
  | over (again : Bool)
  /-- Another line is read. -/
  | more
  /-- The line is no command. -/
  | unknown
  deriving DecidableEq, Repr

namespace Command

def run (c : Command) (tally : Tally) (t : Transit) : Turn × Transit :=
  let tell (text : String) : Transit := { t with world := t.world.tell text }
  match c with
  | .resume => (.over false, t)
  | .next => (.over true, t)
  | .drop => (.over false, { t with skipped := true })
  | .info =>
    (.more, tell ("messages from server: " ++ toString tally.fromServer ++ ", from client: " ++
      toString tally.fromClient ++ "\n"))
  | .hex => (.more, tell (" ".intercalate (t.message.words.map Text.Hex.encodeWord) ++ "\n"))
  | .help => (.more, tell (String.join (all.map fun c => c.helpLine ++ "\n")))
  | .quit => (.over false, { t with exit := true })

def runLine (line : String) (tally : Tally) (t : Transit) : Turn × Transit :=
  let word := firstWord line
  if word.isEmpty then (.more, t)
  else
    match ofWord? word with
    | some c => c.run tally t
    | none => (.unknown, t)

end Command

end WaylandProxy
