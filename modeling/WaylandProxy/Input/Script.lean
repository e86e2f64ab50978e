/-
# Input.Script -- gestures written down

A script has one gesture on a line: a tag, then fields between commas, the first of them
the time in milliseconds.

    KEY    time, delay, code, pressed
    BUTTON time, delay, code, pressed
    MOTION time, x, y
    ENTER  time, x, y
    LEAVE  time

Blank lines and lines that begin with a number sign say nothing.  A line that says
nothing sensible is skipped and reported with its number; nothing else depends on it.  A
gesture waits for the time since the gesture before it, if time went forward, plus its
own delay; both sums stay below `2 ^ 64` milliseconds.
-/
import WaylandProxy.Input.Event
import WaylandProxy.Number.Binary64
import WaylandProxy.Number.Decimal
import WaylandProxy.Text.Blank
import WaylandProxy.World

namespace WaylandProxy

set_option autoImplicit false

namespace Script

inductive Flaw where
  | fieldCount (tag : String) (expected actual : Nat)
  | number (what text : String)
  | pressed (text : String)
  | outside (coordinate : Float)
  | unknownTag (text : String)

def Flaw.text : Flaw → String
  | .fieldCount name expected actual =>
    name ++ " takes " ++ toString expected ++ " fields, got " ++ toString actual
  | .number what text => "bad " ++ what ++ ": " ++ text
  | .pressed text => "pressed flag must be 0 or 1, got " ++ text
  | .outside coordinate =>
    "coordinate " ++ Number.Binary64.render coordinate ++ " outside [0, 1]"
  | .unknownTag text => "unknown event tag " ++ text

structure Item where
  /-- The time in milliseconds. -/
  time : UInt64
  /-- The explicit delay in milliseconds. -/
  delay : UInt64
  gesture : Gesture

/-- A number below `2 ^ 64`. -/
def readTime (what text : String) : Except Flaw UInt64 :=
  (Number.Decimal.readU64 text).mapError fun _ => .number what text

/-- A number below `2 ^ 32`. -/
def readCode (text : String) : Except Flaw UInt32 :=
  (Number.Decimal.readU32 text).mapError fun _ => .number "code" text

def readPressed (text : String) : Except Flaw Bool :=
  if text = "1" then .ok true else if text = "0" then .ok false else .error (.pressed text)

/-- A number of the unit interval. -/
def readCoordinate (text : String) : Except Flaw Float :=
  match Number.Binary64.read? text with
  | none => .error (.number "coordinate" text)
  | some x => if 0.0 ≤ x ∧ x ≤ 1.0 then .ok x else .error (.outside x)

/-- The fields after a tag: what stands between commas, without blanks around it, as far
as anything does. -/
def fieldsOf (rest : String) : List String :=
  ((Text.pieces (· == ',') rest).map Text.trim).filter fun field => !field.isEmpty

/-- A line that is neither blank nor a comment. -/
def readItem (line : String) : Except Flaw Item :=
  let (tag, rest) := (Text.cut? Text.isBlank line).getD (line, "")
  let fields := fieldsOf rest
  if tag = "KEY" ∨ tag = "BUTTON" then
    match fields with
    | [time, delay, code, pressed] => do
      let time ← readTime "timestamp" time
      let delay ← readTime "delay" delay
      let code ← readCode code
      let pressed ← readPressed pressed
      return ⟨time, delay, if tag = "KEY" then .key code pressed else .button code pressed⟩
    | _ => .error (.fieldCount tag 4 fields.length)
  else if tag = "MOTION" ∨ tag = "ENTER" then
    match fields with
    | [time, x, y] => do
      let time ← readTime "timestamp" time
      let x ← readCoordinate x
      let y ← readCoordinate y
      return ⟨time, 0, if tag = "MOTION" then .motion x y else .enter x y⟩
    | _ => .error (.fieldCount tag 3 fields.length)
  else if tag = "LEAVE" then
    match fields with
    | [time] => do
      let time ← readTime "timestamp" time
      return ⟨time, 0, .leave⟩
    | _ => .error (.fieldCount tag 1 fields.length)
  else .error (.unknownTag tag)

/-- A line: nothing for a blank or a comment, else a gesture or what is wrong with it. -/
def readLine (line : String) : Option (Except Flaw Item) :=
  let line := Text.trim line
  if line.isEmpty || line.front = '#' then none else some (readItem line)

/-- A sum of milliseconds that stays below `2 ^ 64`. -/
def addMillis (x y : UInt64) : UInt64 :=
  UInt64.ofNat (min (x.toNat + y.toNat) (UInt64.size - 1))

/-- The time since the gesture before, which is none if time went back. -/
def gap (previous : Option UInt64) (time : UInt64) : UInt64 :=
  match previous with
  | none => 0
  | some before => if before ≤ time then time - before else 0

/-- The gestures of a script with their delays, each counted from the one before. -/
def schedule : Option UInt64 → List Item → List Scheduled
  | _, [] => []
  | previous, item :: rest =>
    ⟨item.gesture, millis (addMillis (gap previous item.time) item.delay).toNat⟩ ::
      schedule (some item.time) rest

/-- The gestures and the flaws of the lines of a script, each flaw with its line's
number. -/
def readLines : Nat → List String → List Item × List (Nat × Flaw)
  | _, [] => ([], [])
  | number, line :: rest =>
    let (items, flaws) := readLines (number + 1) rest
    match readLine line with
    | none => (items, flaws)
    | some (.ok item) => (item :: items, flaws)
    | some (.error flaw) => (items, (number, flaw) :: flaws)

def parse (text : String) : List Scheduled :=
  schedule none (readLines 1 (Text.lines text)).1

/-- The lines of a text that are skipped, by number. -/
def skipped (text : String) : List (Nat × Flaw) :=
  (readLines 1 (Text.lines text)).2

def skippedEntry (skip : Nat × Flaw) : Log.Entry :=
  ⟨.warn, .fuzz, "skipping script line",
    [("line", .number skip.1), ("reason", .plain skip.2.text)]⟩

/-- The script of a text, and the world in which its skipped lines are logged. -/
def load (text : String) (w : World) : Script × World :=
  (⟨parse text⟩, (skipped text).foldl (fun w skip => w.note (.logged (skippedEntry skip))) w)

end Script

end WaylandProxy
