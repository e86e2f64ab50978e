/-
# Main -- the proxy as a program

The command line takes the path of a configuration.  Everything that the program decides is
in the modules below this one; here files are read and written, time passes, and the operator
is asked.

A step of a replay is taken on the lines that the operator has typed so far.  When it turns
out that another line was needed, what was shown up to there is printed, a line is read, and
the same step is taken again with that line; what was printed already is not printed again.
-/
import WaylandProxy.Program

namespace WaylandProxy.Main

set_option autoImplicit false

/-- Why something that was asked of the system did not happen. -/
def reasonOf (code : UInt32) (details : String) : String :=
  let number := if code < 0x80000000 then code.toNat else (0 - code).toNat
  match Storage.Refusal.ofNumber? number with
  | some refusal => refusal.text
  | none => Storage.Refusal.wording details number

def reason : IO.Error → String
  | .alreadyExists _ code details | .otherError code details | .resourceBusy code details
  | .resourceVanished code details | .unsupportedOperation code details
  | .hardwareFault code details | .unsatisfiedConstraints code details
  | .illegalOperation code details | .protocolError code details | .timeExpired code details
  | .interrupted _ code details | .noFileOrDirectory _ code details
  | .invalidArgument _ code details | .permissionDenied _ code details
  | .resourceExhausted _ code details | .inappropriateType _ code details
  | .noSuchThing _ code details => reasonOf code details
  | .unexpectedEof => "unexpected end of file"
  | .userError text => text

/-- The result of an action, or the reason why it has none. -/
def attempt {α : Type} (action : IO α) : IO (Except String α) := do
  try return .ok (← action)
  catch e => return .error (reason e)

def readFiles (paths : List String) : IO Storage := do
  let contents ← paths.mapM fun (path : String) => do
    let content ← attempt (IO.FS.readBinFile path)
    return (path, content.map fun bytes => bytes.data.toList)
  return {
    read := fun path => (contents.lookup path).getD (.error Storage.Refusal.missing.text)
    create := fun _ => .ok () }

def scriptPaths (c : Config) : List String :=
  c.passes.filterMap fun p =>
    match p.name, Options.parse p.args with
    | "fuzz", .ok { mode := .script path, .. } => some path
    | _, _ => none

/-- Where the text of a session goes, and since when its time counts. -/
structure Console where
  file : Option IO.FS.Handle
  origin : Nat

def moment (start : Nat) : IO Nat := do
  return (← IO.monoNanosNow) - start

def Console.print (c : Console) (notes : List Note) : IO Unit := do
  let text := Transcript.ofNotes c.file.isSome c.origin notes
  let screen ← IO.getStdout
  screen.putStr text.screen
  screen.flush
  match c.file with
  | none => return
  | some file =>
    file.putStr text.file
    file.flush

/-- A line of the operator with its line feed; nothing at the end of the input. -/
partial def readLine (input : IO.FS.Stream) (line : List UInt8) : IO (List UInt8) := do
  match (← input.read 1).data.toList with
  | [] => return line.reverse
  | byte :: _ => if byte = 10 then return (byte :: line).reverse else readLine input (byte :: line)

/-- The operator's input came to an end in the chain's last pass. -/
def inputEnded (r : Router Stage) : Bool :=
  match r.pinned with
  | some (.interactive p) => p.ended
  | _ => false

def withLine (r : Router Stage) (line : List UInt8) : Router Stage :=
  match r.pinned with
  | some (.interactive p) =>
    { r with pinned := some (.interactive { p with input := p.input ++ [line] }) }
  | _ => r

/-- Let a message through the chain, asking the operator for as many lines as that takes;
`printed` effects were printed before. -/
partial def route (c : Console) (printed : Nat) (r : Router Stage) (m : Message) (now : Nat) :
    IO (Routed Stage) := do
  let routed := r.route m now
  let w := routed.router.world
  c.print (w.notes.drop printed)
  if inputEnded routed.router then
    let line ← readLine (← IO.getStdin) []
    if !line.isEmpty then return ← route c w.notes.length (withLine r line) m now
  return { routed with router := { routed.router with world := w.drained } }

def settle (c : Console) (r : Replay Stage) : IO (Replay Stage) := do
  c.print r.router.world.notes
  return { r with router := { r.router with world := r.router.world.drained } }

/-- The milliseconds to sleep at once, at most. -/
def longestSleep : Nat := 1000

/-- The replay at its end, in real time. -/
partial def play (c : Console) (start : Nat) (r : Replay Stage) : IO (Replay Stage) := do
  let now ← moment start
  if r.router.exit then settle c r.stopped
  else
    match r.schedule.next (now - c.origin) with
    | .over => return r
    | .deliver entry rest =>
      let routed ← route c 0 r.router entry.message now
      play c start (← settle c (r.afterRoute rest now routed))
    | .tick rest => play c start (← settle c (r.tick rest now))
    | .wait due rest =>
      IO.sleep (UInt32.ofNat (min longestSleep ((due + c.origin - now) / millis 1 + 1)))
      play c start { r with schedule := rest }

def failed (c : Console) (w : World) (message : String) (fault : Fault) : IO UInt32 := do
  c.print (Program.fail w message fault).notes
  return 1

def openOutput (c : SessionConfig) : IO (Except String (Option IO.FS.Handle)) :=
  if c.output = Config.screenOutput || !Storage.isName c.output then return .ok none
  else attempt do return some (← IO.FS.Handle.mk c.output .write)

def session (start : Nat) (config : SessionConfig) (ticks : 1 ≤ config.tickIntervalMs)
    (storage : Storage) (r : Router Stage) : IO UInt32 := do
  let screen : Console := ⟨none, 0⟩
  match Session.load config storage r with
  | (.error fault, r) => failed screen r.world "session failed" fault
  | (.ok capture, r) =>
    let output ← openOutput config
    let opened := { storage with create := fun _ => output.map fun _ => () }
    match Session.outputFault? opened config with
    | some fault => failed screen r.world "session failed" fault
    | none =>
      let c : Console := ⟨output.toOption.bind id, ← moment start⟩
      let replay ← play c start (← settle c (Session.start config ticks capture r))
      c.print (Session.finish replay).2.world.notes
      return 0

def run (args : List String) : IO UInt32 := do
  let start ← IO.monoNanosNow
  let screen : Console := ⟨none, 0⟩
  let w := World.start .reliable .reliable
  let path := Program.configPath args
  match Config.ofFile (← readFiles [path]) path with
  | .error fault => failed screen w "config load failed" fault
  | .ok config =>
    let storage ← readFiles (config.session.capture :: scriptPaths config)
    match Program.buildRouter config storage [] (← moment start) w with
    | (.error fault, r) => failed screen r.world "pipeline setup failed" fault
    | (.ok (), r) => session start config.session config.ticks storage r

end WaylandProxy.Main

def main (args : List String) : IO UInt32 :=
  WaylandProxy.Main.run args
