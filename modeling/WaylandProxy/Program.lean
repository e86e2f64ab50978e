/-
# Program -- from a command line to an exit status

The program takes the path of a configuration, builds the chain of passes that it names and
runs its session.  `buildRouter` sets the passes up in their order and stops at the first that
fails; a failure of a pass is a fault of the configuration whatever its kind.  `run` is the
whole program over the files it can reach and the operator's input: the journal of what it
did, and whether it succeeded.
-/
import WaylandProxy.Config.Read
import WaylandProxy.Pass.Stage
import WaylandProxy.Session.Run
import WaylandProxy.Session.Transcript

namespace WaylandProxy

set_option autoImplicit false

namespace Program

def defaultPath : String := "wlfuzz.yaml"

def configPath (args : List String) : String :=
  args.head?.getD defaultPath

/-- A fault of a pass while it is set up, as a fault of the configuration. -/
def setupFault (name : String) : Fault → Fault
  | .configuration reason => .configuration reason
  | other => .configuration ("pass " ++ name ++ " init failed: " ++ other.text)

def addPass (storage : Storage) (input : List (List UInt8)) (now : Nat) (r : Router Stage)
    (p : PassConfig) : Except Fault Unit × Router Stage :=
  match Stage.make now input p.name with
  | .error fault => (.error fault, r)
  | .ok stage =>
    let (result, r) := r.register storage stage p.args
    (result.mapError (setupFault p.name), r)

/-- Register passes in their order, up to the first that fails. -/
def addPasses (storage : Storage) (input : List (List UInt8)) (now : Nat) :
    List PassConfig → Router Stage → Except Fault Unit × Router Stage
  | [], r => (.ok (), r)
  | p :: rest, r =>
    match addPass storage input now r p with
    | (.error fault, r) => (.error fault, r)
    | (.ok (), r) => addPasses storage input now rest r

def buildRouter (c : Config) (storage : Storage) (input : List (List UInt8)) (now : Nat)
    (w : World) : Except Fault Unit × Router Stage :=
  match addPasses storage input now c.passes (.start .initial w) with
  | (.error fault, r) => (.error fault, r)
  | (.ok (), r) =>
    (.ok (), Session.withWorld r (r.world.log .info .passes "pipeline ready"
      [("passes", .plain (Text.Quoted.list Text.Quoted.text r.passNames))]))

/-- The world with the log entry of a failure that ends the program. -/
def fail (w : World) (message : String) (fault : Fault) : World :=
  w.log .error .program message [("code", .string fault.code), ("error", .plain fault.text)]

structure Outcome where
  world : World
  /-- The session's output goes to this path; absent when it goes to the screen or there was
  no session. -/
  output : Option String
  succeeded : Bool

/-- The path of a configuration's output, unless that is the screen. -/
def outputPath (c : Config) : Option String :=
  if c.session.output = Config.screenOutput then none else some c.session.output

/-- The whole program, when nothing takes time but waiting. -/
def run (args : List String) (storage : Storage) (input : List (List UInt8)) : Outcome :=
  let w := World.start .reliable .reliable
  match Config.ofFile storage (configPath args) with
  | .error fault => ⟨fail w "config load failed" fault, none, false⟩
  | .ok config =>
    match buildRouter config storage input 0 w with
    | (.error fault, r) => ⟨fail r.world "pipeline setup failed" fault, none, false⟩
    | (.ok (), r) =>
      let w := r.world.log .info .program "wlfuzz starting"
        [("config", .plain (configPath args)), ("capture", .plain config.session.capture)]
      match Session.run config.session storage id (Session.withWorld r w) with
      | (.error fault, r) => ⟨fail r.world "session failed" fault, none, false⟩
      | (.ok _, r) => ⟨r.world, outputPath config, true⟩

end Program

end WaylandProxy
