/-
# Input.Options -- the arguments of the fuzz pass

    [block] [verbose] [program=<name>] [delay_min=<ms>] [delay_max=<ms>] <seed|script>

An argument with an equals sign is an option, and the last one given counts.  Of the
others, `block` and `verbose` are flags and exactly one names the input: a seed if it is a
number, else the path of a script.  The arguments are read from the left and the first
one that is wrong is reported; what is missing or does not fit together comes after that.
-/
import WaylandProxy.Fault
import WaylandProxy.Number.Decimal
import WaylandProxy.Text.Blank

namespace WaylandProxy

set_option autoImplicit false

inductive InputMode where
  | seed (value : UInt64)
  | script (path : String)
  deriving DecidableEq, Repr

structure Options where
  /-- Keep the server's own input from the client. -/
  block : Bool
  verbose : Bool
  program : Option String
  /-- The bounds of a random delay, in milliseconds. -/
  delayMin : UInt64
  delayMax : UInt64
  mode : InputMode
  deriving DecidableEq, Repr

namespace Options

inductive Refusal where
  | emptyProgram
  | number (key text : String) (flaw : Number.Decimal.Flaw)
  | unknown (key : String)
  | secondInput (first second : String)
  | missingInput
  | delayOrder
  deriving DecidableEq, Repr

def Refusal.text : Refusal → String
  | .emptyProgram => "fuzz: program= needs a name"
  | .number key text flaw => "fuzz: " ++ key ++ "=" ++ text ++ ": " ++ flaw.text
  | .unknown key => "fuzz: unknown option " ++ key
  | .secondInput first second =>
    "fuzz: more than one seed/script given (" ++ first ++ ", " ++ second ++ ")"
  | .missingInput => "fuzz: missing random seed or script path"
  | .delayOrder => "fuzz: delay_min must not exceed delay_max"

def Refusal.fault (r : Refusal) : Fault :=
  .configuration r.text

structure Given where
  block : Bool
  verbose : Bool
  program : Option String
  delayMin : UInt64
  delayMax : UInt64
  input : Option String
  deriving DecidableEq, Repr

def Given.initial : Given where
  block := false
  verbose := false
  program := none
  delayMin := 10
  delayMax := 1000
  input := none

def readMillis (key text : String) : Except Refusal UInt64 :=
  (Number.Decimal.readU64 text).mapError fun flaw => .number key text flaw

/-- One more argument, split at its first equals sign. -/
def Given.withArgument (p : Given) (argument : String) : Except Refusal Given :=
  match Text.cut? (· == '=') argument with
  | some (key, value) =>
    if key = "program" then
      if value.isEmpty then .error .emptyProgram else .ok { p with program := some value }
    else if key = "delay_min" then
      (readMillis key value).map fun delay => { p with delayMin := delay }
    else if key = "delay_max" then
      (readMillis key value).map fun delay => { p with delayMax := delay }
    else .error (.unknown key)
  | none =>
    if argument = "block" then .ok { p with block := true }
    else if argument = "verbose" then .ok { p with verbose := true }
    else
      match p.input with
      | some first => .error (.secondInput first argument)
      | none => .ok { p with input := some argument }

def readMode (input : String) : InputMode :=
  match Number.Decimal.readU64 input with
  | .ok seed => .seed seed
  | .error _ => .script input

def Given.finish (p : Given) : Except Refusal Options :=
  match p.input with
  | none => .error .missingInput
  | some input =>
    if p.delayMax < p.delayMin then .error .delayOrder
    else .ok ⟨p.block, p.verbose, p.program, p.delayMin, p.delayMax, readMode input⟩

def read (args : List String) : Except Refusal Options := do
  let given ← args.foldlM Given.withArgument Given.initial
  given.finish

/-- The options of an argument list, or a fault of the configuration. -/
def parse (args : List String) : Except Fault Options :=
  (read args).mapError Refusal.fault

end Options

end WaylandProxy
