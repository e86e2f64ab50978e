/-
# Config.Basic -- what a session is configured with

A configuration says which capture to replay, where the output goes, how often the passes
get their idle opportunity, and which passes there are, in which order.  `refusal?` names
what cannot work, in a fixed order: the version, that there are passes at all, the session,
each pass by name, and that only one pass wants to be the last.  A `ValidConfig` carries the
proof that none of this is the case.
-/
import WaylandProxy.Fault

namespace WaylandProxy

set_option autoImplicit false

structure PassConfig where
  name : String
  args : List String
  deriving DecidableEq, Repr

structure SessionConfig where
  /-- The capture that is replayed. -/
  capture : String
  /-- Where forwarded messages go; a hyphen is the screen. -/
  output : String
  /-- The program name of the client's connection. -/
  program : Option String
  /-- The period of the idle opportunities, in milliseconds. -/
  tickIntervalMs : UInt64
  /-- How long the session goes on after the capture, in milliseconds. -/
  lingerMs : UInt64
  deriving DecidableEq, Repr

structure Config where
  version : UInt32
  session : SessionConfig
  passes : List PassConfig
  deriving DecidableEq, Repr

namespace Config

def knownPasses : List String :=
  ["trace", "fuzz", "interactive"]

/-- Where output goes that is not given a path. -/
def screenOutput : String := "-"

inductive Refusal where
  | unreadable
  | version (actual : UInt32)
  | noPasses
  | emptyCapture
  | emptyOutput
  | tickInterval
  | linger
  | unknownPass (name : String)
  | interactiveTwice
  deriving DecidableEq, Repr

def Refusal.text : Refusal → String
  | .unreadable => "invalid yaml"
  | .version actual => "unsupported config version " ++ toString actual
  | .noPasses => "passes must not be empty"
  | .emptyCapture => "session.capture must not be empty"
  | .emptyOutput => "session.output must not be empty"
  | .tickInterval => "session.tick_interval_ms must be between 1 and 1000"
  | .linger => "session.linger_ms must be at most 600000"
  | .unknownPass name =>
    "unknown pass " ++ name ++ " (known: " ++ ", ".intercalate knownPasses ++ ")"
  | .interactiveTwice => "interactive may be configured only once"

def Refusal.fault (r : Refusal) : Fault :=
  .configuration r.text

end Config

def SessionConfig.refusal? (s : SessionConfig) : Option Config.Refusal :=
  if s.capture.isEmpty then some .emptyCapture
  else if s.output.isEmpty then some .emptyOutput
  else if s.tickIntervalMs < 1 ∨ 1000 < s.tickIntervalMs then some .tickInterval
  else if 600000 < s.lingerMs then some .linger
  else none

namespace Config

/-- The first name that no pass has. -/
def unknownPass? (passes : List PassConfig) : Option String :=
  (passes.map PassConfig.name).find? fun name => !knownPasses.contains name

def refusal? (c : Config) : Option Refusal :=
  if c.version ≠ 1 then some (.version c.version)
  else if c.passes.isEmpty then some .noPasses
  else
    match c.session.refusal? with
    | some refusal => some refusal
    | none =>
      match unknownPass? c.passes with
      | some name => some (.unknownPass name)
      | none =>
        if 1 < c.passes.countP (fun p => p.name = "interactive") then some .interactiveTwice
        else none

end Config

/-- A configuration with which nothing is wrong. -/
structure ValidConfig extends Config where
  valid : toConfig.refusal? = none

instance : Coe ValidConfig Config :=
  ⟨ValidConfig.toConfig⟩

theorem SessionConfig.ticks_of_valid {s : SessionConfig} (valid : s.refusal? = none) :
    1 ≤ s.tickIntervalMs := by
  unfold refusal? at valid
  by_cases outside : s.tickIntervalMs < 1 ∨ 1000 < s.tickIntervalMs
  · rw [if_pos outside] at valid
    split at valid
    · cases valid
    · split at valid <;> cases valid
  · exact UInt64.not_lt.1 fun below => outside (.inl below)

/-- The idle opportunities of a valid configuration's session come with a period. -/
theorem ValidConfig.ticks (c : ValidConfig) : 1 ≤ c.session.tickIntervalMs := by
  have valid := c.valid
  unfold Config.refusal? at valid
  cases session : c.session.refusal? with
  | none => exact SessionConfig.ticks_of_valid session
  | some refusal =>
      rw [session] at valid
      split at valid
      · cases valid
      · split at valid <;> cases valid

end WaylandProxy
