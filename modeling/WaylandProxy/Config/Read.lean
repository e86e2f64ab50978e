/-
# Config.Read -- a configuration from its text

A configuration is written as a document with fixed fields: none that is not known, none
twice, none missing but those with a default.  A text field takes any scalar as its text.
A program may be null, a number is a whole one and not quoted, in decimal or with a prefix
for another radix, and a decimal does not begin with a zero unless it is zero.  What is
left out where fields or a list are expected has no fields and no items.
-/
import WaylandProxy.Config.Basic
import WaylandProxy.Number.Decimal
import WaylandProxy.Storage
import WaylandProxy.Yaml.Node

namespace WaylandProxy

set_option autoImplicit false

open Yaml (Node Document)
open Yaml.Document (Visit)

namespace Config

def isAbsent : Node → Bool
  | .scalar text style _ => text.isEmpty && style = .plain
  | _ => false

def nullTexts : List String :=
  ["null", "Null", "NULL", "~"]

/-- The text that a scalar is, or nothing where it is null. -/
def textOrNull? (text : String) (style : Yaml.Style) (tag : Option String) :
    Option (Option String) :=
  match style, tag with
  | .plain, none => some (if text.isEmpty || nullTexts.contains text then none else some text)
  | .plain, some tag =>
    if tag = "tag:yaml.org,2002:null" then (if nullTexts.contains text then some none else none)
    else some (some text)
  | _, _ => some (some text)

/-- The value of digits in a radix, without a sign. -/
def digits? (radix bound : Nat) (s : List Char) : Option Nat :=
  (Number.Decimal.readDigits radix bound s).toOption

/-- More than one digit, the first of them zero. -/
def hasLeadingZero (s : List Char) : Bool :=
  1 < s.length && s.head? = some '0' && s.all Char.isDigit

def wholeNumber? (bound : Nat) (s : List Char) : Option Nat :=
  let unsigned := if s.head? = some '+' then s.tail else s
  let decimal := if hasLeadingZero unsigned then none else digits? 10 bound unsigned
  match unsigned with
  | '0' :: 'x' :: rest => (digits? 16 bound rest).orElse fun _ => decimal
  | '0' :: 'o' :: rest => (digits? 8 bound rest).orElse fun _ => decimal
  | '0' :: 'b' :: rest => (digits? 2 bound rest).orElse fun _ => decimal
  | _ => decimal

def numberOf? (bound : Nat) (text : String) (style : Yaml.Style) (tag : Option String) :
    Option Nat :=
  if style = .plain || (style = .literal && tag = some "tag:yaml.org,2002:int") then
    wholeNumber? bound text.toList
  else none

variable (d : Document)

def readText (node : Node) : Visit String := do
  match ← d.follow node with
  | .scalar text _ _ => pure text
  | _ => failure

def readOptionalText (node : Node) : Visit (Option String) := do
  match ← d.follow node with
  | .scalar text style tag => (textOrNull? text style tag).elim failure pure
  | _ => failure

def readNumber (bound : Nat) (node : Node) : Visit Nat := do
  match ← d.follow node with
  | .scalar text style tag => (numberOf? bound text style tag).elim failure pure
  | _ => failure

def readList {α : Type} (each : Node → Visit α) (node : Node) : Visit (List α) := do
  match ← d.follow node with
  | .sequence items => items.mapM each
  | node => if isAbsent node then pure [] else failure

/-- The fields of a node by name: each of the known ones at most once, and no other. -/
def readFields (known : List String) (node : Node) : Visit (List (String × Node)) := do
  match ← d.follow node with
  | .mapping pairs =>
    let fields ← pairs.mapM fun (key, value) => do
      let name ← readText d key
      if known.contains name then pure (name, value) else failure
    if (fields.map Prod.fst).eraseDups.length = fields.length then pure fields else failure
  | node => if isAbsent node then pure [] else failure

def required {α : Type} (fields : List (String × Node)) (name : String)
    (read : Node → Visit α) : Visit α :=
  match fields.lookup name with
  | some node => read node
  | none => failure

def optional {α : Type} (fields : List (String × Node)) (name : String) (read : Node → Visit α)
    (default : α) : Visit α :=
  match fields.lookup name with
  | some node => read node
  | none => pure default

def readPass (node : Node) : Visit PassConfig := do
  let fields ← readFields d ["name", "args"] node
  let name ← required fields "name" (readText d)
  let args ← optional fields "args" (readList d (readText d)) []
  return ⟨name, args⟩

def readSession (node : Node) : Visit SessionConfig := do
  let fields ← readFields d ["capture", "output", "program", "tick_interval_ms", "linger_ms"] node
  let capture ← required fields "capture" (readText d)
  let output ← optional fields "output" (readText d) screenOutput
  let program ← optional fields "program" (readOptionalText d) none
  let tick ← optional fields "tick_interval_ms" (readNumber d UInt64.size) 5
  let linger ← optional fields "linger_ms" (readNumber d UInt64.size) 0
  return ⟨capture, output, program, UInt64.ofNat tick, UInt64.ofNat linger⟩

def readRoot (node : Node) : Visit Config := do
  let fields ← readFields d ["version", "session", "passes"] node
  let version ← required fields "version" (readNumber d UInt32.size)
  let session ← required fields "session" (readSession d)
  let passes ← optional fields "passes" (readList d (readPass d)) []
  return ⟨UInt32.ofNat version, session, passes⟩

def ofDocument? : Option Config :=
  d.visit (readRoot d)

/-- The configuration that a text is, once it has been validated. -/
def read (text : String) : Except Refusal ValidConfig :=
  match (Yaml.parse text).bind ofDocument? with
  | none => .error .unreadable
  | some config =>
    match valid : config.refusal? with
    | some refusal => .error refusal
    | none => .ok ⟨config, valid⟩

def ofText (text : String) : Except Fault ValidConfig :=
  (read text).mapError Refusal.fault

def ofFile (storage : Storage) (path : String) : Except Fault ValidConfig :=
  match storage.readText path with
  | .error reason => .error (.configuration ("read config " ++ path ++ " failed: " ++ reason))
  | .ok text => ofText text

end Config

end WaylandProxy
