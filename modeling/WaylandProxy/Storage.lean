/-
# Storage -- files by name

What a run reads and where it writes is given from outside: `read` answers the bytes
behind a path or the reason why there are none, `create` whether a path can be written
anew.  A path with a null character names no file anywhere, so nobody is asked about it
(`readBytes`, `makeAnew`).  Text is read as UTF-8, and anything else is refused as a whole.

`Refusal` lists the usual reasons, with the numbers by which a system knows them.
-/
import WaylandProxy.Text.Utf8

namespace WaylandProxy

set_option autoImplicit false

/-- The files that a run can reach. -/
structure Storage where
  /-- The bytes behind a path, or why they cannot be read. -/
  read : String → Except String (List UInt8)
  /-- Why a path cannot be written anew, if it cannot. -/
  create : String → Except String Unit

namespace Storage

/-- Why a path leads nowhere, or not to what was asked for. -/
inductive Refusal where
  | missing
  | denied
  | notDirectory
  | directory
  | longName
  deriving DecidableEq, Repr

namespace Refusal

def all : List Refusal :=
  [.missing, .denied, .notDirectory, .directory, .longName]

def number : Refusal → Nat
  | .missing => 2
  | .denied => 13
  | .notDirectory => 20
  | .directory => 21
  | .longName => 36

def summary : Refusal → String
  | .missing => "No such file or directory"
  | .denied => "Permission denied"
  | .notDirectory => "Not a directory"
  | .directory => "Is a directory"
  | .longName => "File name too long"

/-- The wording of something that a system refuses by a number. -/
def wording (summary : String) (number : Nat) : String :=
  summary ++ " (os error " ++ toString number ++ ")"

def text (r : Refusal) : String :=
  wording r.summary r.number

def ofNumber? (number : Nat) : Option Refusal :=
  all.find? fun r => r.number = number

end Refusal

/-- The path can name a file: it has no null character. -/
def isName (path : String) : Bool :=
  path.toList.all fun c => c.toNat ≠ 0

/-- The reason for refusing a path that names no file. -/
def notName : String := "file name contained an unexpected NUL byte"

/-- The bytes behind a path, or why they cannot be read. -/
def readBytes (s : Storage) (path : String) : Except String (List UInt8) :=
  if isName path then s.read path else .error notName

/-- Why a path cannot be written anew, if it cannot. -/
def makeAnew (s : Storage) (path : String) : Except String Unit :=
  if isName path then s.create path else .error notName

def notText : String := "stream did not contain valid UTF-8"

/-- The text behind a path, or why it cannot be read. -/
def readText (s : Storage) (path : String) : Except String String :=
  match s.readBytes path with
  | .error reason => .error reason
  | .ok bytes =>
    match Text.Utf8.decode? bytes with
    | some text => .ok text
    | none => .error notText

end Storage

end WaylandProxy
