/-
# Storage.Tree -- files held in memory

A tree lists paths, each a directory or a file with its bytes; a path is the list of names
from the root.  Of two entries for one path the first counts.  A written path is walked name
by name: a single dot stays where it is, two dots go back up, and everything but the last
name has to be a directory.

The tree lies somewhere in a greater one, of which it knows only that there are directories
above its root, and that there is a topmost one, where a path leads that begins with a slash.
They are written as paths of double dots and as a name that is a slash; nothing else is found in
them.

`storage` is the tree as a run sees it, and `write` the tree after a file was written.
-/
import WaylandProxy.Storage

namespace WaylandProxy.Storage

set_option autoImplicit false

/-- Files and directories by their paths; a directory has no bytes. -/
structure Tree where
  entries : List (List String × Option (List UInt8))

namespace Tree

/-- The names of a written path. -/
def namesOf (path : String) : List String :=
  path.splitOn "/"

/-- Names that say nothing about where a path leads. -/
def isIdle (name : String) : Bool :=
  name = "" || name = "."

/-- The tree of files and directories, with the directories that they lie in. -/
def ofFiles (files : List (String × Option (List UInt8))) : Tree :=
  let named := files.map fun (path, content) => ((namesOf path).filter (!isIdle ·), content)
  let parents := named.flatMap fun (path, _) =>
    (List.range path.length).map fun n => (path.take n, none)
  ⟨named ++ parents⟩

/-- The topmost directory of the greater tree. -/
def top : List String := ["/"]

/-- The root of the tree, or a directory above it. -/
def isAbove (path : List String) : Bool :=
  path = top || path.all (· = "..")

def entry? (t : Tree) (path : List String) : Option (Option (List UInt8)) :=
  if isAbove path then some none else t.entries.lookup path

def parent (path : List String) : List String :=
  if path = top then top else if isAbove path then path ++ [".."] else path.dropLast

/-- Where a written path begins. -/
def origin (path : String) : List String :=
  if path.startsWith "/" then top else []

/-- Where names lead from a path, and what is there. -/
def walk (t : Tree) : List String → List String →
    Except Refusal (List String × Option (List UInt8))
  | here, [] =>
    match t.entry? here with
    | some content => .ok (here, content)
    | none => .error .missing
  | here, name :: rest =>
    match t.entry? here with
    | none => .error .missing
    | some (some _) => .error .notDirectory
    | some none =>
      if isIdle name then walk t here rest
      else if name = ".." then walk t (parent here) rest
      else if 255 < name.utf8ByteSize then .error .longName
      else walk t (here ++ [name]) rest

/-- Why a written path cannot even be walked. -/
def refusal? (path : String) : Option Refusal :=
  if path.isEmpty then some .missing
  else if 4095 < path.utf8ByteSize then some .longName
  else none

/-- The bytes of the file that a path leads to. -/
def read (t : Tree) (path : String) : Except Refusal (List UInt8) :=
  match refusal? path with
  | some refusal => .error refusal
  | none =>
    match t.walk (origin path) (namesOf path) with
    | .error refusal => .error refusal
    | .ok (_, none) => .error .directory
    | .ok (_, some content) => .ok content

/-- Where a file of this path is written: the path of a directory and a name in it that is
no directory. -/
def place (t : Tree) (path : String) : Except Refusal (List String) :=
  match refusal? path with
  | some refusal => .error refusal
  | none =>
    let names := (namesOf path).reverse.dropWhile (· = "")
    let name := names.head?.getD ""
    match t.walk (origin path) names.tail.reverse with
    | .error refusal => .error refusal
    | .ok (_, some _) => .error .notDirectory
    | .ok (here, none) =>
      if path.endsWith "/" || isIdle name || name = ".." then .error .directory
      else if 255 < name.utf8ByteSize then .error .longName
      else
        match t.entry? (here ++ [name]) with
        | some none => .error .directory
        | _ => .ok (here ++ [name])

/-- The tree after a file was written, if it can be. -/
def write (t : Tree) (path : String) (content : List UInt8) : Tree :=
  match t.place path with
  | .ok target => ⟨(target, some content) :: t.entries⟩
  | .error _ => t

def storage (t : Tree) : Storage where
  read path := (t.read path).mapError Refusal.text
  create path := ((t.place path).mapError Refusal.text).map fun _ => ()

end Tree

end WaylandProxy.Storage
