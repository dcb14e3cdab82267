/-
Files and directories, as a map from places to what stands there.

A place is a list of names from the root; a path is read from the working
directory unless it is absolute, name by name, and every name but the last must
lead through a directory. There are no links. Two file systems that hold the
same at every place are equal.
-/

import Std.Data.ExtTreeMap
import WatInlay.Error
import WatInlay.Text.Utf8

namespace WatInlay

/-- Names from the root. -/
abbrev Place := List Text

/-- What stands at a place. -/
inductive Node where
  | folder
  | file (contents : Bytes) (executable : Bool)
  deriving DecidableEq, Repr

/-- Files and directories, and the working directory. -/
structure FileSystem where
  nodes : Std.ExtTreeMap Place Node := ∅
  here : Place := []

namespace FileSystem

/-- What stands at a place. The root is a directory. -/
def node? (fs : FileSystem) (place : Place) : Option Node :=
  if place = [] then some .folder else fs.nodes[place]?

/-- The size of the longest name, in bytes. -/
def nameLimit : Nat :=
  255

/-- Paths are shorter than this, in bytes. -/
def pathLimit : Nat :=
  4096

/-- Follows names from a place. Each name must be taken in a directory; the last
place need not exist. -/
def walk (fs : FileSystem) : Place → List Text → Except IoFault Place
  | place, [] => .ok place
  | place, name :: names =>
    match fs.node? place with
    | none => .error (.system .notFound)
    | some (.file _ _) => .error (.system .notDirectory)
    | some .folder =>
      if name = [] ∨ name = ['.'] then walk fs place names
      else if name = ['.', '.'] then walk fs place.dropLast names
      else if nameLimit < name.size then .error (.system .nameTooLong)
      else walk fs (place ++ [name]) names

/-- What is wrong with a path, whatever there is. -/
def pathFault? (path : Path) : Option IoFault :=
  if '\x00' ∈ path then some .pathHoldsNul
  else if path = [] then some (.system .notFound)
  else if pathLimit ≤ Text.size path then some (.system .nameTooLong)
  else none

/-- Follows a path from the root or the working directory. -/
def follow (fs : FileSystem) (path : Path) : Except IoFault Place :=
  fs.walk (if Path.IsAbsolute path then [] else fs.here) (Path.split path)

/-- The place that a path leads to. -/
def locate (fs : FileSystem) (path : Path) : Except IoFault Place :=
  match pathFault? path with
  | some e => .error e
  | none => fs.follow path

/-- What a path leads to, if anything. -/
def find? (fs : FileSystem) (path : Path) : Option Node :=
  match fs.locate path with
  | .ok place => fs.node? place
  | .error _ => none

/-- Whether a path leads to a file or directory. -/
def exists? (fs : FileSystem) (path : Path) : Bool :=
  (fs.find? path).isSome

/-- The contents of the file at a path. -/
def read (fs : FileSystem) (path : Path) : Except IoFault Bytes :=
  match fs.locate path with
  | .error e => .error e
  | .ok place =>
    match fs.node? place with
    | none => .error (.system .notFound)
    | some .folder => .error (.system .isDirectory)
    | some (.file contents _) => .ok contents

/-- The text of the file at a path. -/
def readText (fs : FileSystem) (path : Path) : Except IoFault Text :=
  match fs.read path with
  | .error e => .error e
  | .ok contents =>
    match Text.ofBytes? contents with
    | some t => .ok t
    | none => .error .notText

/-- The file system with `node` at a place other than the root. -/
def set (fs : FileSystem) (place : Place) (node : Node) : FileSystem :=
  { fs with nodes := fs.nodes.insert place node }

/-- The place of the file that a path is to be written to. A path that ends in a slash
names no file, whatever its last name is. -/
def locateForWriting (fs : FileSystem) (path : Path) : Except IoFault Place :=
  match pathFault? path, Path.unslashed? path with
  | some e, _ => .error e
  | none, none => fs.follow path
  | none, some p =>
    match fs.follow p.directory with
    | .error e => .error e
    | .ok _ => .error (.system .isDirectory)

/-- The file system with new contents for the file at a path, which is created
when it does not exist. -/
def write (fs : FileSystem) (path : Path) (contents : Bytes) : Except IoFault FileSystem :=
  match fs.locateForWriting path with
  | .error e => .error e
  | .ok place =>
    match fs.node? place with
    | some .folder => .error (.system .isDirectory)
    | some (.file _ executable) => .ok (fs.set place (.file contents executable))
    | none => .ok (fs.set place (.file contents false))

/-- The file system without the file at a path. -/
def remove (fs : FileSystem) (path : Path) : Except IoFault FileSystem :=
  match fs.locate path with
  | .error e => .error e
  | .ok place =>
    match fs.node? place with
    | none => .error (.system .notFound)
    | some .folder => .error (.system .isDirectory)
    | some (.file _ _) => .ok { fs with nodes := fs.nodes.erase place }

/-- The file system with `node` where the names lead from a place, and with
directories on the way to it where there is nothing. -/
def build (fs : FileSystem) (place : Place) (names : List Text) (node : Node) : FileSystem :=
  match names with
  | [] => if place = [] then fs else fs.set place node
  | name :: names =>
    let fs := if (fs.node? place).isSome then fs else fs.set place .folder
    build fs (place ++ [name]) names node

/-- Everything below a place, by the names that lead there from it. -/
def below (fs : FileSystem) (place : Place) : List (Place × Node) :=
  fs.nodes.toList.filterMap fun (p, node) =>
    match place.isPrefixOf? p with
    | some (name :: names) => some (name :: names, node)
    | _ => none

end FileSystem

end WatInlay
