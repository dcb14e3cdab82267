/-
What the tool does to files, and the programs it starts.

A session holds the files and keeps a record of every change that the tool
itself makes and of every program that it starts. Programs are arbitrary
functions of their arguments and the files; what they change is not recorded.

A write fails where the path leads to no file that could be written. Whatever else
makes writes fail, a full disk or a file that is protected, is a parameter
(`Refusals`), and where it is left open nothing else does.
-/

import WatInlay.FileSystem

namespace WatInlay

/-- How a program ended. -/
structure Exit where
  success : Bool
  /-- What it wrote to its standard error. -/
  errors : Bytes
  deriving DecidableEq, Repr

/-- Starts the program of a name with arguments: how it ends and which files it
leaves, or why it could not be started. -/
abbrev Launcher := Text → List Text → FileSystem → Except IoFault (Exit × FileSystem)

/-- Why a file is refused the contents that the tool writes to it, among these files,
though its path is good; nothing where it is not. -/
abbrev Refusals := Path → Bytes → FileSystem → Option IoFault

namespace Refusals

/-- Nothing is ever refused. -/
def never : Refusals := fun _ _ _ => none

/-- The files with new contents for the file at a path, unless these are refused. -/
def write (refusals : Refusals) (files : FileSystem) (path : Path) (contents : Bytes) :
    Except IoFault FileSystem :=
  match refusals path contents files with
  | some e => .error e
  | none => files.write path contents

end Refusals

/-- One thing that the tool did. -/
inductive Action where
  | wrote (path : Path) (contents : Bytes)
  | removed (path : Path)
  /-- A program was started, or could not be. -/
  | launched (program : Text) (arguments : List Text)
  deriving DecidableEq, Repr

/-- The files, and what the tool did so far, in order. -/
structure Session where
  files : FileSystem
  actions : List Action := []

namespace Session

/-- The session after one more action, which left these files. -/
def after (s : Session) (action : Action) (files : FileSystem) : Session where
  files
  actions := s.actions ++ [action]

/-- Writes a whole file. A write that fails changes nothing. -/
def write (s : Session) (path : Path) (contents : Bytes) (refusals : Refusals := .never) :
    Except IoFault Session :=
  match refusals.write s.files path contents with
  | .error e => .error e
  | .ok files => .ok (s.after (.wrote path contents) files)

/-- Removes the file at a path, when there is something. -/
def clear (s : Session) (path : Path) : Except IoFault Session :=
  if s.files.exists? path then
    match s.files.remove path with
    | .error e => .error e
    | .ok files => .ok (s.after (.removed path) files)
  else .ok s

/-- Removes the file at a path if that is possible. -/
def discard (s : Session) (path : Path) : Session :=
  match s.clear path with
  | .error _ => s
  | .ok s => s

/-- Starts a program. -/
def launch (launcher : Launcher) (s : Session) (program : Text) (arguments : List Text) :
    Except IoFault Exit × Session :=
  match launcher program arguments s.files with
  | .error e => (.error e, s.after (.launched program arguments) s.files)
  | .ok (exit, files) => (.ok exit, s.after (.launched program arguments) files)

end Session

end WatInlay
