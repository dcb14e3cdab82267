/-
Programs: scripts for the shell, the shell itself, and some that do little.

A program is named by a path, or looked up in the directories of the
environment. A script says in its first line, after `#!`, which program runs it;
that may be a script too, but in the end it is none.
-/

import WatInlay.FileSystem
import WatInlay.Script.Language

namespace WatInlay.Script

/-- A program that is no script. -/
inductive Native where
  | shell
  /-- Starts the program of a name, which is looked up. -/
  | starter
  /-- Ends at once. -/
  | ender (status : Nat)
  deriving DecidableEq, Repr

/-- What comes of starting a program. -/
inductive Started where
  /-- The shell runs when it is given these words. -/
  | shell (words : List Raw)
  /-- The program ends at once with an error message. -/
  | ended (status : Nat) (message : Text)
  deriving DecidableEq, Repr

/-- Where programs are found, and what they are told. -/
structure Environment where
  /-- The directories that programs are looked up in. -/
  searchPath : List Path
  /-- Where the programs stand that are no scripts. -/
  natives : List (Place × Native)
  /-- The values of other variables. -/
  bindings : List (Raw × Raw) := []
  deriving DecidableEq, Repr

/-! ### What programs are given -/

/-- What a program is given: its name and arguments, and variables. -/
structure Given where
  words : List Raw
  bindings : List (Raw × Raw)
  deriving DecidableEq, Repr

namespace Given

/-- The size that no word or variable exceeds, with a character at its end. -/
def textLimit : Nat :=
  131072

/-- The size that all together do not exceed. -/
def limit : Nat :=
  2097152

/-- The sizes of all texts for the program at a path, with a character at the end of
each. -/
def sizes (g : Given) (path : Path) : List Nat :=
  (Text.size path + 1) :: g.words.map (·.length + 1) ++
    g.bindings.map fun (name, value) => name.length + value.length + 2

/-- Whether a program at a path can be given this. An address of eight bytes belongs to
each text but the path. -/
def fits (g : Given) (path : Path) : Bool :=
  let sizes := g.sizes path
  sizes.all (· ≤ textLimit) &&
    sizes.foldl (· + ·) 0 + 8 * (g.words.length + g.bindings.length) ≤ limit

end Given

/-! ### The first line of a script -/

/-- What runs a script, as its first line says. -/
structure Runner where
  path : Raw
  /-- All else on the line, as one argument. -/
  argument : Option Raw
  deriving DecidableEq, Repr

namespace Runner

/-- How much of a script is looked at. -/
def lookedAt : Nat :=
  256

/-- White space on the line. -/
def isBlank (c : Char) : Bool :=
  c == ' ' || c == '\t'

/-- What a text names that is without white space at its end. A null character ends what
it is in. -/
def ofText? (t : Raw) : Option Runner :=
  let t := t.dropWhile isBlank
  let path := t.takeWhile fun c => !isBlank c && c != '\x00'
  match t, t.drop path.length with
  | [], _ => none
  | _, [] => some { path, argument := none }
  | _, c :: rest =>
    if c == '\x00' then some { path, argument := none }
    else some { path, argument := some ((rest.dropWhile isBlank).takeWhile (· != '\x00')) }

/-- What runs the script with these contents; `none` when they are no script. Null
characters follow short contents. Of a line that does not end in what is looked at, the
last character does not count, and the path must end before it. -/
def ofContents? (contents : Bytes) : Option Runner :=
  match Raw.ofBytes (contents.take lookedAt) with
  | '#' :: '!' :: rest =>
    let line := rest.takeWhile fun c => c != '\n' && c != '\x00'
    match rest.drop line.length with
    | '\n' :: _ => ofText? (Text.dropEndWhile isBlank line)
    | _ =>
      let line := rest ++ List.replicate (lookedAt - 2 - rest.length) '\x00'
      if (line.dropWhile isBlank).any fun c => isBlank c || c == '\x00' then
        ofText? (Text.dropEndWhile isBlank line.dropLast)
      else none
  | _ => none

end Runner

/-! ### Starting programs -/

namespace Environment

/-- The place and the contents of the program file at a path, unless it is `busy`. -/
def openProgram (files : FileSystem) (busy : Place → Bool) (path : Path) :
    Except IoFault (Place × Bytes) := do
  let place ← files.locate path
  match files.node? place with
  | none => throw (.system .notFound)
  | some .folder => throw (.system .accessDenied)
  | some (.file contents executable) =>
    if !executable then throw (.system .accessDenied)
    if busy place then throw (.system .textBusy)
    return (place, contents)

/-- What comes of starting the program of a name, when `start` starts the one at a path. A
name with a slash is a path; any other is looked up, and a file that is not executable is
only reported when no later directory has the program. -/
def startFound {α : Type} (directories : List Path) (start : Path → Except IoFault α)
    (name : Text) : Except IoFault α :=
  if name.isEmpty then .error (.system .notFound)
  else if '/' ∈ name then start name
  else
    directories.foldl
      (fun found directory =>
        match found with
        | .ok a => .ok a
        | .error e =>
          match start (Path.join directory name) with
          | .ok a => .ok a
          | .error (.system e') =>
            if e' = .notFound ∨ e' = .notDirectory then .error e else .error (.system e')
          | .error e' => .error e')
      (.error (.system .notFound))

/-- What the program says that starts others, when it cannot start one. A name with white
space in it comes from the first line of a script. -/
def notStarted (starter name : Raw) (fault : IoFault) : Started :=
  let said (t : Text) : Text := Raw.toText starter ++ ": ".toList ++ t ++ ['\n']
  let reason := match fault with
    | .system e => e.description
    | other => other.message
  let message := said ('\'' :: Raw.toText name ++ "': ".toList ++ reason)
  if fault = .system .notFound then
    let advice := if name.any Char.isWhitespace then
        said "use -[v]S to pass options in shebang lines".toList
      else []
    .ended 127 (message ++ advice)
  else .ended 126 message

/-- How many scripts may run each other. -/
def levels : Nat :=
  5

/-- What comes of a program when it is given `words`, the first of which is its name, and
`left` more scripts may run each other. A script's runner is given the path of the script in
the place of its name, after what else stands in the first line. A runner without a path is
the working directory, which is no program. -/
def run (env : Environment) (files : FileSystem) (busy : Place → Bool) (directories : List Path)
    (n left : Nat) (program : Place × Bytes) (path : Path) (words : List Raw) :
    Except IoFault Started := do
  match n with
  | 0 => throw (.system .tooManyLevels)
  | n + 1 =>
    match env.natives.lookup program.1 with
    | some .shell => return .shell words
    | some (.ender status) => return .ended status []
    | some .starter =>
      match words with
      | starter :: name :: arguments =>
        let start (path : Path) : Except IoFault Started := do
          let program ← openProgram files busy path
          match run env files busy directories n levels program path (name :: arguments) with
          | .error (.system e) =>
            if e = .badFormat then
              return .shell ("/bin/sh".toList :: Raw.ofText path :: arguments)
            else throw (.system e)
          | started => started
        match startFound directories start (Raw.toText name) with
        | .ok started => return started
        | .error fault => return notStarted starter name fault
      | _ => return .ended 0 []
    | none =>
      match Runner.ofContents? program.2 with
      | none => throw (.system .badFormat)
      | some runner =>
        let path' := if runner.path.isEmpty then ['.'] else Raw.toText runner.path
        let program' ← openProgram files busy path'
        match left with
        | 0 => throw (.system .tooManyLevels)
        | left + 1 =>
          run env files busy directories n left program' path'
            (runner.path :: runner.argument.toList ++ Raw.ofText path :: words.drop 1)

/-- How many programs may take each other's place before one of them goes on. -/
def runBound : Nat :=
  1000

/-- What comes of starting the program at a path. -/
def start (env : Environment) (files : FileSystem) (busy : Place → Bool) (path : Path)
    (given : Given) : Except IoFault Started := do
  let program ← openProgram files busy path
  if !given.fits path then throw (.system .argumentsTooLong)
  let directories := match given.bindings.lookup "PATH".toList with
    | some t => (Raw.pieces ':' t).map Raw.toText
    | none => ["/bin".toList, "/usr/bin".toList]
  run env files busy directories runBound levels program path given.words

/-- What comes of starting the program of a name. -/
def startNamed (env : Environment) (files : FileSystem) (name : Text) (given : Given) :
    Except IoFault Started :=
  startFound env.searchPath (fun path => env.start files (fun _ => false) path given) name

/-- The first of some directories' files of a name that can be run as a program, for
a shell that looks for it. A directory without a path stands for the working
directory. -/
def locate (directories : List Path) (files : FileSystem) (name : Text) :
    Except OsError Path :=
  directories.foldl
    (fun found directory =>
      match found with
      | .ok path => .ok path
      | .error e =>
        let path := Path.join directory name
        match files.locate path with
        | .error (.system e') => .error (if isAbsence e' then e else e')
        | .error _ => .error e
        | .ok place =>
          match files.node? place with
          | none => .error e
          | some (.file _ true) => .ok path
          | some _ => .error .accessDenied)
    (.error .notFound)
where
  /-- Whether the error only says that there is nothing. -/
  isAbsence (e : OsError) : Bool :=
    e == .notFound || e == .notDirectory

end Environment

end WatInlay.Script
