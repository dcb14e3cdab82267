/-
The state of a running shell.

A shell is a process: `Process` is what belongs to it alone, and what a copy of
it takes along. Files, open files and signals on their way are shared by all
processes. Several descriptors may share one open file and its position, also
across processes; `Handle` is the open file, and descriptors name handles by
number.

A command in the background is set aside as a copy of the process, and runs when
the shell waits for it, or else after the shell's own end.
-/

import WatInlay.Script.Device
import WatInlay.Script.Limit
import WatInlay.Script.Pattern
import WatInlay.Script.Pipe
import WatInlay.Script.Signal
import WatInlay.Script.Switch

namespace WatInlay.Script

/-- What an open file leads to. -/
inductive Target where
  | place (place : Place)
  /-- A directory, in which nothing is read. -/
  | folder (place : Place)
  | device (d : Device)
  /-- Text that is only there to be read. -/
  | supply (data : Bytes)
  /-- Texts that are collected as they are written, last ones first. -/
  | collector (texts : List Raw)
  /-- Texts on their way to another process. -/
  | pipe (p : Pipe)
  deriving DecidableEq, Repr

/-- An open file. -/
structure Handle where
  target : Target
  readable : Bool := true
  writable : Bool := true
  /-- Where reading or writing goes on. -/
  offset : Nat := 0
  /-- Whether writing always goes on at the end. -/
  append : Bool := false
  deriving DecidableEq, Repr

/-- A file that is being written to, with what has been added at its end. -/
structure Growth where
  place : Place
  contents : Bytes
  executable : Bool
  /-- The texts after the contents, last ones first. -/
  added : List Raw := []
  /-- The size of the file with the texts. -/
  size : Nat
  deriving DecidableEq, Repr

/-- The file with all that was added. -/
def Growth.node (g : Growth) : Node :=
  .file (g.contents ++ Raw.toBytes g.added.reverse.flatten) g.executable

/-- A variable. It may have no value and still be exported or fixed. -/
structure Variable where
  value : Option Raw := none
  /-- Whether other programs get it. -/
  exported : Bool := false
  /-- Whether it keeps its value. -/
  fixed : Bool := false
  deriving DecidableEq, Repr

/-- The arguments of a script or function, and how far `getopts` has come in
them. -/
structure Arguments where
  values : List Raw := []
  /-- The number of the argument that is next for `getopts`, from one on. Zero
  while the builtin has not come to its end. -/
  next : Nat := 1
  /-- How much of the argument before that has been taken. -/
  taken : Option Nat := none
  deriving DecidableEq, Repr

/-- What is restored at the end of a function. -/
inductive Saved where
  | binding (name : Raw) (before : Option Variable)
  | switches (before : List Switch)
  deriving DecidableEq, Repr

/-- What belongs to one process alone. -/
structure Process where
  id : Nat
  /-- The process that the shell began as, which `$$` names in all copies. -/
  root : Nat
  /-- The processes that are waiting for this one, innermost first. -/
  ancestors : List Nat
  /-- The working directory. -/
  here : Place
  /-- The path of the working directory, as the shell came there. -/
  directory : Raw
  /-- Which handle a descriptor leads to. -/
  descriptors : List (Nat × Nat)
  /-- The handles that descriptors led to before redirections, which stay open until
  those are taken back. -/
  aside : List Nat := []
  bindings : List (Raw × Variable) := []
  /-- What the function restores at its end, inside one. -/
  saved : Option (List Saved) := none
  functions : List (Raw × Command) := []
  aliases : List (Raw × Raw) := []
  /-- Programs that were found before, with their paths. -/
  tracked : List (Raw × Raw) := []
  /-- The texts that commands read, by number. -/
  documents : Array Word := #[]
  /-- The name of the shell or script. -/
  name : Raw
  arguments : Arguments := {}
  /-- The status of the last command. -/
  status : Nat := 0
  /-- The status of the last commands whose output the current command uses. -/
  outputStatus : Nat := 0
  /-- The switches that are on. -/
  switches : List Switch := []
  /-- What is executed when a signal comes, or for zero at the end; nothing, when
  the signal is ignored. -/
  traps : List (Signal × Raw) := []
  /-- The signals that were ignored before the shell began. -/
  deaf : List Signal := []
  /-- The signals that came and are still to be acted on. -/
  arrived : List Signal := []
  /-- The status before the actions for a signal, while those are executed. -/
  statusBefore : Option Nat := none
  /-- How many loops are running in the function. -/
  loops : Nat := 0
  /-- How many functions are running. -/
  depth : Nat := 0
  /-- The line of the current command. -/
  line : Nat := 1
  /-- The line that is read next. -/
  readLine : Nat := 1
  /-- The builtin that is running, for messages. -/
  builtin : Option Raw := none
  /-- What the builtin has printed, last texts first. -/
  printed : List Raw := []
  /-- What new files are denied. -/
  mask : Nat := 18
  limits : Limits := []
  /-- The last process in the background. -/
  lastJob : Option Nat := none

/-- Where a command in the background is. -/
inductive JobState where
  /-- It is still to be executed by a copy of the shell. -/
  | waiting (process : Process)
  | ended (ending : Ending)

/-- A command in the background. -/
structure Job where
  /-- Its number among the jobs, from one on. -/
  number : Nat
  /-- Its process. -/
  id : Nat
  command : Command
  state : JobState
  /-- Whether its status has been asked for since it ended. -/
  reported : Bool := false

/-- A running shell, with all that it shares. -/
structure Shell extends Process where
  /-- The commands in the background, last ones first. -/
  jobs : List Job := []
  /-- The files, but for what the growing ones have got. -/
  settled : FileSystem
  /-- The files that were written to, at different places. -/
  growing : List Growth := []
  handles : Array Handle
  /-- The handles that are open in the processes that wait for this one. -/
  held : List Nat := []
  /-- The processes that have not come to their ends. -/
  alive : List Nat
  /-- A number that no process has had. -/
  nextId : Nat
  /-- Signals on their way to other processes, in order. -/
  sent : List (Nat × Signal) := []

/-- Why commands are not carried on with. -/
inductive Stop where
  /-- The script ends, as it asked for. -/
  | exit
  /-- The script ends after a command that failed or took its place. -/
  | finish
  /-- The script ends because of an error, unless the error is a builtin's. -/
  | failure
  /-- A signal ends the process. -/
  | killed (signal : Signal)
  /-- The bound on steps is reached. -/
  | exhausted
  /-- The function or sourced file ends. -/
  | leave
  /-- So many loops end. -/
  | break (levels : Nat)
  /-- All but the last of so many loops end, and that one goes on. -/
  | continue (levels : Nat)
  deriving DecidableEq, Repr

namespace Shell

/-- All files. -/
def files (s : Shell) : FileSystem :=
  s.growing.foldl (fun files g => files.set g.place g.node) s.settled

/-- The files as seen from the working directory. -/
def disk (s : Shell) : FileSystem :=
  { s.files with here := s.here }

/-- The files as seen from the working directory, where the contents of growing ones
do not count. -/
def tree (s : Shell) : FileSystem :=
  { s.settled with here := s.here }

/-- The growing files but for the one at a place. -/
def growingBut (s : Shell) (p : Place) : List Growth :=
  s.growing.filter (·.place != p)

/-- The shell with another file at a place. -/
def setNode (s : Shell) (p : Place) (node : Node) : Shell :=
  { s with settled := s.settled.set p node, growing := s.growingBut p }

/-- The handles that the process has open. -/
def openHandles (p : Process) : List Nat :=
  p.descriptors.map (·.2) ++ p.aside

/-- Whether some process may write to the file at a place. -/
def isBusy (s : Shell) (p : Place) : Bool :=
  let ofJob (j : Job) : List Nat :=
    match j.state with
    | .waiting process => openHandles process
    | .ended _ => []
  (openHandles s.toProcess ++ s.held ++ s.jobs.flatMap ofJob).any fun i =>
    match s.handles[i]? with
    | some { target := .place q, writable, .. } => writable && q == p
    | _ => false

/-- The handle of a descriptor. -/
def handle? (s : Shell) (descriptor : Nat) : Option (Nat × Handle) :=
  (s.descriptors.lookup descriptor).bind fun i => s.handles[i]?.map fun h => (i, h)

/-- What stands at a place of the files. -/
def findAt? (s : Shell) (p : Place) : Option Finding :=
  (s.settled.node? p).map fun
    | .folder => { identity := .place p, kind := .folder, executable := true, hasSize := true }
    | .file contents executable =>
      let hasSize := match s.growing.find? (·.place == p) with
        | some g => g.size != 0
        | none => !contents.isEmpty
      { identity := .place p, kind := .file, executable, hasSize }

/-- What a handle leads to. -/
def findOf? (s : Shell) (i : Nat) (h : Handle) : Option Finding :=
  match h.target with
  | .place p | .folder p => s.findAt? p
  | .device d => some { identity := .device d, kind := .device }
  | .supply _ | .collector _ | .pipe _ => some { identity := .handle i, kind := .pipe }

/-- What is special about what a path leads to. -/
def special? (s : Shell) (path : Path) : Option Special :=
  match s.tree.locate path with
  | .ok place => Special.ofPlace? place
  | .error _ => none

/-- What a path leads to. -/
def find? (s : Shell) (path : Path) : Option Finding :=
  match s.special? path with
  | some (.device d) => some { identity := .device d, kind := .device }
  | some (.descriptor n) => (s.handle? n).bind fun (i, h) => s.findOf? i h
  | some .nothing => none
  | none =>
    match s.tree.locate path with
    | .ok place => s.findAt? place
    | .error _ => none

/-- Whether a path leads to a descriptor that is open, for which a link stands there. -/
def isLink (s : Shell) (path : Path) : Bool :=
  match s.special? path with
  | some (.descriptor n) => (s.handle? n).isSome
  | _ => false

/-- Whether a switch is on. -/
def has (s : Shell) (switch : Switch) : Bool :=
  s.switches.contains switch

/-- The value of a variable. -/
def value? (s : Shell) (name : Raw) : Option Raw :=
  (s.bindings.lookup name).bind (·.value)

/-- The value of a variable, or nothing. -/
def valueOf (s : Shell) (name : String) : Raw :=
  (s.value? name.toList).getD []

/-- The characters that separate fields. -/
def separators (s : Shell) : Raw :=
  (s.value? "IFS".toList).getD " \t\n".toList

/-- The directories that programs are looked up in. Without a value for them that is
the working directory. -/
def searchPath (s : Shell) : List Path :=
  (Raw.pieces ':' (s.valueOf "PATH")).map Raw.toText

/-- The shell with a variable set to another state, or without it. -/
def setVariable (s : Shell) (name : Raw) (v : Option Variable) : Shell :=
  { s with bindings :=
      (v.map fun v => (name, v)).toList ++ s.bindings.filter (·.1 != name) }

/-- The shell after a process of its own, which `inner` is: files and all else that
is shared stay as the process left them. -/
def resume (outer inner : Shell) : Shell :=
  { outer with
    settled := inner.settled
    growing := inner.growing
    handles := inner.handles
    alive := inner.alive
    nextId := inner.nextId
    sent := inner.sent }

/-- The state of a copy of the process. Signals have no actions in it, but those that
are ignored still are. -/
def copied (s : Shell) (id : Nat) : Process :=
  { s.toProcess with
    id
    ancestors := s.id :: s.ancestors
    traps := s.traps.filter (·.2.isEmpty)
    arrived := [] }

end Shell

/-- A step of a running shell. -/
abbrev Eval := ExceptT Stop (StateM Shell)

end WatInlay.Script
