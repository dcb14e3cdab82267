/-
The state of shells as they start, and what the first of them leaves behind.
-/

import WatInlay.Script.Builtin.Directory
import WatInlay.Script.Program

namespace WatInlay.Script

/-- The variables that a shell sets itself, whatever it is given. -/
def ownVariables (parent : Nat) : List (Raw × Raw) :=
  [("IFS".toList, " \t\n".toList), ("OPTIND".toList, ['1']), ("PPID".toList, Text.ofNat parent)]

/-- The variables that a shell sets unless it is given them. -/
def defaultVariables : List (Raw × Raw) :=
  [("PATH", "/usr/local/sbin:/usr/local/bin:/usr/sbin:/usr/bin:/sbin:/bin"), ("PS1", "# "),
    ("PS2", "> "), ("PS4", "+ ")].map fun (name, value) => (name.toList, value.toList)

/-- The variables that programs get, with their values. -/
def exportedVariables (p : Process) : List (Raw × Raw) :=
  p.bindings.filterMap fun (name, v) =>
    if v.exported then v.value.map fun value => (name, value) else none

/-- The working directory's path as a shell sees it that starts: the one it is given, when
that leads there from the root, and else the one without detours. -/
def startDirectory (s : Shell) : Raw :=
  match (exportedVariables s.toProcess).lookup "PWD".toList with
  | some path =>
    let leadsHere := match s.tree.locate (Raw.toText path) with
      | .ok place => place == s.here
      | .error _ => false
    if path.head? == some '/' && leadsHere then path else Directory.ofPlace s.here
  | none => Directory.ofPlace s.here

/-- The variables of a shell that starts. Those it is given stay exported. -/
def startVariables (s : Shell) : List (Raw × Variable) :=
  let given := exportedVariables s.toProcess
  let isGiven (name : Raw) : Bool := (given.lookup name).isSome
  let own := ownVariables (s.ancestors.headD 0)
  let inherited := given.filter fun (name, _) =>
    (own.lookup name).isNone && name != "PWD".toList
  let defaults := defaultVariables.filter fun (name, _) => !isGiven name
  ("PWD".toList, { value := some (startDirectory s), exported := true }) ::
    (own ++ defaults ++ inherited).map fun (name, value) =>
      (name, { value := some value, exported := isGiven name })

/-- The state of a program's shell, given that of the process that starts it. -/
def programState (s : Shell) (name : Raw) : Process :=
  let ignored := (s.traps.filter (·.2.isEmpty)).map (·.1)
  { id := s.id
    root := s.id
    ancestors := s.ancestors
    here := s.here
    directory := startDirectory s
    descriptors := s.descriptors
    bindings := startVariables s
    name
    deaf := ignored ++ s.deaf
    mask := s.mask
    limits := s.limits }

/-- The variables of the environment. -/
def Environment.exported (env : Environment) : List (Raw × Raw) :=
  ("PATH".toList, Raw.ofText (Text.joinWith [':'] env.searchPath)) :: env.bindings

/-- What the process of the tool looks like to the shells that it starts: it reads
nothing, and their output and errors are collected. -/
def Shell.fresh (env : Environment) (files : FileSystem) : Shell where
  id := 2
  root := 2
  ancestors := [1]
  here := files.here
  directory := Directory.ofPlace files.here
  descriptors := [(0, 0), (1, 1), (2, 2)]
  bindings := env.exported.map fun (name, value) => (name, { value := some value, exported := true })
  name := []
  settled := files
  handles :=
    #[{ target := .device .null, writable := false }, { target := .collector [] },
      { target := .collector [] }]
  alive := [1, 2]
  nextId := 3

/-- What was written to the standard error of a fresh shell. -/
def Shell.errors (s : Shell) : Raw :=
  match s.handles.toList with
  | _ :: _ :: h :: _ =>
    match h.target with
    | .collector texts => texts.reverse.flatten
    | _ => []
  | _ => []

end WatInlay.Script
