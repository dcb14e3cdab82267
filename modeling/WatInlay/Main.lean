/-
The command line program.

What an invocation may read is taken in from outside before it, with what it may
not write, and what it changed is written back after it;
`Invocation.ofArguments` does all the work in between. Programs are scripts for
the shell. They are found in the directories of `PATH` and see the files of the
invocation.
-/

import WatInlay.Host
import WatInlay.Invocation

namespace WatInlay.Outside

/-- The place of the working directory, whose name outside does not matter. -/
def here : Place :=
  ["work".toList]

/-- The place that a path names, `..` leading back. -/
def place (path : Path) : Place :=
  path.components.foldl (fun p name => if name = "..".toList then p.dropLast else p ++ [name])
    (if path.IsAbsolute then [] else here)

/-- The path, from the working directory if it lies below it, to a place. -/
def path (p : Place) : Path :=
  match here.isPrefixOf? p with
  | some names => Text.joinWith ['/'] names
  | none => '/' :: Text.joinWith ['/'] p

/-- The path itself, after all directories that it leads through. -/
def stages (path : Path) : List Path :=
  let names := path.components
  (List.range names.length).map fun n =>
    (if path.IsAbsolute then ['/'] else []) ++ Text.joinWith ['/'] (names.take (n + 1))

/-- What stands at a path outside, if it can be read. The number of the error
tells a directory. -/
def node? (executable : Bool) (p : Path) : IO (Option Node) := do
  try
    let contents ← IO.FS.readBinFile (String.ofList p)
    return some (.file contents.toList executable)
  catch
    | .inappropriateType _ 21 _ => return some .folder
    | _ => return none

/-- The files with what stands outside at a path and on the way to it. -/
def take (executable : Bool) (files : FileSystem) (p : Path) : IO FileSystem := do
  let mut files := files
  for stage in stages p do
    let at_ := place stage
    if (files.node? at_).isNone then
      if let some node ← node? executable stage then
        files := files.build [] at_ node
  return files

/-- Files that are taken in one after another. -/
def takeAll (executable : Bool) (files : FileSystem) (ps : List Path) : IO FileSystem :=
  ps.foldlM (take executable) files

/-- The files outside that are protected against writing, with what is said of that. -/
def refused (ps : List Path) : IO (List (Path × IoFault)) :=
  ps.filterMapM fun p => do
    try
      IO.FS.withFile (String.ofList p) .readWrite fun _ => return none
    catch
      | .permissionDenied _ code _ => return some (p, .system ⟨code.toNat⟩)
      | _ => return none

/-- The paths of the programs that a name can mean. -/
def candidates (searchPath : List Path) (name : Text) : List Path :=
  if '/' ∈ name then [name] else searchPath.map fun directory => Path.join directory name

/-- Writes what is new or different outside, and removes what is gone. -/
def giveBack (before after : FileSystem) : IO Unit := do
  for (p, node) in after.below [] do
    if before.node? p ≠ some node then
      if let .file contents _ := node then
        IO.FS.writeBinFile (String.ofList (path p)) contents.toByteArray
  for (p, node) in before.below [] do
    if node ≠ .folder ∧ after.node? p = none then
      IO.FS.removeFile (String.ofList (path p))

/-- Runs the program on its arguments. -/
def invoke (arguments : List String) : IO UInt32 := do
  let arguments := arguments.map String.toList
  let configured ← IO.getEnv Config.variable
  let environment := configured.map String.toList
  let path ← IO.getEnv "PATH"
  let searchPath := Text.pieces (· == ':') (path.getD "").toList
  let shell : Path := "/bin/sh".toList
  let programs : Script.Environment :=
    { searchPath
      natives := (shell :: candidates searchPath "sh".toList).map fun p => (place p, .shell)
      bindings := environment.toList.map fun t =>
        (Config.variable.toList, Script.Raw.ofText t) }
  let mut files := (Script.Special.added { here }).build [] here .folder
  files ← takeAll true files (shell :: candidates searchPath "sh".toList)
  let mut closed : List (Path × IoFault) := []
  if let .ok (.run o) := CommandLine.parse arguments then
    files ← takeAll false files (o.config.toList ++ environment.toList ++ o.file.toList)
    if let .ok config := Config.resolve files o.config environment then
      files ← takeAll false files [config.unit, config.binary]
      closed ← refused (config.unit :: o.file.toList)
      files ← takeAll true files (candidates searchPath config.compiler)
      for d in Dialect.all do
        files ← takeAll true files (candidates searchPath (d.formatter.headD []))
  let refusals : Refusals := fun p _ _ => closed.lookup p
  let i := Invocation.ofArguments programs.launch environment arguments files refusals
  giveBack files i.files
  IO.print (String.ofList i.stdout)
  IO.eprint (String.ofList i.stderr)
  return i.exit.toUInt32

end WatInlay.Outside

/-- The program. -/
def main (arguments : List String) : IO UInt32 :=
  WatInlay.Outside.invoke arguments
