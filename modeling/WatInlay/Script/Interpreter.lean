/-
Executing shell scripts.

Commands change the state of the shell, and a status says how each ended. A
subshell, the commands whose output is used, the commands of a pipeline and
programs are processes of their own, which run one after the other; a program is
a script for this shell, or the shell itself.

Every function takes a bound on nested steps and rounds of loops; a script that
exceeds it is stopped as if by a signal.
-/

import WatInlay.Script.Builtin
import WatInlay.Script.Call
import WatInlay.Script.Input
import WatInlay.Script.Reader
import WatInlay.Script.Redirection
import WatInlay.Script.Startup

namespace WatInlay.Script

/-- How a command is executed. -/
structure Mode where
  /-- Whether its failure is expected and does not end the script. -/
  tested : Bool := false
  /-- Whether nothing is left to do after it in the process. -/
  final : Bool := false
  deriving DecidableEq, Repr

/-- What a stop means to the loop around it. -/
inductive LoopEnd where
  /-- The loop goes on. -/
  | next
  /-- The loop is over. -/
  | over
  /-- What is outside the loop stops too. -/
  | beyond (stop : Stop)

/-- What a stop means to the loop around it. -/
def Stop.inLoop : Stop → LoopEnd
  | .break (n + 2) => .beyond (.break (n + 1))
  | .break _ => .over
  | .continue (n + 2) => .beyond (.continue (n + 1))
  | .continue _ => .next
  | stop => .beyond stop

namespace Eval

/-- Stops when the bound is reached. -/
def exhausted {α : Type} : Eval α :=
  throw .exhausted

/-- Takes note of the end of a process, and answers its status. -/
def await (ending : Ending) : Eval Nat := do
  let status ← notice ending
  receiveAll
  return status

/-- Does the steps of a loop. -/
def inLoop (steps : Eval Unit) : Eval Unit := do
  let loops := (← get).loops
  modify fun s => { s with loops := loops + 1 }
  ensuring steps do
    modify fun s => { s with loops }

/-- Whether a failure of the command itself may end the script. -/
def countsAsFailure : Command → Bool
  | .simple _ _ _ _ | .pipe _ | .subshell _ _ _ => true
  | _ => false

/-- Begins to execute the commands of a script. -/
def beginScript : Eval Unit := do
  checkMonitor
  modify fun s => { s with line := 1 }

/-! ### Commands -/

mutual

/-- What commands print, as a process of their own. -/
def capture (env : Environment) (n : Nat) (commands : Command) : Eval Raw := do
  match n with
  | 0 => exhausted
  | n + 1 =>
    if commands.isNothing then return []
    let _ ← takeNumber
    let h ← openHandle { target := .collector [] }
    let ending ← fork env n do
      setDescriptor 1 (some h)
      execute env n { final := true } commands
    let status ← await ending
    modify fun s => { s with outputStatus := status }
    return (← collected h).filter (· != '\x00')

/-- Runs steps in a copy of the process. Afterwards all is as before but for what
processes share. -/
def fork (env : Environment) (n : Nat) (steps : Eval Unit) : Eval Ending := do
  match n with
  | 0 => exhausted
  | n + 1 =>
    let outer ← get
    let id := outer.nextId
    set { outer with
      toProcess := outer.copied id
      jobs := []
      alive := id :: outer.alive
      nextId := id + 1
      held := Shell.openHandles outer.toProcess ++ outer.held }
    let ending ← finish env n steps
    let inner ← get
    set { outer.resume inner with alive := inner.alive.filter (· != id) }
    return ending

/-- Runs steps up to the end of the process: then what was set aside for the end,
and the commands that are still in the background. -/
def finish (env : Environment) (n : Nat) (steps : Eval Unit) : Eval Ending := do
  match n with
  | 0 => exhausted
  | n + 1 =>
    let stop ← catching steps
    let stop ←
      match stop with
      | some (.killed _) | some .exhausted => pure stop
      | _ => catching (runAtExit env n)
    let status := (← get).status
    for j in (← get).jobs.reverse do
      let _ ← runJob env n j
    match stop with
    | some (.killed signal) => return .killed signal
    | some .exhausted => return .killed 9
    | _ => return .exited status

/-- Executes what was set aside for the end of the script. -/
def runAtExit (env : Environment) (n : Nat) : Eval Unit := do
  match n with
  | 0 => exhausted
  | n + 1 =>
    let s ← get
    match s.traps.lookup 0 with
    | none | some [] => return
    | some action =>
      set { s with traps := s.traps.filter (·.1 != 0), statusBefore := some s.status }
      match ← catching (do let _ ← interpret env n {} false (.ofText action)) with
      | none | some .leave | some (.break _) | some (.continue _) => setStatus s.status
      | stop => again stop

/-- Executes the actions for the signals that came. -/
def actOnSignals (env : Environment) (n : Nat) : Eval Unit := do
  match n with
  | 0 => exhausted
  | n + 1 =>
    let s ← get
    match s.arrived with
    | [] => return
    | signal :: signals =>
      let signal := signals.foldl min signal
      let status := s.statusBefore.getD s.status
      set { s with
        arrived := s.arrived.filter (· != signal), statusBefore := some status }
      let action := (s.traps.lookup signal).getD []
      let stop ← catching (do let _ ← interpret env n {} false (.ofText action))
      modify fun t => { t with statusBefore := s.statusBefore }
      match stop with
      | none => setStatus status
      | some (.break _) | some (.continue _) => setStatus status
      | _ => pure ()
      again stop
      actOnSignals env n

/-- Executes a command that was set aside for the background, unless that has been
done. -/
def runJob (env : Environment) (n : Nat) (j : Job) : Eval Ending := do
  match n with
  | 0 => exhausted
  | n + 1 =>
    match j.state with
    | .ended ending => return ending
    | .waiting process =>
      let outer ← get
      set { outer with toProcess := process, jobs := [] }
      let ending ← finish env n do
        receiveAll
        execute env n { final := true } j.command
      let inner ← get
      set { outer.resume inner with alive := inner.alive.filter (· != j.id) }
      setJob { j with state := .ended ending }
      return ending

/-- Executes a command. -/
def execute (env : Environment) (n : Nat) (mode : Mode) (command : Command) : Eval Unit := do
  match n with
  | 0 => exhausted
  | n + 1 =>
    if !(← get).has .noexec && !command.isNothing then
      if !(← get).arrived.isEmpty then actOnSignals env n
      step env n mode command
    if !(← get).arrived.isEmpty then actOnSignals env n
    let s ← get
    if s.has .errexit && !mode.tested && s.status != 0 && countsAsFailure command then
      throw .finish
    if mode.final then throw .finish

/-- Executes a command, without what follows from its status. -/
def step (env : Environment) (n : Nat) (mode : Mode) (command : Command) : Eval Unit := do
  match n with
  | 0 => exhausted
  | n + 1 =>
    let tested := { tested := mode.tested : Mode }
    match command with
    | .simple line assignments words redirects =>
      modify fun s => { s with line, outputStatus := 0 }
      simple env n mode assignments words redirects
    | .sequence cs => sequence env n mode cs
    | .andThen a b =>
      execute env n { tested := true } a
      if (← get).status == 0 then execute env n mode b
    | .orElse a b =>
      execute env n { tested := true } a
      if (← get).status != 0 then execute env n mode b
    | .not c =>
      execute env n { tested := true } c
      setStatus (if (← get).status == 0 then 1 else 0)
    | .pipe cs =>
      let _ ← takeNumber
      setStatus (← pipe env n mode none cs)
      receiveAll
    | .background line c redirects =>
      modify fun s => { s with line }
      setAside env n c redirects
      setStatus 0
    | .subshell line c redirects =>
      modify fun s => { s with line }
      let openings ← expandRedirects (capture env n) redirects
      let inside : Eval Unit := do
        if let some message := ← redirect (capture env n) false openings then die message
        execute env n { mode with final := true } c
      if mode.final && (← get).traps.all (·.2.isEmpty) then inside
      else
        let _ ← takeNumber
        setStatus (← await (← fork env n inside))
    | .redirected line c redirects =>
      modify fun s => { s with line }
      let openings ← expandRedirects (capture env n) redirects
      let before := (← get).toProcess
      keepAside openings
      if ← redirectOrComplain (capture env n) true openings then
        ensuring (execute env n tested c) (takeBack before openings)
      else
        takeBack before openings
        setStatus 2
        if (← get).has .errexit && !mode.tested then throw .finish
    | .ifElse condition yes no =>
      execute env n { tested := true } condition
      if (← get).status == 0 then execute env n mode yes
      else if no.isNothing then setStatus 0
      else execute env n mode no
    | .loop negated condition body =>
      inLoop do
        loop env n tested negated condition body 0
    | .each line name words body =>
      modify fun s => { s with line }
      let values ← expandFields (capture env n) words
      if values.isEmpty then setStatus 0
      inLoop do
        each env n tested name body values
    | .caseOf line word arms =>
      modify fun s => { s with line }
      let value ← expandWhole (capture env n) word
      choose env n mode value arms
    | .function name body =>
      modify fun s =>
        { s with functions := (name, body) :: s.functions.filter (·.1 != name) }
      setStatus 0

/-- Sets a command aside for the background. Its files are opened at once. -/
def setAside (env : Environment) (n : Nat) (c : Command) (redirects : List Redirect) :
    Eval Unit := do
  match n with
  | 0 => exhausted
  | n + 1 =>
    let openings ← expandRedirects (capture env n) redirects
    let nothing ← openHandle { target := .device .null, writable := false }
    let outer ← get
    let id := outer.nextId
    let copy := outer.copied id
    set { outer with
      toProcess := { copy with deaf := 2 :: 3 :: copy.deaf }
      alive := id :: outer.alive
      nextId := id + 1 }
    setDescriptor 0 (some nothing)
    let made ← redirectOrComplain (capture env n) false openings
    let inner ← get
    set (outer.resume inner)
    addJob inner.toProcess c
    if !made then
      if let j :: _ := (← get).jobs then
        setJob { j with state := .ended (.exited 2) }
        modify fun s => { s with alive := s.alive.filter (· != id) }

/-- Executes the commands of a pipeline, each with what the one before it has
printed. Answers the status of the last one. -/
def pipe (env : Environment) (n : Nat) (mode : Mode) (input : Option Nat) (cs : List Command) :
    Eval Nat := do
  match n, cs with
  | 0, _ => exhausted
  | _, [] => return 0
  | n + 1, [c] => notice (← fork env n (stage env n mode input none c))
  | n + 1, c :: cs => pipeThrough env n mode input c cs Pipe.capacity

/-- Executes a command of a pipeline and those after it, when there is room for so many
pages between them. That is tried with more room if all has been read, and in the end
with as much room as there is when only so much is read as the others do read. -/
def pipeThrough (env : Environment) (n : Nat) (mode : Mode) (input : Option Nat) (c : Command)
    (cs : List Command) (room : Nat) : Eval Nat := do
  match n with
  | 0 => exhausted
  | n + 1 =>
    let before ← get
    let output ← openHandle { target := .pipe { free := room } }
    let _ ← notice (← fork env n (stage env n mode input (some output) c))
    let p ← piped output
    let data := Raw.toBytes p.contents
    let supply ← openHandle { target := .supply data }
    let status ← pipe env n mode (some supply) cs
    let left := (← unread supply).length
    let enough := if left = 0 then 4 * room else p.pagesAfter (data.length - left)
    if (p.full && (left = 0 || enough < room)) || (left != 0 && enough < p.pages.length) then
      set before
      pipeThrough env n mode input c cs enough
    else return status

/-- A command of a pipeline as the steps of a process. -/
def stage (env : Environment) (n : Nat) (mode : Mode) (input output : Option Nat) (c : Command) :
    Eval Unit := do
  match n with
  | 0 => exhausted
  | n + 1 =>
    if input.isSome then setDescriptor 0 input
    if output.isSome then setDescriptor 1 output
    execute env n { mode with final := true } c

/-- Executes commands in order. -/
def sequence (env : Environment) (n : Nat) (mode : Mode) (commands : List Command) :
    Eval Unit := do
  match n, commands with
  | 0, _ => exhausted
  | _, [] => return
  | n + 1, c :: cs =>
    if cs.isEmpty then execute env n mode c
    else
      execute env n { mode with final := false } c
      sequence env n mode cs

/-- Executes a loop. The status is that of the last round. -/
def loop (env : Environment) (n : Nat) (mode : Mode) (negated : Bool) (condition body : Command)
    (status : Nat) : Eval Unit := do
  match n with
  | 0 => exhausted
  | n + 1 =>
    match ← catching (execute env n { tested := true } condition) with
    | some stop =>
      match stop.inLoop with
      | .next => loop env n mode negated condition body status
      | .over => setStatus status
      | .beyond stop =>
        if stop matches .break _ | .continue _ then setStatus status
        throw stop
    | none =>
      if ((← get).status == 0) == negated then setStatus status
      else
        match ← catching (execute env n mode body) with
        | none => loop env n mode negated condition body (← get).status
        | some stop =>
          match stop.inLoop with
          | .next => loop env n mode negated condition body (← get).status
          | .over => return
          | .beyond stop => throw stop

/-- Executes the body of a loop for each value. -/
def each (env : Environment) (n : Nat) (mode : Mode) (name : Raw) (body : Command)
    (values : List Raw) : Eval Unit := do
  match n, values with
  | 0, _ => exhausted
  | _, [] => return
  | n + 1, v :: vs =>
    assign name v
    match ← catching (execute env n mode body) with
    | none => each env n mode name body vs
    | some stop =>
      match stop.inLoop with
      | .next => each env n mode name body vs
      | .over => return
      | .beyond stop => throw stop

/-- Executes the first arm with a pattern that a value fits. -/
def choose (env : Environment) (n : Nat) (mode : Mode) (value : Raw)
    (arms : List (List Word × Command)) : Eval Unit := do
  match n, arms with
  | 0, _ => exhausted
  | _, [] => setStatus 0
  | n + 1, (patterns, body) :: arms =>
    if ← fits env n value patterns then
      if body.isNothing then setStatus 0 else execute env n mode body
    else choose env n mode value arms

/-- Whether a value fits one of some patterns. -/
def fits (env : Environment) (n : Nat) (value : Raw) (patterns : List Word) : Eval Bool := do
  match n, patterns with
  | 0, _ => exhausted
  | _, [] => return false
  | n + 1, p :: ps =>
    if Glob.matchesAll (Glob.compile (← expandMarks (capture env n) p)) value then return true
    else fits env n value ps

/-- Executes a simple command: words are expanded, then files are opened, then
variables assigned, then the command is run. Without words the assignments
stay; with words they last as long as the command, unless it is a special
builtin. -/
def simple (env : Environment) (n : Nat) (mode : Mode) (assignments : List (Raw × Word))
    (words : List Word) (redirects : List Redirect) : Eval Unit := do
  match n with
  | 0 => exhausted
  | n + 1 =>
    let fields ← expandCommand (capture env n) [] words
    match fields with
    | [] =>
      let openings ← expandRedirects (capture env n) redirects
      let before := (← get).toProcess
      let messages := before.descriptors.lookup 2
      keepAside openings
      if ← redirectOrComplain (capture env n) true openings then
        ensuring (do
          assignAll env n false false assignments
          traceAll env n messages assignments []) (takeBack before openings)
        setStatus (← get).outputStatus
      else
        takeBack before openings
        setStatus 2
    | name :: args =>
      let s ← get
      let call := Call.resolve s { name, args }
      let function := if call.skipsFunctions then none else s.functions.lookup call.name
      let builtin := if function.isSome then none else Builtin.ofName? call.name
      let special := builtin.isSome && !call.skipsFunctions && Builtin.isSpecial name
      let steps := runSimple env n mode assignments fields redirects call function builtin special
      if special then steps else withScope steps

/-- Runs the function, builtin or program of a simple command with its redirections and
assignments. -/
def runSimple (env : Environment) (n : Nat) (mode : Mode) (assignments : List (Raw × Word))
    (fields : List Raw) (redirects : List Redirect) (call : Call) (function : Option Command)
    (builtin : Option Builtin) (special : Bool) : Eval Unit := do
  match n with
  | 0 => exhausted
  | n + 1 =>
    let openings ← expandRedirects (capture env n) redirects
    let before := (← get).toProcess
    let messages := before.descriptors.lookup 2
    let reset : Eval Unit := takeBack before openings
    let replaces := builtin == some .exec && !call.args.isEmpty
    keepAside openings
    if !(← redirectOrComplain (capture env n) true openings) then
      if builtin == some .exec && !special then
        modify fun s => { s with aside := before.aside }
      else reset
      setStatus 2
      if special then throw .failure
    else
      let steps : Eval Unit := do
        assignAll env n (!special) (!special || replaces) assignments
        traceAll env n messages assignments fields
        match function, builtin with
        | some body, _ => callFunction env n mode body call.args
        | none, some b => callBuiltin env n mode special b call.name call.args
        | none, none => callProgram env n mode call.name call.args
      if builtin == some .exec then
        match ← catching steps with
        | none => modify fun s => { s with aside := before.aside }
        | stop =>
          reset
          again stop
      else ensuring steps reset

/-- Executes assignments. When `local`, the variables get back later what they
were. -/
def assignAll (env : Environment) (n : Nat) (isLocal exported : Bool)
    (assignments : List (Raw × Word)) : Eval Unit := do
  match n, assignments with
  | 0, _ => exhausted
  | _, [] => return
  | n + 1, (name, word) :: rest =>
    let value ← expandValue (capture env n) word
    if isLocal then keep name
    assign name value
    if exported then changeVariable name fun v => { v with exported := true }
    assignAll env n isLocal exported rest

/-- Shows a command with its assignments, if commands are to be shown. What cannot be
expanded of the text before it stands there as it is. -/
def traceAll (env : Environment) (n : Nat) (messages : Option Nat)
    (assignments : List (Raw × Word)) (fields : List Raw) : Eval Unit := do
  match n with
  | 0 => exhausted
  | n + 1 =>
    let s ← get
    if s.has .xtrace then
      let assigned := assignments.map fun (name, _) =>
        name ++ '=' :: (s.value? name).getD []
      let mark := s.valueOf "PS4"
      let source : Source := { rest := mark, aliases := s.aliases, documents := s.documents }
      let expanded : Eval Raw :=
        match (Reading.readParts Source.bound (.text .whole) false).run source with
        | .error fault => dieOfSyntax fault.line fault.message
        | .ok (word, _) => expandDocument (capture env n) word
      modify fun s => { s with switches := Switch.turn s.switches .xtrace false }
      let before ← tryCatch expanded fun
        | .failure => pure mark
        | stop => throw stop
      modify fun s => { s with switches := Switch.turn s.switches .xtrace true }
      trace before messages (assigned ++ fields)

/-- Calls a function. -/
def callFunction (env : Environment) (n : Nat) (mode : Mode) (body : Command)
    (args : List Raw) : Eval Unit := do
  match n with
  | 0 => exhausted
  | n + 1 =>
    let outer ← get
    if outer.depth ≥ 1000 then
      die "Maximum function recursion depth (1000) reached".toList
    set { outer with
      arguments := { values := args }, loops := 0, depth := outer.depth + 1 }
    let stop ← catching (execute env n { tested := mode.tested } body)
    modify fun s =>
      { s with arguments := outer.arguments, loops := outer.loops, depth := outer.depth }
    if stop != some .leave then again stop

/-- Calls a builtin. An error in one that is not special does not end the script. -/
def callBuiltin (env : Environment) (n : Nat) (mode : Mode) (special : Bool) (b : Builtin)
    (name : Raw) (args : List Raw) : Eval Unit := do
  match n with
  | 0 => exhausted
  | n + 1 =>
    let outer := (← get).builtin
    modify fun s => { s with builtin := some name }
    let stop ← catching do
      let status ← match b with
        | .dot => sourceFile env n args
        | .eval => do
          let source := Text.joinWith [' '] args
          if ← interpret env n { tested := mode.tested } false (.ofText source) then
            pure (← get).status
          else pure 0
        | .exec =>
          match args with
          | [] => pure 0
          | name :: args => do
            replaceBy env n name args
            pure 0
        | .wait => wait env n args
        | .true => pure 0
        | b => plainBuiltin b name args
      if ← flush then setStatus status
      else
        complain (name ++ ": I/O error".toList)
        setStatus (status ||| 1)
    if stop == some .failure then
      let _ ← flush
    modify fun s => { s with builtin := outer }
    let s ← get
    if stop == some .leave && b == .return && s.has .errexit && !mode.tested && s.status != 0 then
      throw .finish
    if stop != some .failure || special then again stop

/-- The file of a name executed as if it stood in the script. -/
def sourceFile (env : Environment) (n : Nat) (args : List Raw) : Eval Nat := do
  match n with
  | 0 => exhausted
  | n + 1 =>
    match ← noOptions args with
    | [] => return 0
    | path :: _ =>
      let s ← get
      let isFile (p : Path) : Bool := s.tree.find? p matches some (.file _ _)
      let found :=
        if path.contains '/' then some path
        else ((s.searchPath.map fun d => Path.join d (Raw.toText path)).find? isFile).map
          Raw.ofText
      let some path := found | die (path ++ ": not found".toList)
      let i ← openScript path
      modify fun s => { s with builtin := some path }
      let executed ← tryCatch (interpret env n {} true (.ofHandle i)) fun stop =>
        if stop == .leave then return true else throw stop
      let status := (← get).status
      return if executed then status else 0

/-- `wait`: executes commands that are in the background. -/
def wait (env : Environment) (n : Nat) (args : List Raw) : Eval Nat := do
  match n with
  | 0 => exhausted
  | n + 1 =>
    match ← noOptions args with
    | [] =>
      for j in (← get).jobs.reverse do
        let _ ← runJob env n j
      modify fun s => { s with jobs := s.jobs.map fun j => { j with reported := true } }
      receive Signal.childEnded
      receiveAll
      return 0
    | args =>
      let mut status := 127
      for t in args do
        let job? ←
          if t.head? == some '%' then do pure (some (← jobNamed t))
          else do
            let id ← number t
            pure ((← get).jobs.find? (·.id == id))
        match job? with
        | none => status := 127
        | some job =>
          let fresh := job.state matches .waiting _
          for j in (← get).jobs.reverse do
            if j.number ≤ job.number || j.id ≤ job.id then
              let _ ← runJob env n j
          match (← get).jobs.find? (·.number == job.number) with
          | some ⟨number, id, command, .ended ending, _⟩ =>
            if fresh then let _ ← notice ending
            setJob { number, id, command, state := .ended ending, reported := true }
            status := ending.status
          | _ => pure ()
      receiveAll
      return status

/-- Runs the program of a name as a process of its own. -/
def callProgram (env : Environment) (n : Nat) (mode : Mode) (name : Raw) (args : List Raw) :
    Eval Unit := do
  match n with
  | 0 => exhausted
  | n + 1 =>
    match ← programPath? name with
    | none => setStatus 127
    | some path =>
      if mode.final && (← get).traps.all (·.2.isEmpty) then become env n path name args
      else
        let _ ← takeNumber
        setStatus (← await (← fork env n (become env n path name args)))

/-- Lets the program of a name take the place of the shell. -/
def replaceBy (env : Environment) (n : Nat) (name : Raw) (args : List Raw) : Eval Unit := do
  match n with
  | 0 => exhausted
  | n + 1 =>
    let s ← get
    let path :=
      if name.contains '/' then .ok name
      else if name.isEmpty then .error OsError.accessDenied
      else (Environment.locate s.searchPath s.tree (Raw.toText name)).map Raw.ofText
    match path with
    | .ok path => become env n path name args
    | .error e => refuse name e

/-- Lets the program at a path take the place of the shell. A file that is no program
is a script for this shell. -/
def become (env : Environment) (n : Nat) (path name : Raw) (args : List Raw) : Eval Unit := do
  match n with
  | 0 => exhausted
  | n + 1 =>
    let outer ← get
    let given : Given :=
      { words := name :: args, bindings := exportedVariables outer.toProcess }
    match env.start outer.disk outer.isBusy (Raw.toText path) given with
    | .ok (.shell words) => replace env n words
    | .ok (.ended status message) =>
      let _ ← put 2 (Raw.ofText message)
      setStatus status
      throw .finish
    | .error (.system e) =>
      if e = .badFormat then replace env n ("/bin/sh".toList :: path :: args) else refuse name e
    | .error _ => refuse name .notFound

/-- Lets a shell that is given some words take the place of this one. -/
def replace (env : Environment) (n : Nat) (words : List Raw) : Eval Unit := do
  match n with
  | 0 => exhausted
  | n + 1 =>
    let outer ← get
    let ending ← runShell env n words
    let inner ← get
    set { outer.resume inner with toProcess := { outer.toProcess with traps := [] } }
    match ending with
    | .killed signal => throw (.killed signal)
    | .exited status =>
      setStatus status
      throw .finish

/-- Runs the shell in the process, when it is given some words. -/
def runShell (env : Environment) (n : Nat) (words : List Raw) : Eval Ending := do
  match n with
  | 0 => exhausted
  | n + 1 =>
    modify fun s => { s with toProcess := programState s (words.headD []), jobs := [] }
    finish env n (shell env n (words.drop 1))

/-- The shell itself, with the arguments of its command line. -/
def shell (env : Environment) (n : Nat) (args : List Raw) : Eval Unit := do
  match n with
  | 0 => exhausted
  | n + 1 =>
    modify fun s => { s with line := 0 }
    let (launch, rest) ← takeSwitches true args.length {} args
    let s ← get
    let readsInput := s.has .stdin || (rest.isEmpty && !launch.hasCommands)
    if launch.hasCommands then
      match rest with
      | [] => die "-c requires an argument".toList
      | source :: rest =>
        modify fun s =>
          { s with name := rest.headD s.name, arguments := { values := rest.drop 1 } }
        beginScript
        let _ ← interpret env n { final := !readsInput } false (.ofText source)
        if readsInput then standardInput env n
    else if readsInput then
      modify fun s => { s with arguments := { values := rest } }
      modify fun s => { s with switches := Switch.turn s.switches .stdin true }
      beginScript
      standardInput env n
    else
      let path := rest.headD []
      let i ← openScript path
      modify fun s => { s with name := path, arguments := { values := rest.drop 1 } }
      beginScript
      script env n (.ofHandle i)

/-- Executes what is read from standard input. -/
def standardInput (env : Environment) (n : Nat) : Eval Unit := do
  match n with
  | 0 => exhausted
  | n + 1 =>
    match (← get).descriptors.lookup 0 with
    | some i => script env n (.ofHandle i)
    | none => script env n (.ofText [])

/-- Executes a script up to its end. -/
def script (env : Environment) (n : Nat) (input : Input) : Eval Unit := do
  match n with
  | 0 => exhausted
  | n + 1 =>
    let _ ← tryCatch (interpret env n {} true input) fun stop =>
      if stop == .leave then return true else throw stop
    if (← get).has .ignoreeof then
      let warning := "\nUse \"exit\" to leave shell.\n".toList
      let _ ← put 2 (List.replicate 50 warning).flatten

/-- Executes a script line by line; `shown` when its lines may be shown as they are
read. Answers whether there were any commands. -/
def interpret (env : Environment) (n : Nat) (mode : Mode) (shown : Bool) (input : Input) :
    Eval Bool := do
  match n with
  | 0 => exhausted
  | n + 1 =>
    let outer := (← get).readLine
    let executed ← lines env n mode shown input false
    modify fun s => { s with readLine := outer }
    return executed

/-- Executes the lines of a script; `executed` when there were commands before. -/
def lines (env : Environment) (n : Nat) (mode : Mode) (shown : Bool) (input : Input)
    (executed : Bool) : Eval Bool := do
  match n with
  | 0 => exhausted
  | n + 1 =>
    let s ← get
    let start (text : Raw) : Source :=
      { input.source with rest := text, aliases := s.aliases, documents := s.documents }
    let early := (start input.source.rest).next?
    let ahead ← if input.isSettled early then pure [] else input.ahead
    let text := if ahead.isEmpty then input.source.rest else input.source.rest ++ Input.textOf ahead
    match if ahead.isEmpty then early else (start text).next? with
    | .error fault =>
      modify fun s => { s with readLine := fault.line }
      dieOfSyntax fault.line fault.message
    | .ok (command?, rest) =>
      modify fun s => { s with documents := rest.documents, readLine := rest.line }
      if shown && s.has .verbose then
        let _ ← put 2 (text.take (text.length - rest.rest.length))
      match command? with
      | none => return executed
      | some command =>
        let input ← input.after ahead rest
        if command.isNothing then lines env n mode shown input executed
        else
          let atEnd := rest.again && rest.token == .endOfFile
          execute env n { mode with final := mode.final && atEnd } command
          lines env n mode shown input true

end

end Eval

/-! ### Starting programs -/

/-- The bound on nested steps and rounds of loops. -/
def stepBound : Nat :=
  1000000000

end WatInlay.Script
