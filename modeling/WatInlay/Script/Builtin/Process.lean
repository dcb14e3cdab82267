/-
The builtins that deal with signals and jobs, but for `wait`, which executes
commands.
-/

import WatInlay.Script.Builtin.Option
import WatInlay.Script.Job

namespace WatInlay.Script.Eval

/-! ### Signals -/

/-- `trap`: what is done when a signal comes. Without arguments, lists that. -/
def trapBuiltin (args : List Raw) : Eval Nat := do
  match ← noOptions args with
  | [] =>
    let traps := (← get).traps
    let text := Signal.all.flatMap fun n =>
      match traps.lookup n with
      | some action =>
        "trap -- ".toList ++ Raw.quoted action ++ ' ' :: Signal.name n ++ ['\n']
      | none => []
    print text
    return 0
  | first :: rest =>
    let isReset := rest.isEmpty || (!first.isEmpty && first.all Char.isDigit &&
      (Signal.ofText? true first).isSome)
    let action := if isReset || first == ['-'] then none else some first
    setTraps action (if isReset then first :: rest else rest)
where
  /-- Sets the action for signals up to one that does not exist. -/
  setTraps (action : Option Raw) : List Raw → Eval Nat
    | [] => return 0
    | t :: ts => do
      match Signal.ofText? true t with
      | some n =>
        modify fun s =>
          { s with traps :=
              (action.map fun a => (n, a)).toList ++ s.traps.filter (·.1 != n) }
        setTraps action ts
      | none =>
        let _ ← put 2 ("trap: ".toList ++ t ++ ": bad trap\n".toList)
        return 1

/-- How `kill` is used. -/
def killUsage : Text :=
  "Usage: kill [-s sigspec | -signum | -sigspec] [pid | job]... or\nkill -l [exitstatus]".toList

/-- The names of all signals, or the one that a number or status stands for. -/
def listSignals (args : List Raw) : Eval Nat := do
  match args with
  | [] =>
    let names := (Signal.all.drop 1).flatMap fun n => Signal.name n ++ ['\n']
    print ("0\n".toList ++ names)
    return 0
  | t :: _ =>
    let n ← number t
    let n := if n > 128 then n - 128 else n
    if 0 < n && n < Signal.limit then
      print (Signal.name n ++ ['\n'])
      return 0
    else die ("invalid signal number or exit status: ".toList ++ t)

/-- Sends a signal to processes and jobs. The number zero stands for all processes, with
or without a sign; there are no other groups of them. -/
def sendAll (signal : Signal) : List Raw → Eval Nat
  | [] => return 0
  | t :: ts => do
    let sent ← match t with
      | '%' :: _ => do
        let _ ← jobNamed t
        pure false
      | '-' :: t => sendToGroup (← number t)
      | t => do
        let id ← number t
        if id == 0 then sendToGroup id else send id signal
    if !sent then complain "No such process\n".toList
    let status ← sendAll signal ts
    return if sent then status else 1
where
  /-- Sends the signal to a group of processes; false when there is no such group. -/
  sendToGroup (id : Nat) : Eval Bool := do
    if id == 0 then sendToAll signal
    return id == 0

/-- `kill`. -/
def killBuiltin (args : List Raw) : Eval Nat := do
  match args with
  | [] => die killUsage
  | first :: rest =>
    let (list, signal, targets) ← match first with
      | '-' :: name =>
        match Signal.ofText? false name with
        | some n => pure (false, some n, rest)
        | none => do
          let (options, targets) ← takeOptions "ls:" args
          let signal ← chosen none options
          pure (options.any (·.1 == 'l'), signal, targets)
      | _ => pure (false, none, args)
    if list then
      if signal.isSome then die killUsage
      listSignals targets
    else if targets.isEmpty then die killUsage
    else sendAll (signal.getD Signal.termination) targets
where
  /-- The signal that options name last. -/
  chosen (signal : Option Signal) : List OptionFound → Eval (Option Signal)
    | [] => return signal
    | ('s', t) :: options => do
      match Signal.ofText? false t with
      | some n => chosen (some n) options
      | none => die ("invalid signal number or name: ".toList ++ t)
    | _ :: options => chosen signal options

/-! ### Jobs -/

/-- The lines about jobs; those that are over are forgotten. -/
def showJobs (withId onlyId : Bool) : List Job → Eval Raw
  | [] => return []
  | j :: js => do
    let line ← if onlyId then pure (Text.ofNat j.id ++ ['\n']) else jobLine withId j
    if !onlyId && j.state matches .ended _ then forgetJob j
    return line ++ (← showJobs withId onlyId js)

/-- `jobs`. -/
def jobsBuiltin (args : List Raw) : Eval Nat := do
  let (options, args) ← takeOptions "lp" args
  let last := options.getLast?.map (·.1)
  let jobs ← if args.isEmpty then pure (← get).jobs else args.mapM jobNamed
  let text ← showJobs (last == some 'l') (last == some 'p') jobs
  print text
  return 0

/-- `fg` and `bg`, which no job is under. -/
def controlBuiltin (args : List Raw) : Eval Nat := do
  let args ← noOptions args
  let _ ← jobNamed (args.headD ['%'])
  let name := args.headD "(null)".toList
  die ("job ".toList ++ name ++ " not created under job control".toList)

end WatInlay.Script.Eval
