/-
The builtins that execute no commands.
-/

import WatInlay.Script.Builtin.Directory
import WatInlay.Script.Builtin.Limit
import WatInlay.Script.Builtin.Lookup
import WatInlay.Script.Builtin.Process
import WatInlay.Script.Builtin.Variables
import WatInlay.Script.Format
import WatInlay.Script.Test

namespace WatInlay.Script.Eval

/-- `exit`. -/
def exitBuiltin (args : List Raw) : Eval Nat := do
  match args with
  | t :: _ => setStatus (← number t)
  | [] =>
    let s ← get
    setStatus (s.statusBefore.getD s.status)
  throw .exit

/-- `return`. -/
def returnBuiltin (args : List Raw) : Eval Nat := do
  if let t :: _ := args then setStatus (← number t)
  throw .leave

/-- `break` and `continue`. -/
def loopBuiltin (stop : Nat → Stop) (args : List Raw) : Eval Nat := do
  let n ← match args with
    | t :: _ => do
      let n ← number t
      if n = 0 then die ("Illegal number: ".toList ++ t)
      pure n
    | [] => pure 1
  let n := min n (← get).loops
  setStatus 0
  if n = 0 then return 0 else throw (stop n)

/-- `printf`. -/
def printfBuiltin (args : List Raw) : Eval Nat := do
  match ← noOptions args with
  | [] => die "usage: printf format [arg ...]".toList
  | format :: args =>
    let r := Format.printf format args
    for fault in r.faults ++ r.wrong.toList do
      complain fault
    print r.text
    return if r.wrong.isSome then 2 else if r.faults.isEmpty then 0 else 1

/-- `test` and `[`, which takes any last argument that begins with a bracket. -/
def testBuiltin (name : Raw) (args : List Raw) : Eval Nat := do
  let args ←
    if name != ['['] then pure args
    else if (args.getLastD []).head? == some ']' then pure args.dropLast
    else die "missing ]".toList
  let s ← get
  match Test.holds { find := s.find?, isLink := s.isLink } args with
  | .ok b => return if b then 0 else 1
  | .error e => die e.message

/-- A builtin that executes no commands. -/
def plainBuiltin (b : Builtin) (name : Raw) (args : List Raw) : Eval Nat := do
  match b with
  | .alias => aliasBuiltin args
  | .bg | .fg => controlBuiltin args
  | .break => loopBuiltin .break args
  | .cd => cdBuiltin args
  | .continue => loopBuiltin .continue args
  | .echo =>
    print (Format.echo args)
    return 0
  | .exit => exitBuiltin args
  | .export =>
    markBuiltin name (·.exported) (fun v => { v with exported := true }) args
  | .false => return 1
  | .getopts => getoptsBuiltin args
  | .hash => hashBuiltin args
  | .jobs => jobsBuiltin args
  | .kill => killBuiltin args
  | .local => localBuiltin args
  | .printf => printfBuiltin args
  | .pwd => pwdBuiltin args
  | .read => readBuiltin args
  | .readonly => markBuiltin name (·.fixed) (fun v => { v with fixed := true }) args
  | .return => returnBuiltin args
  | .set => setBuiltin args
  | .shift => shiftBuiltin args
  | .test => testBuiltin name args
  | .times =>
    let line := "0m0.000000s 0m0.000000s\n".toList
    print (line ++ line)
    return 0
  | .trap => trapBuiltin args
  | .type => typeBuiltin args
  | .ulimit => ulimitBuiltin args
  | .umask => umaskBuiltin args
  | .unalias => unaliasBuiltin args
  | .unset => unsetBuiltin args
  | .command => do
    let (options, args) ← takeOptions "pvV" args
    match (options.filter (·.1 != 'p')).getLast? with
    | some (c, _) => meaningBuiltin (c == 'V') args
    | none => return 0
  | .dot | .eval | .exec | .true | .wait => return 0

end WatInlay.Script.Eval
