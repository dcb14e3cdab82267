/-
The builtins that tell what a name stands for as a command.
-/

import WatInlay.Script.Builtin.Alias
import WatInlay.Script.Builtin.Name
import WatInlay.Script.Program
import WatInlay.Script.Token

namespace WatInlay.Script

/-- What a name stands for as a command. -/
inductive Meaning where
  | keyword
  | alias (value : Raw)
  | function
  | builtin (special : Bool)
  | program (path : Raw)
  /-- A program that was found before. -/
  | tracked (path : Raw)
  deriving DecidableEq, Repr

namespace Meaning

/-- The meaning in words. -/
def description : Meaning → Text
  | keyword => "a shell keyword".toList
  | .alias value => "an alias for ".toList ++ value
  | function => "a shell function".toList
  | builtin true => "a special shell builtin".toList
  | builtin false => "a shell builtin".toList
  | program path => path
  | tracked path => "a tracked alias for ".toList ++ path

/-- What `command -v` prints. -/
def short (name : Raw) : Meaning → Raw
  | .alias value => "alias ".toList ++ name ++ '=' :: Raw.quoted value
  | program path | tracked path => path
  | _ => name

end Meaning

namespace Eval

/-- What a name stands for as a command, if anything. A program that is found counts as
found from then on. -/
def meaning? (name : Raw) : Eval (Option Meaning) := do
  let s ← get
  if (Keyword.ofText? name).isSome then return some .keyword
  if let some value := s.aliases.lookup name then return some (.alias value)
  if name.contains '/' then
    return if s.tree.exists? (Raw.toText name) then some (.program name) else none
  if (s.functions.lookup name).isSome then return some .function
  if (Builtin.ofName? name).isSome then return some (.builtin (Builtin.isSpecial name))
  if let some path := s.tracked.lookup name then return some (.tracked path)
  match Environment.locate s.searchPath s.tree (Raw.toText name) with
  | .ok path =>
    let path := Raw.ofText path
    set { s with tracked := s.tracked ++ [(name, path)] }
    return some (.program path)
  | .error _ => return none

/-- The lines that tell what names stand for, and whether all stand for something. -/
def describe : List Raw → Eval (Raw × Bool)
  | [] => return ([], true)
  | name :: names => do
    let (line, found) ← match ← meaning? name with
      | some m => pure (" is ".toList ++ m.description ++ ['\n'], true)
      | none => pure (": not found\n".toList, false)
    let (lines, all) ← describe names
    return (name ++ line ++ lines, found && all)

/-- `type`. -/
def typeBuiltin (args : List Raw) : Eval Nat := do
  let (lines, all) ← describe args
  print lines
  return if all then 0 else 127

/-- `command` with an option that asks for a meaning. -/
def meaningBuiltin (inWords : Bool) (args : List Raw) : Eval Nat := do
  match args with
  | [] => return 0
  | name :: _ =>
    if inWords then typeBuiltin [name]
    else
      match ← meaning? name with
      | some m =>
        print (m.short name ++ ['\n'])
        return 0
      | none => return 127

/-- `hash`: the programs that were found before. -/
def hashBuiltin (args : List Raw) : Eval Nat := do
  let (options, args) ← takeOptions "r" args
  if !options.isEmpty then
    modify fun s => { s with tracked := [] }
    return 0
  if args.isEmpty then
    let text := (Raw.byBucket 31 (← get).tracked).flatMap fun p => p.2 ++ ['\n']
    print text
    return 0
  let mut status := 0
  for name in args do
    let s ← get
    if (s.functions.lookup name).isNone && (Builtin.ofName? name).isNone &&
        !name.contains '/' then
      match Environment.locate s.searchPath s.tree (Raw.toText name) with
      | .ok path =>
        modify fun s =>
          { s with tracked := s.tracked.filter (·.1 != name) ++ [(name, Raw.ofText path)] }
      | .error e =>
        let reason := if Environment.locate.isAbsence e then "not found".toList else e.description
        complain (name ++ ": ".toList ++ reason)
        status := 1
  return status

end Eval

end WatInlay.Script
