/-
The builtins that set aliases and show them.
-/

import WatInlay.Script.Builtin.Option

namespace WatInlay.Script

namespace Alias

/-- An alias as a command could set it. -/
def shown (name value : Raw) : Raw :=
  name ++ '=' :: Raw.quoted value ++ ['\n']

/-- The aliases with one more, or with a new text for one. -/
def put (aliases : List (Raw × Raw)) (name value : Raw) : List (Raw × Raw) :=
  if (aliases.lookup name).isSome then
    aliases.map fun a => if a.1 == name then (name, value) else a
  else aliases ++ [(name, value)]

end Alias

namespace Eval

/-- `alias`: sets aliases and shows them. -/
def aliasBuiltin (args : List Raw) : Eval Nat := do
  if args.isEmpty then
    let all := Raw.byBucket 39 (← get).aliases
    print (all.flatMap fun (name, value) => Alias.shown name value)
    return 0
  let mut text : Raw := []
  let mut status := 0
  for t in args do
    match (t.drop 1).dropWhile (· != '=') with
    | _ :: value =>
      let name := t.take (t.length - value.length - 1)
      modify fun s => { s with aliases := Alias.put s.aliases name value }
    | [] =>
      match (← get).aliases.lookup t with
      | some value => text := text ++ Alias.shown t value
      | none =>
        let _ ← put 2 ("alias: ".toList ++ t ++ " not found\n".toList)
        status := 1
  print text
  return status

/-- `unalias`. -/
def unaliasBuiltin (args : List Raw) : Eval Nat := do
  let (options, args) ← takeOptions "a" args
  if !options.isEmpty then
    modify fun s => { s with aliases := [] }
    return 0
  let mut status := 0
  for t in args do
    if ((← get).aliases.lookup t).isNone then
      let _ ← put 2 ("unalias: ".toList ++ t ++ " not found\n".toList)
      status := 1
    modify fun s => { s with aliases := s.aliases.filter (·.1 != t) }
  return status

end Eval

end WatInlay.Script
