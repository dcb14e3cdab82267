/-
The options of builtins: letters after a hyphen, some with an argument.
-/

import WatInlay.Script.Eval

namespace WatInlay.Script.Eval

/-- An option, with its argument if it takes one. -/
abbrev OptionFound := Char × Raw

/-- Whether an option takes an argument, if it is one of the letters. Those that take one
have a colon after them. -/
def takesArgument? (c : Char) : Raw → Option Bool
  | [] => none
  | d :: t =>
    if d == c then some (t.head? == some ':')
    else
      match t with
      | ':' :: t => takesArgument? c t
      | t => takesArgument? c t

/-- The options at the start of arguments, and the arguments after them. The bound is
the number of characters of the arguments. -/
def readOptions (n : Nat) (letters : Raw) (inside : Raw) (args : List Raw) :
    Eval (List OptionFound × List Raw) := do
  match n, inside with
  | 0, _ => return ([], args)
  | n + 1, [] =>
    match args with
    | ['-', '-'] :: rest => return ([], rest)
    | ('-' :: c :: cs) :: rest => readOptions n letters (c :: cs) rest
    | _ => return ([], args)
  | n + 1, c :: inside =>
    match takesArgument? c letters with
    | none => die ("Illegal option -".toList ++ [c])
    | some true =>
      let (argument, args) ← match inside, args with
        | [], argument :: args => pure (argument, args)
        | [], [] => die ("No arg for -".toList ++ [c] ++ " option".toList)
        | inside, args => pure (inside, args)
      let (options, rest) ← readOptions n letters [] args
      return ((c, argument) :: options, rest)
    | some false =>
      let (options, rest) ← readOptions n letters inside args
      return ((c, []) :: options, rest)

/-- The options among `letters` at the start of arguments, and the arguments after
them. -/
def takeOptions (letters : String) (args : List Raw) : Eval (List OptionFound × List Raw) :=
  readOptions (args.foldl (fun n t => n + t.length + 2) 2) letters.toList [] args

/-- The arguments of a builtin that has no options. -/
def noOptions (args : List Raw) : Eval (List Raw) :=
  return (← takeOptions "" args).2

end WatInlay.Script.Eval
