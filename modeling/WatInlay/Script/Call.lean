/-
Calls of builtins, functions and programs by simple commands.

A builtin takes its arguments as values when it assigns, and `command` calls what
its arguments name.
-/

import WatInlay.Script.Builtin.Name
import WatInlay.Script.Expansion
import WatInlay.Script.Program

namespace WatInlay.Script.Eval

/-! ### Words -/

/-- Whether the words so far begin a command whose arguments may be values. Words
before the first one that is no option of `command` do not count. -/
def takesValues (s : Shell) : List Raw → Bool
  | [] => false
  | name :: args =>
    if (s.functions.lookup name).isSome then false
    else
      match Builtin.ofName? name with
      | some .command => inner args
      | some b => b.takesAssignments
      | none => false
where
  /-- The same after the word `command`. -/
  inner : List Raw → Bool
    | [] => false
    | t :: args =>
      if t == ['-', 'p'] || t == ['-', '-'] then inner args
      else
        match Builtin.ofName? t with
        | some .command => inner args
        | some b => b.takesAssignments
        | none => false

/-- The words of a command. -/
def expandCommand (capture : Command → Eval Raw) (fields : List Raw) :
    List Word → Eval (List Raw)
  | [] => return fields
  | word :: words => do
    let new ← match if takesValues (← get) fields then word.assignment? else none with
      | some (name, value) => pure [name ++ '=' :: (← expandValue capture value)]
      | none => expandWord capture word
    expandCommand capture (fields ++ new) words

/-- What a simple command calls. -/
structure Call where
  name : Raw
  args : List Raw
  /-- Whether functions do not count. -/
  skipsFunctions : Bool := false
  deriving DecidableEq, Repr

/-- The command that `command` calls; that builtin itself when it has other options
than `-p`, or nothing to call. -/
def Call.resolve (s : Shell) (c : Call) : Call :=
  if (s.functions.lookup c.name).isSome || Builtin.ofName? c.name != some .command then c
  else
    match inner c.args with
    | some (name, args) => { name, args, skipsFunctions := true }
    | none => c
where
  /-- The words that are called after the word `command`. -/
  inner : List Raw → Option (Raw × List Raw)
    | [] => none
    | ['-', '-'] :: args =>
      match args with
      | [] => none
      | name :: args => some (name, args)
    | ('-' :: c :: cs) :: args => if (c :: cs).all (· == 'p') then inner args else none
    | name :: args =>
      if Builtin.ofName? name == some .command then inner args else some (name, args)

/-- Shows a command, if commands are to be shown. -/
def trace (before : Raw) (messages : Option Nat) (words : List Raw) : Eval Unit := do
  let outer := (← get).descriptors
  setDescriptor 2 messages
  let _ ← put 2 (before ++ Text.joinWith [' '] words ++ ['\n'])
  modify fun s => { s with descriptors := outer }

/-! ### Programs -/

/-- The path of a program, or a complaint that there is none. -/
def programPath? (name : Raw) : Eval (Option Raw) := do
  let s ← get
  if name.contains '/' then return some name
  match s.tracked.lookup name with
  | some path => return some path
  | none =>
    let found :=
      if name.isEmpty then .error .accessDenied
      else Environment.locate s.searchPath s.tree (Raw.toText name)
    match found with
    | .ok path =>
      let path := Raw.ofText path
      modify fun s => { s with tracked := s.tracked ++ [(name, path)] }
      return some path
    | .error e =>
      let reason := if Environment.locate.isAbsence e then "not found".toList else e.description
      complain (name ++ ": ".toList ++ reason)
      return none

/-- Ends the process, since a program cannot be run. -/
def refuse (name : Raw) (e : OsError) : Eval Unit := do
  let absent := Environment.locate.isAbsence e
  let reason := if absent then "not found".toList else e.description
  complain (name ++ ": ".toList ++ reason)
  setStatus (if absent then 127 else 126)
  throw .finish

end WatInlay.Script.Eval
