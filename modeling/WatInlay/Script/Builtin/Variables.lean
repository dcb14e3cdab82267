/-
The builtins that deal with variables, arguments and switches.

Each builtin answers its status.
-/

import WatInlay.Script.Builtin.Option
import WatInlay.Script.Line

namespace WatInlay.Script.Eval

/-! ### Variables -/

/-- The variables that `p` holds of, one per line and in order, after a word. -/
def listVariables (word : Raw) (p : Variable → Bool) : Eval Raw := do
  let vs := (← get).bindings.filter fun v => p v.2
  let vs := vs.mergeSort fun a b => !Raw.before b.1 a.1
  return vs.flatMap fun (name, v) =>
    (if word.isEmpty then [] else word ++ [' ']) ++ name ++
      (match v.value with
        | some value => '=' :: Raw.quoted value
        | none => []) ++ ['\n']

/-- Marks variables as exported or fixed, some with a new value. -/
def markVariables (mark : Variable → Variable) : List Raw → Eval Unit
  | [] => return
  | t :: ts => do
    match splitAssignment t with
    | (name, some value) =>
      assignNamed name value
      modify fun s => s.setVariable name ((s.bindings.lookup name).map mark)
    | (name, none) =>
      match (← get).bindings.lookup name with
      | some v => modify fun s => s.setVariable name (some (mark v))
      | none =>
        let _ ← variableName name
        modify fun s => s.setVariable name (some (mark {}))
    markVariables mark ts

/-- `export` and `readonly`. -/
def markBuiltin (name : Raw) (is : Variable → Bool) (mark : Variable → Variable)
    (args : List Raw) : Eval Nat := do
  let (options, args) ← takeOptions "p" args
  if options.isEmpty && !args.isEmpty then
    markVariables mark args
    return 0
  else
    print (← listVariables name is)
    return 0

/-- `local`: variables that get back what they were at the end of the function. -/
def localBuiltin (args : List Raw) : Eval Nat := do
  if (← get).saved.isNone then die "not in a function".toList
  for t in args do
    if t == ['-'] then
      modify fun s => { s with saved := some (.switches s.switches :: s.saved.getD []) }
    else
      let (name, value) := splitAssignment t
      if value.isNone && ((← get).bindings.lookup name).isNone then
        let _ ← variableName name
      keep name
      if let some value := value then assign name value
  return 0

/-- `unset`. -/
def unsetBuiltin (args : List Raw) : Eval Nat := do
  let (options, args) ← takeOptions "vf" args
  let functions := (options.getLast?.map (·.1)) == some 'f'
  for t in args do
    if functions then
      modify fun s => { s with functions := s.functions.filter (·.1 != t) }
    else
      unassign (← variableName t)
  return 0

/-! ### Switches and arguments -/

/-- Replaces the arguments. -/
def setArguments (values : List Raw) : Eval Unit :=
  modify fun s => { s with arguments := { values } }

/-- Refuses to control jobs, for which there is no terminal. -/
def checkMonitor : Eval Unit := do
  if (← get).has .monitor then
    complain "can't access tty; job control turned off".toList
    modify fun s => { s with switches := Switch.turn s.switches .monitor false }

/-- Turns the switch of a name on or off; without a name, lists all of them. -/
def setNamed (on : Bool) : Option Raw → Eval Unit
  | none => do
    print (Switch.listing on (← get).switches)
  | some name =>
    match Switch.named? name with
    | some switch => modify fun s => { s with switches := Switch.turn s.switches switch on }
    | none => die ("Illegal option -o ".toList ++ name)

/-- What the letters at the start of a command line ask for besides switches. -/
structure Launch where
  /-- Whether the first argument holds the commands. -/
  hasCommands : Bool := false
  deriving DecidableEq, Repr

/-- Turns the switches of letters on or off; `o` takes a name from the arguments.
At the start of a shell, `c` and `l` are letters too. -/
def setLetters (starting on : Bool) (launch : Launch) (args : List Raw) :
    Raw → Eval (Launch × List Raw)
  | [] => return (launch, args)
  | c :: cs => do
    if c == 'c' && starting then setLetters starting on { launch with hasCommands := true } args cs
    else if c == 'l' && starting then setLetters starting on launch args cs
    else if c == 'o' then
      setNamed on args.head?
      setLetters starting on launch args.tail cs
    else
      match Switch.lettered? c with
      | some switch =>
        modify fun s => { s with switches := Switch.turnLettered s.switches switch on }
        setLetters starting on launch args cs
      | none => die ("Illegal option -".toList ++ [c])

/-- Turns switches on and off as arguments ask for. The arguments that are left are
new arguments of the script; after two hyphens that holds even when none are.
The bound is the number of arguments. -/
def takeSwitches (starting : Bool) (n : Nat) (launch : Launch) (args : List Raw) :
    Eval (Launch × List Raw) := do
  match n, args with
  | 0, _ | _, [] => return (launch, args)
  | n + 1, t :: rest =>
    match t with
    | ['-'] =>
      if !starting then
        modify fun s =>
          { s with switches := s.switches.filter fun w => w != .xtrace && w != .verbose }
      return (launch, rest)
    | ['-', '-'] =>
      if !starting && rest.isEmpty then setArguments []
      return (launch, rest)
    | '-' :: letters =>
      let (launch, rest) ← setLetters starting true launch rest letters
      takeSwitches starting n launch rest
    | '+' :: letters =>
      let (launch, rest) ← setLetters starting false launch rest letters
      takeSwitches starting n launch rest
    | _ => return (launch, args)

/-- `set`. -/
def setBuiltin (args : List Raw) : Eval Nat := do
  if args.isEmpty then
    print (← listVariables [] (·.value.isSome))
    return 0
  let (_, rest) ← takeSwitches false args.length {} args
  checkMonitor
  if !rest.isEmpty then setArguments rest
  return 0

/-- `shift`. -/
def shiftBuiltin (args : List Raw) : Eval Nat := do
  let n ← match args with
    | t :: _ => number t
    | [] => pure 1
  let values := (← get).arguments.values
  if n > values.length then die "can't shift that many".toList
  setArguments (values.drop n)
  return 0

/-! ### Options of scripts -/

/-- What `getopts` finds: the letter for its variable, the argument of the option,
a message, how many arguments are used up and how much of the last of them. -/
structure OptionStep where
  letter : Char
  argument : Option Raw := none
  complaint : Option Text := none
  used : Nat
  taken : Option Nat := none
  ended : Bool := false
  deriving DecidableEq, Repr

/-- The next option in arguments, of which `used` are used up, the last of them up to
`taken`. In `letters` a colon stands after one that takes an argument; a colon
before all others keeps messages away. -/
def nextOption (letters : Raw) (args : List Raw) (used : Nat) (taken : Option Nat) :
    OptionStep :=
  let current : Raw := match taken with
    | some k => if used = 0 then [] else (args[used - 1]?.getD []).drop k
    | none => []
  let next : Option (Raw × Nat) :=
    if !current.isEmpty then some (current, used)
    else
      match args[used]? with
      | some ('-' :: c :: cs) => some (c :: cs, used + 1)
      | _ => none
  match next with
  | none => { letter := '?', used, ended := true }
  | some ([], used) => { letter := '?', used, ended := true }
  | some (c :: rest, now) =>
    if current.isEmpty && c == '-' && rest.isEmpty then { letter := '?', used := now, ended := true }
    else
      let word := args[now - 1]?.getD []
      let taken := if rest.isEmpty then word.length else word.length - rest.length
      let quiet := letters.head? == some ':'
      match takesArgument? c letters with
      | none =>
        if quiet then { letter := '?', argument := some [c], used := now, taken := some taken }
        else
          { letter := '?', used := now, taken := some taken
            complaint := some ("Illegal option -".toList ++ [c]) }
      | some false => { letter := c, argument := some [], used := now, taken := some taken }
      | some true =>
        if !rest.isEmpty then { letter := c, argument := some rest, used := now }
        else
          match args[now]? with
          | some t => { letter := c, argument := some t, used := now + 1 }
          | none =>
            if quiet then { letter := ':', argument := some [c], used := now }
            else
              { letter := '?', used := now
                complaint := some ("No arg for -".toList ++ [c] ++ " option".toList) }

/-- `getopts`. -/
def getoptsBuiltin (args : List Raw) : Eval Nat := do
  match args with
  | letters :: name :: rest =>
    let a := (← get).arguments
    let values := if rest.isEmpty then a.values else rest
    let restart := a.next = 0 || a.next > values.length + 1
    let (next, taken) := if restart then (1, none) else (a.next, a.taken)
    modify fun s => { s with arguments := { s.arguments with next := 0 } }
    let step := nextOption letters values (next - 1) taken
    if !step.ended then
      if let some message := step.complaint then
        let _ ← put 2 (message ++ ['\n'])
      match step.argument with
      | some t => assign "OPTARG".toList t
      | none => unassign "OPTARG".toList
    store "OPTIND".toList (Text.ofNat (step.used + 1))
    assignNamed name [step.letter]
    modify fun s =>
      { s with arguments := { s.arguments with next := step.used + 1, taken := step.taken } }
    return if step.ended then 1 else 0
  | _ => die "Usage: getopts optstring var [arg...]".toList

/-! ### Input -/

/-- `read`: a line of input, distributed over variables. -/
def readBuiltin (args : List Raw) : Eval Nat := do
  let (options, names) ← takeOptions "p:r" args
  if names.isEmpty then die "arg count".toList
  let raw := options.any (·.1 == 'r')
  let input := ((← get).handle? 0).map (·.1)
  let (line, ended, n) := takeLine raw (← input.elim (pure []) unread)
  if let some i := input then skip i n
  let values := distribute (← get).separators names.length line
  for (name, value) in names.zip values do
    assignNamed name value
  return if ended then 0 else 1

end WatInlay.Script.Eval
