/-
The command line: `[FILE] [--config CONFIG] [--json] [--debug]`.

Arguments are read from left to right, and the first that asks for help or the
version, or that is wrong, decides. After `--` every argument is a file.
-/

import WatInlay.Path

namespace WatInlay

/-- What a run is told on the command line. -/
structure Options where
  file : Option Path := none
  config : Option Path := none
  json : Bool := false
  /-- Whether the options and the body of every block are logged. The command line is
  checked for it, and nothing else depends on it here: there is no log. -/
  debug : Bool := false
  deriving DecidableEq, Repr

/-- What the command line asks for. -/
inductive Request where
  | run (options : Options)
  | version
  | help
  deriving DecidableEq, Repr

/-- What is wrong with a command line. -/
inductive UsageError where
  | unexpectedArgument (argument : Text)
  | repeated (option : Text)
  | missingValue (option : Text)
  | unexpectedValue (option value : Text)
  deriving DecidableEq, Repr

/-- The error in words: the first line of what is said of it, before the usage and the
hints. -/
def UsageError.message : UsageError → Text
  | unexpectedArgument a => "error: unexpected argument '".toList ++ a ++ "' found".toList
  | repeated o =>
    "error: the argument '".toList ++ o ++ "' cannot be used multiple times".toList
  | missingValue o =>
    "error: a value is required for '".toList ++ o ++ "' but none was supplied".toList
  | unexpectedValue o v =>
    "error: unexpected value '".toList ++ v ++ "' for '".toList ++ o ++ "' found".toList

namespace CommandLine

/-- An argument as it is written. -/
inductive Argument where
  /-- `--name` or `--name=value`. -/
  | long (name : Text) (value : Option Text)
  /-- `-` and at least one letter. -/
  | short (letter : Char)
  /-- `--` alone. -/
  | separator
  /-- Anything else, a single `-` among it. -/
  | plain (text : Text)
  deriving DecidableEq, Repr

/-- How an argument is written. -/
def Argument.ofText : Text → Argument
  | ['-', '-'] => .separator
  | '-' :: '-' :: rest =>
    match rest.dropWhile (· ≠ '=') with
    | _ :: value => .long (rest.takeWhile (· ≠ '=')) (some value)
    | [] => .long rest none
  | '-' :: letter :: _ => .short letter
  | t => .plain t

/-- The options after one more file. -/
def addFile (o : Options) (t : Text) : Except UsageError Options :=
  if o.file.isSome then .error (.unexpectedArgument t)
  else if t.isEmpty then .error (.missingValue "[FILE]".toList)
  else .ok { o with file := t }

/-- The options after one more configuration file. -/
def addConfig (o : Options) (t : Text) : Except UsageError Options :=
  if t.isEmpty then .error (.missingValue "--config <CONFIG>".toList)
  else if o.config.isSome then .error (.repeated "--config <CONFIG>".toList)
  else .ok { o with config := t }

/-- The options with a switch on; `was` says whether it was on before. -/
def addSwitch (name : Text) (value : Option Text) (was : Bool) (on : Options) :
    Except UsageError Options :=
  match value with
  | some v => .error (.unexpectedValue name v)
  | none => if was then .error (.repeated name) else .ok on

/-- Files only. -/
def readFiles (o : Options) : List Text → Except UsageError Request
  | [] => .ok (.run o)
  | t :: ts => do readFiles (← addFile o t) ts

/-- Reads the arguments after those that gave `o`. -/
def read (o : Options) : List Text → Except UsageError Request
  | [] => .ok (.run o)
  | t :: ts =>
    match Argument.ofText t with
    | .separator => readFiles o ts
    | .plain t => do read (← addFile o t) ts
    | .short 'V' => .ok .version
    | .short 'h' => .ok .help
    | .short _ => .error (.unexpectedArgument t)
    | .long name value =>
      if name = "version".toList ∧ value = none then .ok .version
      else if name = "help".toList ∧ value = none then .ok .help
      else if name = "json".toList then do
        read (← addSwitch "--json".toList value o.json { o with json := true }) ts
      else if name = "debug".toList then do
        read (← addSwitch "--debug".toList value o.debug { o with debug := true }) ts
      else if name = "config".toList then
        match value, ts with
        | some v, ts => do read (← addConfig o v) ts
        | none, v :: ts =>
          match Argument.ofText v with
          | .plain v => do read (← addConfig o v) ts
          | _ => .error (.missingValue "--config <CONFIG>".toList)
        | none, [] => .error (.missingValue "--config <CONFIG>".toList)
      else .error (.unexpectedArgument t)

/-- What the arguments ask for. -/
def parse (arguments : List Text) : Except UsageError Request :=
  read {} arguments

end CommandLine

end WatInlay
