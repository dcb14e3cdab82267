/-
The commands that are built into the shell, by name.
-/

import WatInlay.Script.Language

namespace WatInlay.Script

/-- A command that is built into the shell. -/
inductive Builtin where
  | alias
  | bg
  | break
  | cd
  | command
  | continue
  | dot
  | echo
  | eval
  | exec
  | exit
  | export
  | false
  | fg
  | getopts
  | hash
  | jobs
  | kill
  | local
  | printf
  | pwd
  | read
  | readonly
  | return
  | set
  | shift
  | test
  | times
  | trap
  | true
  | type
  | ulimit
  | umask
  | unalias
  | unset
  | wait
  deriving DecidableEq, Repr

namespace Builtin

/-- All names of builtins. -/
def named : List (Raw × Builtin) :=
  [("alias", .alias), ("bg", bg), ("break", .break), ("cd", cd), ("chdir", cd),
    ("command", command), ("continue", .continue), (".", dot), ("echo", echo), ("eval", eval),
    ("exec", exec), ("exit", exit), ("export", .export), ("false", .false), ("fg", fg),
    ("getopts", getopts), ("hash", hash), ("jobs", jobs), ("kill", kill), ("local", .local),
    ("printf", printf), ("pwd", pwd), ("read", read), ("readonly", readonly),
    ("return", .return), ("set", set), ("shift", shift), ("test", test), ("[", test),
    ("times", times), ("trap", trap), ("true", .true), (":", .true), ("type", type),
    ("ulimit", ulimit), ("umask", umask), ("unalias", unalias), ("unset", unset),
    ("wait", wait)].map fun (name, b) => (String.toList name, b)

/-- The builtin of a name. -/
def ofName? (name : Raw) : Option Builtin :=
  named.lookup name

/-- Whether a builtin changes the shell itself, so that an error in it ends the
script, and assignments before it stay. -/
def isSpecial (name : Raw) : Bool :=
  name == [':'] ||
    match ofName? name with
    | some b =>
      match b with
      | .break | .continue | dot | eval | exec | exit | .export | .local | readonly | .return
      | set | shift | times | trap | unset => Bool.true
      | _ => Bool.false
    | none => Bool.false

/-- Whether arguments that assign are values, which are not split. -/
def takesAssignments : Builtin → Bool
  | .alias | .export | .local | readonly => Bool.true
  | _ => Bool.false

end Builtin

end WatInlay.Script
