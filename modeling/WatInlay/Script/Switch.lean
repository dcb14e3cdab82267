/-
The switches of a shell, which `set` turns on and off.
-/

import WatInlay.Script.Language

namespace WatInlay.Script

/-- A switch of the shell. -/
inductive Switch where
  /-- A failing command ends the script. -/
  | errexit
  /-- Words are not matched against file names. -/
  | noglob
  | ignoreeof
  | interactive
  | monitor
  /-- Commands are read and not executed. -/
  | noexec
  /-- Commands are read from standard input. -/
  | stdin
  /-- Simple commands are shown before they run. -/
  | xtrace
  /-- Lines are shown as they are read. -/
  | verbose
  | vi
  | emacs
  /-- Files that exist are not overwritten. -/
  | noclobber
  /-- Variables that get a value are exported. -/
  | allexport
  | notify
  /-- A parameter without a value is an error. -/
  | nounset
  | privileged
  | nolog
  | debug
  deriving DecidableEq, Repr

namespace Switch

/-- All switches with their names and letters, in the order in which they are
listed. -/
def all : List (Switch × String × Option Char) :=
  [(errexit, "errexit", some 'e'), (noglob, "noglob", some 'f'),
    (ignoreeof, "ignoreeof", some 'I'), (interactive, "interactive", some 'i'),
    (monitor, "monitor", some 'm'), (noexec, "noexec", some 'n'), (stdin, "stdin", some 's'),
    (xtrace, "xtrace", some 'x'), (verbose, "verbose", some 'v'), (vi, "vi", some 'V'),
    (emacs, "emacs", some 'E'), (noclobber, "noclobber", some 'C'),
    (allexport, "allexport", some 'a'), (notify, "notify", some 'b'),
    (nounset, "nounset", some 'u'), (privileged, "privileged", some 'p'), (nolog, "nolog", none),
    (debug, "debug", none)]

/-- The switch of a name. -/
def named? (name : Raw) : Option Switch :=
  (all.find? fun s => s.2.1.toList == name).map (·.1)

/-- The switch of a letter. -/
def lettered? (letter : Char) : Option Switch :=
  (all.find? fun s => s.2.2 == some letter).map (·.1)

/-- The letters of the switches that are on, as `$-` shows them. -/
def letters (on : List Switch) : Raw :=
  (all.filter fun s => on.contains s.1).reverse.filterMap (·.2.2)

/-- The switches with one more of them on, or off. -/
def turn (on : List Switch) (s : Switch) (value : Bool) : List Switch :=
  let others := on.filter (· != s)
  if value then s :: others else others

/-- The switches with the one of a letter on, or off. A letter never leaves both
ways of editing lines on. -/
def turnLettered (on : List Switch) (s : Switch) (value : Bool) : List Switch :=
  let on := turn on s value
  if !value then on
  else if s == .vi then turn on .emacs false
  else if s == .emacs then turn on .vi false
  else on

/-- One switch per line, as a table or as commands that set it. -/
def listing (table : Bool) (on : List Switch) : Raw :=
  if table then
    "Current option settings\n".toList ++ all.flatMap fun (s, name, _) =>
      name.toList ++ List.replicate (16 - name.length) ' ' ++
        (if on.contains s then "on\n" else "off\n").toList
  else
    all.flatMap fun (s, name, _) =>
      (if on.contains s then "set -o " else "set +o ").toList ++ name.toList ++ ['\n']

end Switch

end WatInlay.Script
