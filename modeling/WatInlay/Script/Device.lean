/-
What stands at paths: files, directories, and what is neither.

The paths below `/dev` lead to devices, and to what the descriptors of the process
that follows them lead to.
-/

import WatInlay.FileSystem

namespace WatInlay.Script

/-- A device. What devices hold that are read without an end is not modelled: all are
read as if they held nothing. -/
inductive Device where
  | null
  | zero
  /-- There is no room on it for anything. -/
  | full
  | random
  | urandom
  /-- The terminal of the process, which has none. -/
  | terminal
  deriving DecidableEq, Repr

namespace Device

/-- The devices by their names. -/
def named : List (Text × Device) :=
  [("null", null), ("zero", zero), ("full", full), ("random", random), ("urandom", urandom),
    ("tty", terminal)].map fun (name, d) => (name.toList, d)

end Device

/-- What no file stands for. -/
inductive Special where
  | device (d : Device)
  /-- What a descriptor leads to. -/
  | descriptor (n : Nat)
  /-- What can neither exist nor be made. -/
  | nothing
  deriving DecidableEq, Repr

namespace Special

/-- The descriptors with names of their own. -/
def descriptors : List (Text × Nat) :=
  [("stdin", 0), ("stdout", 1), ("stderr", 2)].map fun (name, n) => (name.toList, n)

/-- What stands at the special places for everyone who does not know about them. -/
def nodes : List (Place × Node) :=
  let folder : Text := "dev".toList
  [([folder], .folder), ([folder, "fd".toList], .folder)] ++
    (Device.named.map (·.1) ++ descriptors.map (·.1)).map fun name =>
      ([folder, name], .file [] false)

/-- Files with special places. -/
def added (files : FileSystem) : FileSystem :=
  nodes.foldl (fun files (p, node) => files.build [] p node) files

/-- The number that digits without needless zeros write. -/
def number? (t : Text) : Option Nat :=
  if t ≠ [] ∧ t.all Char.isDigit ∧ (t.length = 1 ∨ t.head? ≠ some '0') then
    some (Text.decimalValue t)
  else none

/-- What is special about a place. -/
def ofPlace? : Place → Option Special
  | [folder, name] =>
    if folder ≠ "dev".toList then none
    else
      match descriptors.lookup name with
      | some n => some (.descriptor n)
      | none => (Device.named.lookup name).map .device
  | [folder, inner, name] =>
    if folder = "dev".toList ∧ inner = "fd".toList then
      some ((number? name).elim .nothing .descriptor)
    else none
  | _ => none

end Special

/-- What tells one thing from all others. -/
inductive Identity where
  | place (p : Place)
  | device (d : Device)
  /-- An open file that no path leads to. -/
  | handle (i : Nat)
  deriving DecidableEq, Repr

/-- What kind of thing stands at a path. -/
inductive Kind where
  | file
  | folder
  | device
  | pipe
  deriving DecidableEq, Repr

/-- What stands at a path. -/
structure Finding where
  identity : Identity
  kind : Kind
  executable : Bool := false
  /-- Whether it has a size. -/
  hasSize : Bool := false
  deriving DecidableEq, Repr

end WatInlay.Script
