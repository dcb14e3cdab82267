/-
Limits on what a process may use.

Each resource has a soft limit, which holds, and a hard one, which the soft one does not
exceed. A hard limit can be lowered but not raised. All are numbers below a highest one,
which stands for no limit at all.
-/

import WatInlay.OsError
import WatInlay.Script.Language

namespace WatInlay.Script

/-- What is limited. -/
inductive Resource where
  | time
  /-- The size of a file that is written to. -/
  | fileSize
  | data
  | stack
  | dump
  | residentMemory
  | lockedMemory
  | processes
  | openFiles
  | memory
  | locks
  | priority
  deriving DecidableEq, Repr

/-- The limits of a resource. -/
structure Limit where
  soft : Nat
  hard : Nat
  deriving DecidableEq, Repr

/-- The limits that differ from those at the start, last ones first. -/
abbrev Limits := List (Resource × Limit)

namespace Limit

/-- The number that stands for no limit. -/
def infinite : Nat :=
  Nat.pow 2 64 - 1

/-- No limit at all. -/
def none : Limit :=
  ⟨infinite, infinite⟩

/-- The limit in the place of another one, if that may be. -/
def replacing (old new : Limit) : Except OsError Limit :=
  if new.hard < new.soft then .error .invalidArgument
  else if old.hard < new.hard then .error .notPermitted
  else .ok new

end Limit

namespace Resource

/-- All resources with their letters, titles and units, in the order in which they are
listed. -/
def all : List (Resource × Char × String × Nat) :=
  [(time, 't', "time(seconds)", 1), (fileSize, 'f', "file(blocks)", 512),
    (data, 'd', "data(kbytes)", 1024), (stack, 's', "stack(kbytes)", 1024),
    (dump, 'c', "coredump(blocks)", 512), (residentMemory, 'm', "memory(kbytes)", 1024),
    (lockedMemory, 'l', "locked memory(kbytes)", 1024), (processes, 'p', "process", 1),
    (openFiles, 'n', "nofiles", 1), (memory, 'v', "vmemory(kbytes)", 1024),
    (locks, 'w', "locks", 1), (priority, 'r', "rtprio", 1)]

/-- The resource of a letter. -/
def lettered? (letter : Char) : Option Resource :=
  (all.find? fun r => r.2.1 == letter).map (·.1)

/-- How much a limit counts as one when it is shown or set. -/
def unit (r : Resource) : Nat :=
  ((all.lookup r).map (·.2.2)).getD 1

/-- The limits at the start. -/
def start : Resource → Limit
  | stack => ⟨8192 * 1024, Limit.infinite⟩
  | dump => ⟨0, Limit.infinite⟩
  | lockedMemory => ⟨8192 * 1024, 8192 * 1024⟩
  | openFiles => ⟨1024, 1048576⟩
  | priority => ⟨0, 0⟩
  | _ => Limit.none

/-- The limits of a resource. -/
def limit (r : Resource) (limits : Limits) : Limit :=
  (limits.lookup r).getD r.start

/-- A limit as it is shown. -/
def shown (r : Resource) (n : Nat) : Text :=
  if n = Limit.infinite then "unlimited".toList else Text.ofNat (n / r.unit)

/-- The limit that a text gives. One that is too large loses its highest digits. -/
def ofText? (r : Resource) (t : Raw) : Option Nat :=
  if t = "unlimited".toList then some Limit.infinite
  else if t.all Char.isDigit then some (Text.decimalValue t * r.unit % Nat.pow 2 64)
  else none

end Resource

namespace Limits

/-- The size that no file exceeds by what is written to it, if there is one. A limit that
is no size counts as zero. -/
def fileSize? (limits : Limits) : Option Nat :=
  (limits.lookup .fileSize).bind fun limit =>
    if limit.soft = Limit.infinite then Option.none
    else some (if limit.soft < Nat.pow 2 63 then limit.soft else 0)

end Limits

end WatInlay.Script
