/-
Scripts that are read from open files while they are executed.

A file is read block by block, as the commands need it. What the commands of a line write
to the file of their own script is therefore read afterwards, unless the block was read
before. Null characters do not count.
-/

import WatInlay.Script.Eval
import WatInlay.Script.Source

namespace WatInlay.Script

/-- A script that is being executed. -/
structure Input where
  /-- What has been read and not yet been executed. -/
  source : Source
  /-- The open file in which the text goes on, if it does. -/
  handle : Option Nat := none

namespace Input

/-- A text as a script. -/
def ofText (t : Raw) : Input :=
  { source := { rest := t } }

/-- An open file as a script. -/
def ofHandle (i : Nat) : Input :=
  { source := { rest := [] }, handle := some i }

/-- How many bytes of a file are read at a time. -/
def blockSize : Nat :=
  8192

/-- The text of a script in a file. -/
def textOf (bs : Bytes) : Raw :=
  (Raw.ofBytes bs).filter (· != '\x00')

/-- How many bytes of a file are read to have `n` characters of its text. -/
def bytesFor (n : Nat) (bs : Bytes) : Nat :=
  let (_, needed) := bs.foldl
    (fun (left, k) b => if left = 0 then (0, k) else (if b = 0 then left else left - 1, k + 1))
    (n, 0)
  min bs.length ((needed + blockSize - 1) / blockSize * blockSize)

/-- How much of a text is the script's own and not that of an alias. -/
def ownLength (s : Source) : Nat :=
  s.rest.length - s.spans.foldl (fun n span => n + span.left) 0

/-- How much of what was read is left over for it to be certain that commands do not
depend on more. -/
def margin : Nat :=
  64

/-- Whether the next command is the same whatever follows what was read. -/
def isSettled (input : Input) : Except SyntaxFault (Option Command × Source) → Bool
  | .ok (_, rest) =>
    input.handle.isNone || rest.spans.isEmpty && !(rest.rest.drop margin).isEmpty
  | .error _ => input.handle.isNone

/-- What follows in the file as it is now. -/
def ahead (input : Input) : Eval Bytes :=
  match input.handle with
  | none => return []
  | some i => Eval.unread i

/-- The script after commands, when `rest` is left of what was read and what stood
ahead. What has not been read is left to the file. -/
def after (input : Input) (ahead : Bytes) (rest : Source) : Eval Input := do
  match input.handle, ahead with
  | none, _ | _, [] => return { input with source := rest }
  | some i, ahead =>
    let following := (textOf ahead).length
    let n := bytesFor (following - ownLength rest) ahead
    Eval.skip i n
    let unread := (textOf (ahead.drop n)).length
    return { input with source := { rest with rest := rest.rest.take (rest.rest.length - unread) } }

end Input

end WatInlay.Script
