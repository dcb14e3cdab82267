/-
What a run reports about the blocks of a source.

A `Summary` has a JSON value, in which a block's status stands among the
block's other members and only a failed block has diagnostics.
-/

import WatInlay.Buffer
import WatInlay.Error
import WatInlay.Json

namespace WatInlay

/-- What became of a block. -/
inductive Status where
  /-- Its literal statement already carried the module. -/
  | unchanged
  /-- The payload of its literal statement was replaced. -/
  | updated
  /-- It was given a literal statement. -/
  | inserted
  /-- The compiler rejected it; the diagnostics are in the coordinates of the
  source. -/
  | failed (diagnostics : Text)
  deriving DecidableEq, Repr

namespace Status

/-- The status of a block whose literal statement was brought up to date. -/
def ofChange : Change → Status
  | .unchanged => unchanged
  | .updated => updated
  | .inserted => inserted

/-- The name of a status. -/
def name : Status → Text
  | unchanged => "unchanged".toList
  | updated => "updated".toList
  | inserted => "inserted".toList
  | failed _ => "failed".toList

/-- The diagnostics of a failed block. -/
def diagnostics? : Status → Option Text
  | failed d => some d
  | _ => none

end Status

/-- The report on one block. -/
structure BlockReport where
  /-- The line of the opening mark, counted from one in the text as it stood
  when the block was reached. -/
  line : Nat
  options : List Text
  status : Status
  deriving DecidableEq, Repr

/-- How many blocks have each status. -/
structure Counts where
  inserted : Nat
  updated : Nat
  unchanged : Nat
  failed : Nat
  deriving DecidableEq, Repr

/-- The counts of the reports. -/
def Counts.tally (blocks : List BlockReport) : Counts where
  inserted := blocks.countP (·.status = .inserted)
  updated := blocks.countP (·.status = .updated)
  unchanged := blocks.countP (·.status = .unchanged)
  failed := blocks.countP (·.status.diagnostics?.isSome)

/-- The report on one source file. -/
structure Summary where
  path : Path
  dialect : Text
  modified : Bool
  /-- Whether the formatter ran, after the file was written, and succeeded. -/
  formatted : Bool
  counts : Counts
  blocks : List BlockReport
  deriving DecidableEq, Repr

/-! ### As JSON -/

namespace Json

/-- The value of a block's report. -/
def ofBlockReport (b : BlockReport) : Json :=
  .object <|
    [("line".toList, nat b.line), ("options".toList, .array (b.options.map .string)),
      ("status".toList, .string b.status.name)] ++
    (b.status.diagnostics?.map fun d => ("diagnostics".toList, .string d)).toList

/-- The value of a table of counts. -/
def ofCounts (c : Counts) : Json :=
  .object
    [("inserted".toList, nat c.inserted), ("updated".toList, nat c.updated),
      ("unchanged".toList, nat c.unchanged), ("failed".toList, nat c.failed)]

/-- The value of a summary. -/
def ofSummary (s : Summary) : Json :=
  .object
    [("path".toList, .string s.path), ("dialect".toList, .string s.dialect),
      ("modified".toList, .bool s.modified), ("formatted".toList, .bool s.formatted),
      ("counts".toList, ofCounts s.counts), ("blocks".toList, .array (s.blocks.map ofBlockReport))]

/-- The value of an error: its code, and its details when it has any. -/
def ofError (e : ToolError) : Json :=
  .object <|
    ("code".toList, .string e.code) ::
    if e.detail.isEmpty then []
    else [("detail".toList, .object (e.detail.map fun (k, v) => (k, .string v)))]

end Json

end WatInlay
