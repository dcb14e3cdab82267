/-
Lines that are read: how they end, and how their fields become the values of
variables.

The last variable takes what is left of the line: one field without its
separator, or else several fields with all separators but white space at the
end. Characters that a backslash protects are text, but do not tell whether
anything is left.
-/

import WatInlay.Script.Field

namespace WatInlay.Script

/-- A piece of a line. -/
inductive LinePiece where
  | char (c : Char)
  /-- A character that a backslash keeps from separating fields. -/
  | kept (c : Char)
  /-- Where a backslash joins two lines. -/
  | joint
  deriving DecidableEq, Repr

/-- One line of a text, whether a line break ended it, and how many bytes it takes.
Unless `raw`, backslashes have their meaning. Bytes that are zero do not count. -/
def takeLine (raw : Bool) : Bytes → List LinePiece × Bool × Nat
  | [] => ([], false, 0)
  | b :: bs =>
    let c := Raw.ofByte b
    if c == '\n' then ([], true, 1)
    else if c == '\\' && !raw then
      match bs with
      | [] => ([], false, 1)
      | b :: bs =>
        let c := Raw.ofByte b
        let (pieces, ended, n) := takeLine raw bs
        ((if c == '\n' then .joint else .kept c) :: pieces, ended, n + 2)
    else
      let (pieces, ended, n) := takeLine raw bs
      (if c == '\x00' then pieces else .char c :: pieces, ended, n + 1)

/-- The values of variables while a line is distributed over them. -/
structure Distribution where
  /-- How many variables are left, but for the last when its value has more than one
  field. -/
  left : Nat
  /-- The values that are complete, last ones first. -/
  values : List Raw := []
  /-- The value that has begun, backwards. -/
  current : Raw := []
  /-- What the value is if only separators follow. -/
  short : Option Raw := none
  /-- Whether the separator before was white space, so that another one belongs to
  it. -/
  afterSpace : Bool := false
  /-- Whether nothing but separators has come since the last value. -/
  between : Bool := false
  deriving Repr

namespace Distribution

/-- The distribution after a character. -/
def push (ifs : Raw) (d : Distribution) (c : Char) : Distribution :=
  let separates := ifs.contains c
  let isSpace := separates && isFieldSpace c
  if d.between && isSpace then d
  else if d.between && separates && d.afterSpace then { d with afterSpace := false }
  else
    let d := { d with between := false }
    if d.left = 0 then
      let longer := c :: d.current
      if isSpace then { d with current := longer, short := d.short.or (some d.current) }
      else
        let short := if separates && d.afterSpace then d.short else none
        { d with current := longer, short, afterSpace := false }
    else if !separates then { d with current := c :: d.current }
    else if d.current.isEmpty && isSpace then { d with afterSpace := isSpace }
    else if d.left = 1 then
      { d with
        left := 0, current := c :: d.current, short := some d.current, afterSpace := isSpace }
    else
      { d with
        left := d.left - 1, values := d.current :: d.values, current := []
        afterSpace := isSpace, between := true }

/-- The distribution after a piece of the line. -/
def add (ifs : Raw) (d : Distribution) : LinePiece → Distribution
  | .char c => d.push ifs c
  | .kept c => { d with current := c :: d.current, between := false, afterSpace := false }
  | .joint => { d with between := false, afterSpace := false }

/-- The values of so many variables. -/
def result (count : Nat) (d : Distribution) : List Raw :=
  let values := (d.short.getD d.current :: d.values).reverse.map List.reverse
  values ++ List.replicate (count - values.length) []

end Distribution

/-- A line distributed over so many variables. -/
def distribute (ifs : Raw) (count : Nat) (line : List LinePiece) : List Raw :=
  (line.foldl (Distribution.add ifs) { left := count }).result count

end WatInlay.Script
