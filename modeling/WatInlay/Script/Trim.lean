/-
Trimming: what is left of a value without a start or an end that fits a pattern.

The arguments of a script together are a value of several pieces. A pattern is
compared with one piece at a time, and what it covers goes together with all
pieces before or after it.
-/

import WatInlay.Script.Pattern

namespace WatInlay.Script.Trim

/-- A value without the shortest or longest start that a pattern fits. Only the first
of several pieces is looked at; when it fits as a whole for the longest start,
the others go with it. -/
def lead (longest : Bool) (globs : List Glob) : List Raw → List Raw
  | [] => []
  | piece :: pieces =>
    if longest && Glob.matchesAll globs piece then [[]]
    else Glob.dropStart longest globs piece :: pieces

/-- A value without the shortest or longest end that a pattern fits. The longest one
begins in the first of several pieces, and the shortest one in the last that has
one; the pieces after it go with it. -/
def tail (longest : Bool) (globs : List Glob) : List Raw → List Raw
  | [] => []
  | piece :: pieces =>
    let shorter := Glob.dropEnd longest globs piece
    let fits := shorter.length < piece.length || Glob.matchesAll globs []
    if longest then if fits then [shorter] else piece :: pieces
    else
      let rest := tail longest globs pieces
      if rest != pieces || Glob.matchesAll globs [] then piece :: rest
      else if fits then [shorter]
      else piece :: pieces

/-! ### Values that are looked at backwards

When a value in double quotes has a character that means something in patterns,
its first piece alone is laid behind the pattern and read from its end, beyond
its start if need be. The number of characters that were read is taken from the
value as a whole. -/

/-- A character that means something in patterns. -/
def isSensitive (c : Char) : Bool :=
  "!*?[=~:/-]\\".toList.contains c

/-- Whether a value is read with its first piece behind the pattern. -/
def isLaidOut (pieces : List Raw) : Bool :=
  pieces.length > 1 && (pieces.headD []).any isSensitive

/-- The value as a whole, with the character zero between its pieces. -/
def whole (pieces : List Raw) : Raw :=
  Text.joinWith ['\x00'] pieces

/-- The value without its longest start. -/
def startLaidOut (pattern : List Mark) (pieces : List Raw) : List Raw :=
  let first := pieces.headD []
  let all := whole pieces
  let fits (n : Nat) : Bool :=
    if n ≤ first.length then
      Glob.matchesAll (Glob.compile pattern) (first.take (first.length - n))
    else
      let pattern := pattern.take (pattern.length - (n - first.length - 1))
      Glob.matchesAll (Glob.compile pattern) first
  match (List.range (all.length + 1)).find? fits with
  | some n => Raw.pieces '\x00' (all.drop (all.length - n))
  | none => pieces

/-- The value without its shortest end. -/
def endLaidOut (pattern : List Mark) (pieces : List Raw) : List Raw :=
  let all := whole pieces
  let layout := whole [all, pattern.map (·.1), pieces.headD []]
  let fits (n : Nat) : Bool :=
    Glob.matchesAll (Glob.compile pattern)
      ((layout.drop (layout.length - n)).takeWhile (· != '\x00'))
  match (List.range (all.length + 1)).find? fits with
  | some n => Raw.pieces '\x00' (all.take (all.length - n))
  | none => pieces

/-! ### Values of parameters -/

/-- A value without the shortest or longest start that a pattern fits. -/
def dropStart (quoted longest : Bool) (pattern : List Mark) (pieces : List Raw) : List Raw :=
  if quoted && longest && isLaidOut pieces then startLaidOut pattern pieces
  else lead longest (Glob.compile pattern) pieces

/-- A value without the shortest or longest end that a pattern fits. -/
def dropEnd (quoted longest : Bool) (pattern : List Mark) (pieces : List Raw) : List Raw :=
  if quoted && !longest && isLaidOut pieces then endLaidOut pattern pieces
  else tail longest (Glob.compile pattern) pieces

end WatInlay.Script.Trim
