/-
Pipes: texts on their way from one process to another.

A pipe has room for so many pages. What a text has beyond whole pages goes to the last
page if that has room for it, and all else takes new pages.
-/

import WatInlay.Script.Language

namespace WatInlay.Script

/-- What was written into a pipe. -/
structure Pipe where
  /-- The texts, last ones first. -/
  texts : List Raw := []
  /-- The sizes of the pages, last ones first. -/
  pages : List Nat := []
  /-- How many more pages there is room for. -/
  free : Nat
  /-- Whether a text has found no room. -/
  full : Bool := false
  deriving DecidableEq, Repr

namespace Pipe

/-- The size of a page, in bytes. -/
def pageSize : Nat :=
  4096

/-- How many pages a pipe has room for while nothing is read. -/
def capacity : Nat :=
  16

/-- The sizes of new pages for `n` bytes, last ones first. -/
def pagesFor (n : Nat) : List Nat :=
  (if n % pageSize = 0 then [] else [n % pageSize]) ++ List.replicate (n / pageSize) pageSize

/-- The pages with `n` bytes of one text at their end. The pages that are new stand
apart. -/
def lay (n : Nat) : List Nat → List Nat × List Nat
  | [] => (pagesFor n, [])
  | last :: older =>
    let part := n % pageSize
    if last + part ≤ pageSize then (pagesFor (n - part), (last + part) :: older)
    else (pagesFor n, last :: older)

/-- The pipe after a text, of which only the beginning is kept when there is no room for
all of it. -/
def put (p : Pipe) (t : Raw) : Pipe :=
  let n := t.length
  let (new, old) := lay n p.pages
  let excess := new.length - p.free
  let lost := (new.take excess).foldl (· + ·) 0
  let new := new.drop excess
  { texts := t.take (n - lost) :: p.texts
    pages := new ++ old
    free := p.free - new.length
    full := p.full || excess != 0 }

/-- All texts as one. -/
def contents (p : Pipe) : Raw :=
  p.texts.reverse.flatten

/-- How many pages of these sizes the first `n` bytes fill. -/
def filled : List Nat → Nat → Nat
  | [], _ => 0
  | size :: sizes, n => if size ≤ n then filled sizes (n - size) + 1 else 0

/-- How many pages the pipe may have in all when only its first `n` bytes are read. -/
def pagesAfter (p : Pipe) (n : Nat) : Nat :=
  capacity + filled p.pages.reverse n

end Pipe

end WatInlay.Script
