/-
Paths as text: components separated by slashes.

A path's name is its last component, where empty components and single dots
count for nothing. `extension?` is what follows the last dot of the name, and
`join` reads its second path from the directory that the first one names.
-/

import WatInlay.Text

namespace WatInlay

/-- A path in the file system, absolute when it begins with a slash. -/
abbrev Path := Text

namespace Path

/-- The text between the slashes, empty pieces included. -/
def split : Path → List Text
  | [] => [[]]
  | c :: p =>
    if c = '/' then [] :: split p
    else
      match split p with
      | [] => [[c]]
      | s :: ss => (c :: s) :: ss

/-- The components that lead somewhere: without empty pieces and single dots. -/
def components (p : Path) : List Text :=
  p.split.filter fun s => s ≠ [] ∧ s ≠ ['.']

/-- The last component, unless it leads upwards. -/
def name? (p : Path) : Option Text :=
  match p.components.getLast? with
  | some s => if s = ['.', '.'] then none else some s
  | none => none

/-- What follows the last dot of a name; a dot at its beginning does not count. -/
def nameExtension? (name : Text) : Option Text :=
  if '.' ∈ name.drop 1 then some (name.reverse.takeWhile (· ≠ '.')).reverse else none

/-- The extension of the path's name. -/
def extension? (p : Path) : Option Text :=
  p.name?.bind nameExtension?

/-- Whether the path starts at the root. -/
def IsAbsolute (p : Path) : Bool :=
  p.head? = some '/'

/-- `p` as seen from the directory `dir`. An absolute `p` stands for itself. -/
def join (dir p : Path) : Path :=
  if p.IsAbsolute then p
  else if dir = [] ∨ dir.getLast? = some '/' then dir ++ p
  else dir ++ '/' :: p

/-- The path without the slashes at its end, if it has some and is not made of slashes
alone. -/
def unslashed? (p : Path) : Option Path :=
  let q := Text.dropEndWhile (· == '/') p
  if q = [] ∨ q = p then none else some q

/-- The path of the directory in which the last component is looked up. -/
def directory (p : Path) : Path :=
  Text.dropEndWhile (· != '/') p ++ ['.']

/-- `name` with `extension` after a dot. -/
def withExtension (name extension : Text) : Text :=
  name ++ '.' :: extension

end Path

end WatInlay
