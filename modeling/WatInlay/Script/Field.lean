/-
Fields: what the words of a command become once they are expanded.

An expanded word is a list of items; `fieldsOf` splits it at separators, and
`globbed` puts file names in for a field that is a pattern.
-/

import WatInlay.FileSystem
import WatInlay.Script.Pattern

namespace WatInlay.Script

/-! ### Splitting -/

/-- A piece of an expanded word. -/
inductive Item where
  /-- A text; `split` when its characters may separate fields. A quoted one makes a
  field even if it is empty. -/
  | text (t : Raw) (quoted split : Bool)
  /-- The end of an argument that another one follows. -/
  | gap
  /-- The boundary between two fields. -/
  | boundary
  /-- The end of quoted arguments. -/
  | spread
  deriving DecidableEq, Repr

namespace Item

/-- A value that takes the place of a parameter. -/
def ofValue (quoted : Bool) (t : Raw) : Item :=
  text t quoted true

/-- The items as one field. -/
def joined (items : List Item) : List Mark :=
  items.flatMap fun
    | text t quoted _ => t.map (·, quoted)
    | gap | boundary => [(' ', false)]
    | spread => []

/-- The items as one text. -/
def plain (items : List Item) : Raw :=
  items.flatMap fun
    | text t _ _ => t
    | gap | boundary => [' ']
    | spread => []

end Item

/-- The characters of a field. -/
def plain (field : List Mark) : Raw :=
  field.map (·.1)

/-- White space that separates fields only together with other white space. -/
def isFieldSpace (c : Char) : Bool :=
  c == ' ' || c == '\t' || c == '\n'

/-- Fields while they are put together. -/
structure Fields where
  /-- The fields that are complete, last ones first. -/
  ended : List (List Mark) := []
  /-- The field that has begun, backwards. -/
  current : Option (List Mark) := none
  /-- Whether white space has just ended a field. -/
  afterSpace : Bool := false
  /-- Whether quoted arguments have come after the last value. -/
  spread : Bool := false
  /-- Whether white space separates fields like any other character, as it does in a
  value after quoted arguments. -/
  counts : Bool := false

namespace Fields

/-- The field that has begun is complete. -/
def close (fs : Fields) (afterSpace : Bool) : Fields :=
  { fs with ended := (fs.current.map List.reverse).toList ++ fs.ended, current := none, afterSpace }

/-- The field that has begun is complete, and there is one even if it is empty. -/
def closeAny (fs : Fields) : Fields :=
  { fs with current := some (fs.current.getD []) }.close false

/-- A character is part of the field. -/
def push (quoted : Bool) (fs : Fields) (c : Char) : Fields :=
  { fs with current := some ((c, quoted) :: fs.current.getD []), afterSpace := false }

/-- A character that may separate fields. White space among the separators counts
only between fields. -/
def split (ifs : Raw) (fs : Fields) (c : Char) : Fields :=
  if !ifs.contains c then fs.push false c
  else if fs.counts then fs.closeAny
  else if fs.current.isSome then fs.close (isFieldSpace c)
  else if isFieldSpace c then fs
  else if fs.afterSpace then { fs with afterSpace := false }
  else { fs with ended := [] :: fs.ended }

/-- A value begins. -/
def enter (fs : Fields) : Fields :=
  { fs with counts := fs.spread, spread := false }

/-- The fields after another item. The end of an argument counts like white space. -/
def add (ifs : Raw) (fs : Fields) : Item → Fields
  | .text [] false split => if split then fs.enter else fs
  | .text t false true => t.foldl (split ifs) { fs.enter with afterSpace := false }
  | .text t quoted _ =>
    t.foldl (push quoted) { fs with current := some (fs.current.getD []), afterSpace := false }
  | .gap =>
    let fs := if fs.counts then fs.closeAny else if fs.current.isSome then fs.close true else fs
    { fs with spread := fs.counts }
  | .boundary => fs.close false
  | .spread => { fs with spread := true }

end Fields

/-- The fields of items, where `ifs` separates. -/
def fieldsOf (ifs : Raw) (items : List Item) : List (List Mark) :=
  ((items.foldl (Fields.add ifs) {}).close false).ended.reverse

/-! ### File names -/

/-- Whether a field can match file names. A bracket alone can only match itself. -/
def isPattern (field : List Mark) : Bool :=
  field != [('[', false)] &&
    field.any fun (c, quoted) => !quoted && (c == '*' || c == '?' || c == '[')

/-- The characters that a field stands for when it is no pattern, where an unquoted
backslash does not count before another character. -/
def unescaped : List Mark → Raw
  | ('\\', false) :: (c, _) :: t => c :: unescaped t
  | (c, _) :: t => c :: unescaped t
  | [] => []

/-- The parts of a field between its slashes. -/
def components : List Mark → List (List Mark)
  | [] => [[]]
  | (c, quoted) :: t =>
    if c == '/' then [] :: components t
    else
      match components t with
      | [] => [[(c, quoted)]]
      | p :: ps => ((c, quoted) :: p) :: ps

/-- The names in a directory, with those of itself and of the one above. -/
def namesIn (files : FileSystem) (directory : Raw) : List Raw :=
  let path := if directory.isEmpty then ['.'] else Raw.toText directory
  match files.locate path with
  | .error _ => []
  | .ok place =>
    if files.node? place == some .folder then
      ['.'] :: ['.', '.'] :: (files.below place).filterMap fun (names, _) =>
        match names with
        | [name] => some (Raw.ofText name)
        | _ => none
    else []

/-- The paths below `start`, which ends in a slash unless it is empty, that fit
the parts of a pattern. -/
def expandNames (files : FileSystem) (start : Raw) : List (List Mark) → List Raw
  | [] => [start]
  | part :: parts =>
    let names :=
      if isPattern part then
        let hidden := (unescaped part).head? == some '.'
        let globs := Glob.compile part
        (namesIn files start).filter fun name =>
          (hidden || name.head? != some '.') && Glob.matchesAll globs name
      else [unescaped part]
    let separator := if parts.isEmpty then [] else ['/']
    names.flatMap fun name =>
      let path := start ++ name
      if parts.isEmpty then
        if files.exists? (Raw.toText path) then [path] else []
      else expandNames files (path ++ separator) parts

/-- The file names that a field matches, in order, or the field itself. -/
def globbed (files : FileSystem) (field : List Mark) : List Raw :=
  if isPattern field then
    match expandNames files [] (components field) with
    | [] => [plain field]
    | names => names.mergeSort fun a b => !Raw.before b a
  else [plain field]

end WatInlay.Script
