/-
The text of a script while it is being read.

A backslash before a line break joins two lines. The text of an alias takes the
place of its name; `AliasSpan` keeps track of how far it reaches, since in its
own text an alias is not replaced again. The text that a command reads stands
on the lines after the command and is read when the line of the command ends.
-/

import WatInlay.Script.Token

namespace WatInlay.Script

/-- A fault in the form of a script. -/
structure SyntaxFault where
  line : Nat
  message : Text
  deriving DecidableEq, Repr

/-- The text of an alias that takes the place of its name. -/
structure AliasSpan where
  name : Raw
  /-- How many of its characters are still to be read. -/
  left : Nat
  /-- Whether it ends in white space, so that the word after it may be an alias
  too. -/
  endsInSpace : Bool
  deriving DecidableEq, Repr

/-- A document that was announced and stands on the next lines. -/
structure PendingDocument where
  /-- Its number among all documents. -/
  key : Nat
  /-- Whether tabs at the starts of lines do not count. -/
  strip : Bool
  /-- Whether nothing in it is replaced. -/
  verbatim : Bool
  /-- The line that ends it. -/
  delimiter : Raw
  deriving DecidableEq, Repr

/-- The operator of a redirection before its target is known. -/
inductive Operator where
  | file (direction : Direction)
  | document (strip : Bool)
  deriving DecidableEq, Repr

/-- A script while it is being read. -/
structure Source where
  /-- The text that is left. -/
  rest : Raw
  /-- The number of the line it starts on. -/
  line : Nat := 1
  aliases : List (Raw × Raw) := []
  /-- The texts of aliases at the start of the rest, innermost first. -/
  spans : List AliasSpan := []
  /-- Whether the text of an alias ended with white space before the current
  token. -/
  aliasNext : Bool := false
  /-- The current token. -/
  token : Token := .newline
  /-- Whether the current token is to be read again. -/
  again : Bool := false
  /-- The last word. -/
  word : Word := []
  /-- The last operator of a redirection and its descriptor. -/
  operator : Nat × Operator := (0, .file .input)
  pending : List PendingDocument := []
  /-- All documents so far. -/
  documents : Array Word := #[]

/-- A step of reading. -/
abbrev Reading := StateT Source (Except SyntaxFault)

namespace Reading

/-- Ends the reading with a fault. -/
def fail {α : Type} (message : Text) : Reading α := do
  throw ⟨(← get).line, message⟩

/-- The fault that the current token stands where another should. -/
def unexpected {α : Type} (expected : Option Token) : Reading α := do
  let wanted := match expected with
    | some t => " (expecting ".toList ++ t.name ++ ")".toList
    | none => []
  fail ("Syntax error: ".toList ++ (← get).token.name ++ " unexpected".toList ++ wanted)

/-! ### Characters -/

/-- The spans of aliases after `n` more characters. A span ends when a character
behind it is read. -/
def advance (n : Nat) : List AliasSpan → List AliasSpan
  | [] => []
  | s :: spans =>
    if n ≤ s.left then { s with left := s.left - n } :: spans else advance (n - s.left) spans

/-- Moves over `n` characters. -/
def drop (n : Nat) : Reading Unit :=
  modify fun s =>
    let spans := if s.spans.isEmpty then [] else advance n s.spans
    let ended := s.spans.take (s.spans.length - spans.length)
    { s with
      rest := s.rest.drop n
      line := s.line + (s.rest.take n).count '\n'
      spans
      aliasNext := s.aliasNext || ended.any (·.endsInSpace) }

/-- Moves over a character that does not count as the end of a line. -/
def dropUncounted : Reading Unit := do
  let line := (← get).line
  drop 1
  modify fun s => { s with line }

/-- How many characters join lines at the start of a text. -/
def joints : Raw → Nat
  | '\\' :: '\n' :: t => joints t + 2
  | _ => 0

/-- The text ahead, where no joint of two lines stands. -/
def ahead : Reading Raw := do
  let n := joints (← get).rest
  if n != 0 then drop n
  return (← get).rest

/-- The characters at the start of a text that `p` holds of, without joints of
lines, and how many characters they take with them. -/
def joinedWhile (p : Char → Bool) : Raw → Raw × Nat
  | '\\' :: '\n' :: t =>
    let (taken, n) := joinedWhile p t
    (taken, n + 2)
  | c :: t =>
    if p c then
      let (taken, n) := joinedWhile p t
      (c :: taken, n + 1)
    else ([], 0)
  | [] => ([], 0)

/-- Moves over the characters that `p` holds of. -/
def takeWhile (p : Char → Bool) : Reading Raw := do
  let (taken, n) := joinedWhile p (← get).rest
  drop n
  return taken

/-- Moves over a character if it is ahead. -/
def eat (c : Char) : Reading Bool := do
  if (← ahead).head? == some c then
    drop 1
    return true
  else return false

/-- Moves over spaces, a comment and joints of lines. -/
def skipSpace : Nat → Reading Unit
  | 0 => return
  | n + 1 => do
    match ← ahead with
    | ' ' :: _ | '\t' :: _ => do
      drop 1
      skipSpace n
    | '#' :: t => drop ((t.takeWhile (· ≠ '\n')).length + 1)
    | _ => return

/-! ### Aliases -/

/-- Puts the text of an alias in the place of its name, which has been read;
false for a name that is no alias or stands in its own text. -/
def replaceAlias (name : Raw) : Reading Bool := do
  let s ← get
  if s.spans.any (·.name == name) then return false
  match s.aliases.lookup name with
  | none => return false
  | some value =>
    if !value.isEmpty then
      let endsInSpace := match value.getLast? with
        | some c => c == ' ' || c == '\t'
        | none => false
      set { s with
        rest := value ++ s.rest
        spans := { name, left := value.length, endsInSpace } :: s.spans }
    return true

/-! ### Documents -/

/-- Announces a document, and answers its number. -/
def announce (strip verbatim : Bool) (delimiter : Raw) : Reading Nat := do
  let s ← get
  let key := s.documents.size
  let d : PendingDocument := { key, strip, verbatim, delimiter }
  set { s with pending := s.pending ++ [d], documents := s.documents.push [] }
  return key

/-- Sets what a document says. -/
def setDocument (key : Nat) (text : Word) : Reading Unit :=
  modify fun s => { s with documents := s.documents.setIfInBounds key text }

/-- Moves over the line that ends a document if it is ahead. At the end of the
script it counts as ended. The delimiter counts as one line even if it has several. -/
def eatDelimiter (strip : Bool) (delimiter : Raw) : Reading Bool := do
  let s ← get
  if s.rest.isEmpty then return true
  let tabs := if strip then (s.rest.takeWhile (· == '\t')).length else 0
  let t := s.rest.drop tabs
  let isNext := delimiter.isPrefixOf t && match t.drop delimiter.length with
    | [] => true
    | c :: _ => c == '\n'
  drop (tabs + if isNext then delimiter.length + 1 else 0)
  if isNext then modify fun t => { t with line := s.line + 1 }
  return isNext

/-- The lines up to the one that ends a document. The bound is the number of
characters. -/
def verbatimLines (n : Nat) (strip : Bool) (delimiter : Raw) : Reading Raw := do
  match n with
  | 0 => return []
  | n + 1 =>
    if ← eatDelimiter strip delimiter then return []
    let rest := (← get).rest
    let line := rest.takeWhile (· ≠ '\n')
    let ended := rest.drop line.length |>.take 1
    drop (line.length + 1)
    return line ++ ended ++ (← verbatimLines n strip delimiter)

end Reading

end WatInlay.Script
