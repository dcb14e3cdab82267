/-
The language of shell scripts, as trees.

Scripts, their variables and what they read and print are bytes; here a byte is
the character of the same number, so that the language's own characters can be
written as such. `Raw.ofBytes` and `Raw.toBytes` convert.
-/

import WatInlay.Text.Utf8

namespace WatInlay.Script

/-- Bytes as characters below U+0100. -/
abbrev Raw := List Char

namespace Raw

/-- A byte as the character of the same number. -/
def ofByte (b : UInt8) : Char :=
  Char.ofNat b.toNat

/-- Each byte as the character of the same number. -/
def ofBytes (bs : Bytes) : Raw :=
  bs.map ofByte

/-- Each character as the byte of the same number. -/
def toBytes (r : Raw) : Bytes :=
  r.map fun c => c.toNat.toUInt8

/-- The UTF-8 form of a text. -/
def ofText (t : Text) : Raw :=
  ofBytes t.bytes

/-- The text whose UTF-8 form the bytes are. -/
def toText (r : Raw) : Text :=
  Text.ofBytesLossy r.toBytes

/-- The order of bytes, in which a text comes before its continuations. -/
def before (a b : Raw) : Bool :=
  compare a b == .lt

/-- One of `count` buckets for a name: the remainder of the sum of all bytes and sixteen
times the first one. What is listed by buckets stands in this order. -/
def bucket (count : Nat) (name : Raw) : Nat :=
  name.foldl (fun n c => n + c.toNat) (16 * (name.head?.map Char.toNat).getD 0) % count

/-- Names with values, in the order of the buckets of the names. -/
def byBucket {α : Type} (count : Nat) (named : List (Raw × α)) : List (Raw × α) :=
  named.mergeSort fun a b => bucket count a.1 ≤ bucket count b.1

/-- The text between separators, empty pieces included. -/
def pieces (separator : Char) : Raw → List Raw
  | [] => [[]]
  | c :: t =>
    if c == separator then [] :: pieces separator t
    else
      match pieces separator t with
      | [] => [[c]]
      | p :: ps => (c :: p) :: ps

/-- A text in single quotes, as a script could write it. Each run of single
quotes stands between double quotes. -/
def quoted (t : Raw) : Raw :=
  '\'' :: go false t
where
  /-- What follows, inside double quotes or inside single ones. -/
  go (double : Bool) : Raw → Raw
    | [] => if double then ['"'] else ['\'']
    | c :: t =>
      if c == '\'' then (if double then [c] else ['\'', '"', c]) ++ go true t
      else (if double then ['"', '\'', c] else [c]) ++ go false t

end Raw

/-- How a redirection treats its file. -/
inductive Direction where
  /-- `<` -/
  | input
  /-- `>` -/
  | output
  /-- `>|` -/
  | overwrite
  /-- `>>` -/
  | append
  /-- `<>` -/
  | both
  /-- `<&` and `>&` -/
  | duplicate
  deriving DecidableEq, Repr

mutual

/-- A piece of a word. A quoted piece is neither split nor matched against file
names. -/
inductive Part where
  | text (quoted : Bool) (t : Raw)
  /-- `$name` and all forms of `${name…}`. -/
  | parameter (quoted : Bool) (name : Raw) (modifier : Modifier)
  /-- `$((expression))` -/
  | arithmetic (quoted : Bool) (expression : List Part)
  /-- `$(commands)` -/
  | output (quoted : Bool) (commands : Command)

/-- What is done with the value of a parameter. -/
inductive Modifier where
  | plain
  /-- `${#name}` -/
  | length
  /-- `${name-word}`; with `colon`, an empty value counts as none. -/
  | orElse (colon : Bool) (word : List Part)
  /-- `${name=word}` -/
  | orAssign (colon : Bool) (word : List Part)
  /-- `${name?word}` -/
  | orFail (colon : Bool) (word : List Part)
  /-- `${name+word}` -/
  | ifSet (colon : Bool) (word : List Part)
  /-- `${name#pattern}` and `${name##pattern}` -/
  | dropStart (longest : Bool) (pattern : List Part)
  /-- `${name%pattern}` and `${name%%pattern}` -/
  | dropEnd (longest : Bool) (pattern : List Part)
  /-- Anything else between the braces. -/
  | bad

/-- A redirection of a descriptor. -/
inductive Redirect where
  | file (descriptor : Nat) (direction : Direction) (target : List Part)
  /-- `<<`; the key is the number of the document among all that were read. -/
  | document (descriptor key : Nat)

/-- A command. A line is that of the script where the command begins. -/
inductive Command where
  /-- Assignments, words and redirections. -/
  | simple (line : Nat) (assignments : List (Raw × List Part)) (words : List (List Part))
      (redirects : List Redirect)
  | sequence (commands : List Command)
  | andThen (first second : Command)
  | orElse (first second : Command)
  | not (command : Command)
  | pipe (commands : List Command)
  | background (line : Nat) (command : Command) (redirects : List Redirect)
  | subshell (line : Nat) (command : Command) (redirects : List Redirect)
  | redirected (line : Nat) (command : Command) (redirects : List Redirect)
  | ifElse (condition yes no : Command)
  /-- `while`, or `until` when `negated`. -/
  | loop (negated : Bool) (condition body : Command)
  | each (line : Nat) (name : Raw) (words : List (List Part)) (body : Command)
  | caseOf (line : Nat) (word : List Part) (arms : List (List (List Part) × Command))
  | function (name : Raw) (body : Command)

end

/-- A word. -/
abbrev Word := List Part

namespace Command

/-- The command that does nothing. -/
def nothing : Command :=
  .sequence []

/-- Whether there is nothing to execute, so that not even a status is set. -/
def isNothing : Command → Bool
  | .sequence [] => true
  | _ => false

/-- Commands in order. -/
def ofList : List Command → Command
  | [c] => c
  | cs => .sequence cs

end Command

/-- Whether a piece comes from within quotes. -/
def Part.isQuoted : Part → Bool
  | .text q _ => q
  | .parameter q _ _ => q
  | .arithmetic q _ => q
  | .output q _ => q

namespace Word

/-- A text before the pieces of a word. -/
def cons (quoted : Bool) (t : Raw) : Word → Word
  | .text q u :: parts => if q == quoted then .text q (t ++ u) :: parts
    else .text quoted t :: .text q u :: parts
  | parts => .text quoted t :: parts

/-- Whether anything in a word is quoted. -/
def isQuoted (w : Word) : Bool :=
  w.any Part.isQuoted

/-- The text of a word in which nothing is quoted or replaced. -/
def bare? : Word → Option Raw
  | [.text false t] => some t
  | _ => none

/-- The text of a word, without what takes the place of anything. -/
def literal (w : Word) : Raw :=
  w.flatMap fun
    | .text _ t => t
    | _ => []

end Word

/-! ### Names -/

/-- A character of a variable's name. -/
def isNameChar (c : Char) : Bool :=
  c == '_' || c.isAlphanum

/-- Whether a text can name a variable. -/
def isName (t : Raw) : Bool :=
  match t with
  | [] => false
  | c :: _ => !c.isDigit && t.all isNameChar

/-- A name and what follows an equals sign after it. -/
def splitAssignment (t : Raw) : Raw × Option Raw :=
  match t.dropWhile (· ≠ '=') with
  | _ :: value => (t.takeWhile (· ≠ '='), some value)
  | [] => (t, none)

/-- A word that assigns, as the name and the word after the equals sign. -/
def Word.assignment? : Word → Option (Raw × Word)
  | .text false t :: parts =>
    match splitAssignment t with
    | (name, some value) =>
      if isName name then some (name, if value.isEmpty then parts else .text false value :: parts)
      else none
    | _ => none
  | _ => none

end WatInlay.Script
