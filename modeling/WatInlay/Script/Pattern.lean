/-
Patterns of file names and of `case`: `*`, `?` and sets in brackets, which list
characters, ranges and classes.

A pattern is a word whose quoted characters stand for themselves; `compile`
gives each of its characters a meaning, and `matches` compares.
-/

import WatInlay.Script.Language

namespace WatInlay.Script

/-- A character of an expanded word, and whether it was quoted. -/
abbrev Mark := Char × Bool

/-- A named class of characters in a bracketed set. Only bytes below 128 belong
to classes. -/
inductive CharClass where
  | alnum
  | alpha
  | blank
  | cntrl
  | digit
  | graph
  | lower
  | print
  | punct
  | space
  | upper
  | xdigit
  deriving DecidableEq, Repr

namespace CharClass

/-- All classes, with the names that stand between `[:` and `:]`. -/
def named : List (Raw × CharClass) :=
  [("alnum", alnum), ("alpha", alpha), ("blank", blank), ("cntrl", cntrl), ("digit", digit),
    ("graph", graph), ("lower", lower), ("print", print), ("punct", punct), ("space", space),
    ("upper", upper), ("xdigit", xdigit)].map fun (name, k) => (String.toList name, k)

/-- Whether a character belongs to a class. -/
def has : CharClass → Char → Bool
  | alnum, c => c.isAlphanum
  | alpha, c => c.isAlpha
  | blank, c => c == ' ' || c == '\t'
  | cntrl, c => c < ' ' || c == '\x7f'
  | digit, c => c.isDigit
  | graph, c => ' ' < c && c < '\x7f'
  | lower, c => c.isLower
  | print, c => ' ' ≤ c && c < '\x7f'
  | punct, c => ' ' < c && c < '\x7f' && !c.isAlphanum
  | space, c => c == ' ' || ('\t' ≤ c && c ≤ '\r')
  | upper, c => c.isUpper
  | xdigit, c => c.isDigit || ('a' ≤ c && c ≤ 'f') || ('A' ≤ c && c ≤ 'F')

end CharClass

/-- What a bracketed set lists. -/
inductive Member where
  /-- The characters between two, both included. -/
  | range (first last : Char)
  | ofClass (k : CharClass)
  deriving DecidableEq, Repr

/-- Whether a character is among those of a member. Bytes from 128 up stand
before all others in ranges. -/
def Member.has (c : Char) : Member → Bool
  | range first last =>
    let key (c : Char) : Nat := (c.toNat + 128) % 256
    key first ≤ key c && key c ≤ key last
  | ofClass k => k.has c

/-- What an element of a pattern stands for. -/
inductive Glob where
  /-- Any characters. -/
  | any
  /-- One character. -/
  | one
  /-- This character. -/
  | char (c : Char)
  /-- One character that is among the members, or is not. -/
  | set (negated : Bool) (members : List Member)
  deriving DecidableEq, Repr

namespace Glob

/-- The class named at the start of a text, after its opening bracket, and how
many characters the name takes. -/
def className? (t : List Mark) : Option (CharClass × Nat) :=
  CharClass.named.findSome? fun (name, k) =>
    let name := ':' :: name ++ [':', ']']
    if (t.take name.length) = name.map fun c => (c, false) then some (k, name.length) else none

/-- The character at the start of a text and how many characters write it; an
unquoted backslash keeps the next one from having a meaning. -/
def literal? : List Mark → Option (Char × Nat)
  | ('\\', false) :: (c, _) :: _ => some (c, 2)
  | (c, _) :: _ => some (c, 1)
  | [] => none

/-- The members of a bracketed set up to its closing bracket, and how many
characters they take with it. The first character may be a bracket. The bound
is the number of characters. -/
def members (n : Nat) (first : Bool) (t : List Mark) : Option (List Member × Nat) :=
  match n, t with
  | 0, _ | _, [] => none
  | n + 1, (c, q) :: rest =>
    if c == ']' && !q && !first then some ([], 1)
    else
      let after (m : Member) (taken : Nat) : Option (List Member × Nat) :=
        (members n false ((((c, q) :: rest)).drop taken)).map fun (ms, k) => (m :: ms, k + taken)
      match if c == '[' && !q then className? rest else none with
      | some (k, taken) => after (.ofClass k) (taken + 1)
      | none =>
        match literal? ((c, q) :: rest) with
        | none => none
        | some (c, taken) =>
          match ((c, q) :: rest).drop taken with
          | ('-', false) :: (d, q') :: t =>
            if d == ']' && !q' then after (.range c c) taken
            else
              match literal? ((d, q') :: t) with
              | some (d, k) => after (.range c d) (taken + 1 + k)
              | none => none
          | _ => after (.range c c) taken

/-- The set after an opening bracket, and how many characters it takes. -/
def bracket (t : List Mark) : Option (Glob × Nat) :=
  match t with
  | ('!', false) :: rest => (members t.length true rest).map fun (ms, n) => (.set true ms, n + 1)
  | _ => (members t.length true t).map fun (ms, n) => (.set false ms, n)

/-- The meaning of each element of a pattern. -/
def compile (pattern : List Mark) : List Glob :=
  match pattern with
  | [] => []
  | (c, quoted) :: rest =>
    if quoted then .char c :: compile rest
    else if c == '*' then .any :: compile rest
    else if c == '?' then .one :: compile rest
    else if c == '\\' then
      match rest with
      | (d, _) :: rest => .char d :: compile rest
      | [] => [.char c]
    else if c == '[' then
      match bracket rest with
      | some (g, n) => g :: compile (rest.drop n)
      | none => .char c :: compile rest
    else .char c :: compile rest
termination_by pattern.length
decreasing_by all_goals simp; try omega

/-- Whether an element that stands for one character stands for this one. -/
def accepts : Glob → Char → Bool
  | any, _ => true
  | one, _ => true
  | char d, c => d == c
  | set negated ms, c => ms.any (Member.has c) != negated

/-- What a text must fit for the pattern to fit: the pattern itself and, when it begins
with `*`, what follows that. -/
def choices : List Glob → List (List Glob)
  | .any :: gs => (.any :: gs) :: choices gs
  | gs => [gs]

/-- What the rest of a text must fit after a character, where the whole must fit one of
some patterns. -/
def after (states : List (List Glob)) (c : Char) : List (List Glob) :=
  (states.flatMap fun
    | .any :: gs => choices (.any :: gs)
    | g :: gs => if g.accepts c then choices gs else []
    | [] => []).eraseDups

/-- Whether the empty text fits one of some patterns, given with all their choices. -/
def acceptsEnd (states : List (List Glob)) : Bool :=
  states.any (·.isEmpty)

/-- Whether a text as a whole fits a pattern. -/
def matchesAll (gs : List Glob) (t : Raw) : Bool :=
  acceptsEnd (t.foldl after (choices gs))

/-- The length of the shortest or longest start of a text that fits one of some
patterns; `found` and `n` are the length found so far and that of the text
before. -/
def startThatFits (longest : Bool) (states : List (List Glob)) (found : Option Nat) (n : Nat)
    (t : Raw) : Option Nat :=
  let found := if acceptsEnd states then some n else found
  if states.isEmpty || (found.isSome && !longest) then found
  else
    match t with
    | [] => found
    | c :: t => startThatFits longest (after states c) found (n + 1) t

/-- The text without the shortest or longest part at its start that fits. -/
def dropStart (longest : Bool) (gs : List Glob) (t : Raw) : Raw :=
  match startThatFits longest (choices gs) none 0 t with
  | some n => t.drop n
  | none => t

/-- The text without the shortest or longest part at its end that fits, which is the
start of the text backwards. -/
def dropEnd (longest : Bool) (gs : List Glob) (t : Raw) : Raw :=
  match startThatFits longest (choices gs.reverse) none 0 t.reverse with
  | some n => t.take (t.length - n)
  | none => t

end Glob

end WatInlay.Script
