/-
JSON values and their two texts.

`compact` writes a value without any white space; `pretty` gives every item
and member a line of its own, two spaces deeper than the bracket around it.
Members keep their order.
-/

import WatInlay.Hex

namespace WatInlay

/-- A number as JSON writes it: digits before and after the point, and an
exponent. -/
structure Json.Numeral where
  negative : Bool := false
  whole : Nat
  /-- The digits after the point; none when there is no point. -/
  fraction : List (Fin 10) := []
  exponent : Option Int := none
  deriving DecidableEq, Repr

/-- A JSON value. -/
inductive Json where
  | null
  | bool (b : Bool)
  | number (n : Json.Numeral)
  | string (t : Text)
  | array (items : List Json)
  | object (members : List (Text × Json))

namespace Json

/-- A natural number. -/
def nat (n : Nat) : Json :=
  .number { whole := n }

/-! ### Scalars -/

/-- A character inside quotes. Quotes, backslashes and control characters are
escaped, the common ones by a letter and the others by number. -/
def escape (c : Char) : Text :=
  match c with
  | '"' => ['\\', '"']
  | '\\' => ['\\', '\\']
  | '\x08' => ['\\', 'b']
  | '\x0c' => ['\\', 'f']
  | '\n' => ['\\', 'n']
  | '\r' => ['\\', 'r']
  | '\t' => ['\\', 't']
  | c =>
    if c.toNat < 0x20 then
      '\\' :: 'u' :: '0' :: '0' :: Hex.ofByte c.toNat.toUInt8
    else [c]

/-- A text in quotes. -/
def quote (t : Text) : Text :=
  '"' :: t.flatMap escape ++ ['"']

/-- The text of a number. -/
def Numeral.text (n : Numeral) : Text :=
  (if n.negative then ['-'] else []) ++ Text.ofNat n.whole ++
    (if n.fraction.isEmpty then [] else '.' :: n.fraction.map fun (d : Fin 10) => Nat.digitChar d.val) ++
    match n.exponent with
    | none => []
    | some (.ofNat e) => 'e' :: Text.ofNat e
    | some (.negSucc e) => 'e' :: '-' :: Text.ofNat (e + 1)

/-! ### Without white space -/

mutual

/-- The text of a value without white space. -/
def compact : Json → Text
  | null => "null".toList
  | bool true => "true".toList
  | bool false => "false".toList
  | number n => n.text
  | string t => quote t
  | array items => '[' :: compactItems items ++ [']']
  | object members => '\x7b' :: compactMembers members ++ ['\x7d']

/-- Items with commas between them. -/
def compactItems : List Json → Text
  | [] => []
  | [v] => v.compact
  | v :: w :: vs => v.compact ++ ',' :: compactItems (w :: vs)

/-- Members with commas between them. -/
def compactMembers : List (Text × Json) → Text
  | [] => []
  | [(k, v)] => quote k ++ ':' :: v.compact
  | (k, v) :: m :: ms => quote k ++ ':' :: v.compact ++ ',' :: compactMembers (m :: ms)

end

/-! ### One item or member a line -/

/-- A line break and the indentation of depth `n`. -/
def newLine (n : Nat) : Text :=
  '\n' :: List.replicate (2 * n) ' '

mutual

/-- The text of a value that stands at depth `n`, one item or member a line. -/
def prettyAt (n : Nat) : Json → Text
  | null => "null".toList
  | bool true => "true".toList
  | bool false => "false".toList
  | number m => m.text
  | string t => quote t
  | array [] => "[]".toList
  | array (v :: vs) => '[' :: prettyItems (n + 1) (v :: vs) ++ newLine n ++ [']']
  | object [] => "\x7b\x7d".toList
  | object (m :: ms) => '\x7b' :: prettyMembers (n + 1) (m :: ms) ++ newLine n ++ ['\x7d']

/-- Items at depth `n`, each on its own line, with commas between them. -/
def prettyItems (n : Nat) : List Json → Text
  | [] => []
  | [v] => newLine n ++ v.prettyAt n
  | v :: w :: vs => newLine n ++ v.prettyAt n ++ ',' :: prettyItems n (w :: vs)

/-- Members at depth `n`, each on its own line, with commas between them. -/
def prettyMembers (n : Nat) : List (Text × Json) → Text
  | [] => []
  | [(k, v)] => newLine n ++ quote k ++ ':' :: ' ' :: v.prettyAt n
  | (k, v) :: m :: ms =>
    newLine n ++ quote k ++ ':' :: ' ' :: v.prettyAt n ++ ',' :: prettyMembers n (m :: ms)

end

/-- The text of a value, one item or member a line. -/
def pretty (v : Json) : Text :=
  v.prettyAt 0

/-! ### Members in order of their keys -/

/-- Puts a member before the first one with a greater key. -/
def insertMember (m : Text × Json) : List (Text × Json) → List (Text × Json)
  | [] => [m]
  | m' :: ms => if compare m.1 m'.1 = .lt then m :: m' :: ms else m' :: insertMember m ms

mutual

/-- The value with the members of every object in ascending order of their keys. -/
def sorted : Json → Json
  | array items => array (sortedItems items)
  | object members => object (sortedMembers members)
  | v => v

/-- Items with sorted members. -/
def sortedItems : List Json → List Json
  | [] => []
  | v :: vs => v.sorted :: sortedItems vs

/-- Members in order, their values sorted. -/
def sortedMembers : List (Text × Json) → List (Text × Json)
  | [] => []
  | (k, v) :: ms => insertMember (k, v.sorted) (sortedMembers ms)

end

end Json

end WatInlay
