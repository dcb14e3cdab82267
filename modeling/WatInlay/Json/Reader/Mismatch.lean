/-
Naming the value that stands where one of another kind was expected.
-/

import WatInlay.Json.Reader.Skip

namespace WatInlay.Json

/-- What kind of value `t`, which begins with no white space, starts with. A
scalar is read to its end. -/
def unexpected (t : Text) : Except Fault Unexpected :=
  match t with
  | [] => .error .endInValue
  | c :: r =>
    match c with
    | 'n' => (skipIdent "ull".toList r).map fun _ => .null
    | 't' => (skipIdent "rue".toList r).map fun _ => .bool true
    | 'f' => (skipIdent "alse".toList r).map fun _ => .bool false
    | '"' => (readString r).map fun p => .string p.1
    | '[' => .ok .sequence
    | '\x7b' => .ok .map
    | c =>
      if c = '-' ∨ c.isDigit then do
        let (figures, _) ← readFigures .endInValue (c :: r)
        figures.unexpected
      else .error .expectedValue

/-- The fault of a value at the head of `t` that is not what was expected. -/
def mismatch (expected : Text) (t : Text) : Fault :=
  match unexpected t with
  | .error e => e
  | .ok u => .invalidType u expected

end WatInlay.Json
