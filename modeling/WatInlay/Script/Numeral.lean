/-
The numbers that arguments of builtins write: decimal digits with a sign, and
white space around them.
-/

import WatInlay.Script.Language

namespace WatInlay.Script.Numeral

/-- White space around a number. -/
def isBlank (c : Char) : Bool :=
  c == ' ' || ('\t' ≤ c && c ≤ '\r')

/-- The integer of 64 bits that a text writes. -/
def integer? (t : Raw) : Option Int :=
  let t := t.dropWhile isBlank
  let (negative, digits) := match t with
    | '-' :: t => (true, t)
    | '+' :: t => (false, t)
    | t => (false, t)
  let digits := (digits.reverse.dropWhile isBlank).reverse
  if digits.isEmpty || !digits.all Char.isDigit then none
  else
    let n := Text.decimalValue digits
    if negative then if n ≤ Nat.pow 2 63 then some (-(n : Int)) else none
    else if n < Nat.pow 2 63 then some n else none

/-- The number below 2³¹ that a text writes. -/
def count? (t : Raw) : Option Nat :=
  match integer? t with
  | some n => if 0 ≤ n ∧ n < (Nat.pow 2 31 : Nat) then some n.toNat else none
  | none => none

/-- The octal number that digits write. -/
def octal? (t : Raw) : Option Nat :=
  if !t.isEmpty && t.all fun c => '0' ≤ c && c ≤ '7' then
    some (t.foldl (fun n c => 8 * n + (c.toNat - '0'.toNat)) 0)
  else none

end WatInlay.Script.Numeral
