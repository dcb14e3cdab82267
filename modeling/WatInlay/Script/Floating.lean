/-
Floating-point numbers of 64 bits: how a text is read as one, and how one is
written with a given number of places.

Both directions are exact: a number is `m * 2 ^ q`, a text stands for a
quotient of whole numbers, and `roundedQuotient` is the only rounding, to the
nearest whole number and to the even one between two.
-/

import WatInlay.Script.Arithmetic

namespace WatInlay.Script

/-- A floating-point number; a finite one is `m * 2 ^ q`. -/
inductive Floating where
  | finite (negative : Bool) (m : Nat) (q : Int)
  | infinite (negative : Bool)
  | undefined (negative : Bool)
  deriving DecidableEq, Repr

namespace Floating

/-! ### Rounding -/

/-- `n / d` rounded to the nearest whole number, to the even one between two. -/
def roundedQuotient (n d : Nat) : Nat :=
  let k := n / d
  let twice := 2 * (n % d)
  if twice < d || (twice == d && k % 2 == 0) then k else k + 1

/-- `n * b ^ e / d` as a quotient of whole numbers. -/
def scaled (n d b : Nat) (e : Int) : Nat × Nat :=
  match e with
  | .ofNat e => (n * Nat.pow b e, d)
  | .negSucc e => (n, d * Nat.pow b (e + 1))

/-- The greatest `e` with `b ^ e ≤ n / d`, for positive `n` and `d`. -/
def floorLog (b n d : Nat) : Int :=
  let size (n : Nat) : Int := (Nat.toDigits b n).length
  let e := size n - size d
  let (n, d) := scaled n d b (-e)
  if d ≤ n then e else e - 1

/-- The number nearest to `n / d`, with `m` below `2 ^ 53`, and whether that quotient is out of range:
too large for a finite number, or too small to be told apart from others. -/
def ofQuotient (negative : Bool) (n d : Nat) : Floating × Bool :=
  if n = 0 then (.finite negative 0 0, false)
  else
    let q := max (floorLog 2 n d - 52) (-1074)
    let (scaledN, scaledD) := scaled n d 2 (-q)
    let m := roundedQuotient scaledN scaledD
    let (m, q) := if m = Nat.pow 2 53 then (Nat.pow 2 52, q + 1) else (m, q)
    if q > 971 then (.infinite negative, true)
    else (.finite negative m q, m < Nat.pow 2 52 && scaledN % scaledD != 0)

/-! ### Reading -/

/-- Digits of a base at the start of a text, around a point, as a significand
and the number of places after the point, and the text after them; `none`
without a digit. -/
def takeDigits (base : Nat) (t : Raw) : Option (Nat × Nat × Raw) :=
  let isDigit (c : Char) : Bool := Arithmetic.digitValue c < base
  let whole := t.takeWhile isDigit
  let rest := t.drop whole.length
  let (places, rest) : Raw × Raw := match rest with
    | '.' :: r =>
      let places := r.takeWhile isDigit
      if whole.isEmpty && places.isEmpty then ([], rest) else (places, r.drop places.length)
    | _ => ([], rest)
  match Arithmetic.ofDigits base (whole ++ places) with
  | some n => some (n.toNat, places.length, rest)
  | none => none

/-- An exponent at the start of a text, after one of two letters, and the text
after it. -/
def takeExponent (letter capital : Char) (t : Raw) : Int × Raw :=
  match t with
  | c :: r =>
    if c == letter || c == capital then
      let (sign, r) : Int × Raw := match r with
        | '-' :: r => (-1, r)
        | '+' :: r => (1, r)
        | r => (1, r)
      let digits := r.takeWhile Char.isDigit
      if digits.isEmpty then (0, t)
      else (sign * (Text.decimalValue digits : Nat), r.drop digits.length)
    else (0, t)
  | [] => (0, t)

/-- `n * base ^ e`, where an exponent beyond what any number needs is cut to
one that still leads out of range. -/
def ofScaled (negative : Bool) (n base : Nat) (e : Int) : Floating × Bool :=
  let limit : Int := 20000 + (Nat.toDigits base n).length
  let (n, d) := scaled n 1 base (max (-limit) (min limit e))
  ofQuotient negative n d

/-- The words for numbers that are not finite, in small letters. -/
def words : List (Raw × (Bool → Floating)) :=
  [("infinity".toList, .infinite), ("inf".toList, .infinite), ("nan".toList, .undefined)]

/-- The number at the start of a text, whether it is out of range, and the text
after it; `none` when no number stands there. -/
def take? (t : Raw) : Option (Floating × Bool × Raw) :=
  let t := t.dropWhile Arithmetic.isSpace
  let (negative, t) : Bool × Raw := match t with
    | '-' :: t => (true, t)
    | '+' :: t => (false, t)
    | t => (false, t)
  match words.find? fun (word, _) => word.isPrefixOf (t.map Char.toLower) with
  | some (word, make) => some (make negative, false, t.drop word.length)
  | none =>
    let hexadecimal := match t with
      | '0' :: x :: r => if x == 'x' || x == 'X' then takeDigits 16 r else none
      | _ => none
    match hexadecimal with
    | some (n, places, rest) =>
      let (e, rest) := takeExponent 'p' 'P' rest
      let (x, outOfRange) := ofScaled negative n 2 (e - 4 * places)
      some (x, outOfRange, rest)
    | none =>
      match takeDigits 10 t with
      | some (n, places, rest) =>
        let (e, rest) := takeExponent 'e' 'E' rest
        let (x, outOfRange) := ofScaled negative n 10 (e - places)
        some (x, outOfRange, rest)
      | none => none

/-! ### Writing -/

/-- The value of a finite number as a quotient. -/
def quotient (m : Nat) (q : Int) : Nat × Nat :=
  scaled m 1 2 q

/-- A whole number with a point before its last `places` digits; with `point`
there is one even without places. -/
def pointed (point : Bool) (n places : Nat) : Raw :=
  let digits := Nat.toDigits 10 n
  let digits := List.replicate (places + 1 - digits.length) '0' ++ digits
  let whole := digits.length - places
  digits.take whole ++ (if places = 0 && !point then [] else '.' :: digits.drop whole)

/-- Positional notation with so many places. -/
def fixed (point : Bool) (m : Nat) (q : Int) (places : Nat) : Raw :=
  let (n, d) := quotient m q
  pointed point (roundedQuotient (n * Nat.pow 10 places) d) places

/-- The digits of a number rounded to so many, and the exponent of the first. -/
def significant (m : Nat) (q : Int) (count : Nat) : Nat × Int :=
  if m = 0 then (0, 0)
  else
    let (n, d) := quotient m q
    let e := floorLog 10 n d
    let (n, d) := scaled n d 10 (count - 1 - e)
    let k := roundedQuotient n d
    if k = Nat.pow 10 count then (k / 10, e + 1) else (k, e)

/-- An exponent of at least two digits, with its sign. -/
def exponentText (e : Int) : Raw :=
  let digits := Nat.toDigits 10 e.natAbs
  'e' :: (if e < 0 then '-' else '+') :: List.replicate (2 - digits.length) '0' ++ digits

/-- Scientific notation with so many places. -/
def scientific (point : Bool) (m : Nat) (q : Int) (places : Nat) : Raw :=
  let (k, e) := significant m q (places + 1)
  pointed point k places ++ exponentText e

/-- A text without the zeros after its point that change nothing. -/
def withoutZeros (t : Raw) : Raw :=
  if t.contains '.' then Text.dropEndWhile (· == '.') (Text.dropEndWhile (· == '0') t) else t

/-- So many digits, in positional notation unless the exponent is below -4 or
not below their number. Zeros at the end are kept only with `point`. -/
def general (point : Bool) (m : Nat) (q : Int) (count : Nat) : Raw :=
  let count := max count 1
  let (k, e) := significant m q count
  let trim (t : Raw) : Raw := if point then t else withoutZeros t
  if -4 ≤ e ∧ e < count then trim (fixed point m q (count - 1 - e).toNat)
  else trim (pointed point k (count - 1)) ++ exponentText e

/-- Hexadecimal notation with a binary exponent, and with so many places or as
many as it takes. -/
def hexadecimal (point : Bool) (m : Nat) (q : Int) (places : Option Nat) : Raw :=
  let (lead, fraction, e) : Nat × Nat × Int :=
    if m = 0 then (0, 0, 0)
    else
      let shift := 52 - Nat.log2 m
      if m < Nat.pow 2 52 ∧ q = -1074 then (0, m, -1022)
      else (1, m * Nat.pow 2 shift - Nat.pow 2 52, q + 52 - shift)
  let (digits, lead) : Raw × Nat := match places with
    | none =>
      let ds := Nat.toDigits 16 fraction
      (Text.dropEndWhile (· == '0') (List.replicate (13 - ds.length) '0' ++ ds), lead)
    | some p =>
      let unit := Nat.pow 16 p
      let k := roundedQuotient ((lead * Nat.pow 2 52 + fraction) * unit) (Nat.pow 2 52)
      let ds := Nat.toDigits 16 (k % unit)
      (if p = 0 then [] else List.replicate (p - ds.length) '0' ++ ds, k / unit)
  let sign := if e < 0 then '-' else '+'
  "0x".toList ++ Nat.toDigits 16 lead ++
    (if digits.isEmpty && !point then [] else '.' :: digits) ++
    'p' :: sign :: Nat.toDigits 10 e.natAbs

/-- Whether a number has a sign. -/
def isNegative : Floating → Bool
  | finite negative _ _ => negative
  | infinite negative => negative
  | undefined negative => negative

/-- Whether a number is finite. -/
def isFinite : Floating → Bool
  | finite .. => true
  | _ => false

/-- A number without its sign, in the notation of a letter. -/
def text (letter : Char) (point : Bool) (precision : Option Nat) : Floating → Raw
  | infinite _ => "inf".toList
  | undefined _ => "nan".toList
  | finite _ m q =>
    match letter with
    | 'f' => fixed point m q (precision.getD 6)
    | 'e' => scientific point m q (precision.getD 6)
    | 'g' => general point m q (precision.getD 6)
    | _ => hexadecimal point m q precision

end Floating

end WatInlay.Script
