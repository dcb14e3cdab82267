/-
Numbers with a fraction or an exponent, as binary floating-point numbers of 64
bits, and their shortest decimal text.

`Shortest.digits?` decides in exact arithmetic which decimals lie in the
interval of reals that round to a number, and takes the coarsest decimal grid
that has one, on it the nearest. Positional notation serves from 10^-5 up to
10^16 and an exponent elsewhere.
-/

import WatInlay.Json

namespace WatInlay.Json.Binary64

/-! ### The shortest decimal -/

/-- The grid of multiples of `10 ^ e`, seen from `x / d`: the multiple at or
below it, as numerator and the grid's unit over a common denominator. -/
def onGrid (x d : Nat) (e : Int) : Nat × Nat :=
  match e with
  | .ofNat e => (x, Nat.pow 10 e * d)
  | .negSucc e => (x * Nat.pow 10 (e + 1), d)

/-- The multiple of `10 ^ e` nearest to `mid / d` among those between `low / d`
and `high / d`, the ends included or not. Of two equally near ones it is the
even one. -/
def nearest? (low mid high d : Nat) (ends : Bool) (e : Int) : Option Nat :=
  let (mid, unit) := onGrid mid d e
  let low := (onGrid low d e).1
  let high := (onGrid high d e).1
  let inside (k : Nat) : Bool :=
    if ends then low ≤ k * unit && k * unit ≤ high else low < k * unit && k * unit < high
  let k := mid / unit
  let below := mid - k * unit
  let above := (k + 1) * unit - mid
  let downFirst := below < above || (below == above && k % 2 == 0)
  let (first, second) := if downFirst then (k, k + 1) else (k + 1, k)
  if inside first then some first else if inside second then some second else none

/-- The first exponent of the list whose grid has a decimal in the interval,
with that decimal. -/
def coarsest? (low mid high d : Nat) (ends : Bool) : List Int → Option (Nat × Int)
  | [] => none
  | e :: es =>
    match nearest? low mid high d ends e with
    | some k => some (k, e)
    | none => coarsest? low mid high d ends es

/-- Decimal exponents from the greatest to the least that a number can need. -/
def exponents : List Int :=
  (List.range 660).map fun (i : Nat) => 310 - (i : Int)

/-- The shortest decimal `k * 10 ^ e` that reads back as `m * 2 ^ q`, where the
gap below is half the gap above when `narrow`. -/
def shortest? (m : Nat) (q : Int) (narrow : Bool) : Option (Nat × Int) :=
  let (scale, d) := match q - 2 with
    | .ofNat n => (Nat.pow 2 n, 1)
    | .negSucc n => (1, Nat.pow 2 (n + 1))
  let low := (4 * m - if narrow then 1 else 2) * scale
  coarsest? low (4 * m * scale) ((4 * m + 2) * scale) d (m % 2 == 0) exponents

/-! ### The text of a decimal -/

/-- The text of `digits * 10 ^ e`: positional from `10 ^ -5` up to `10 ^ 16`,
always with a point, and with a signed exponent elsewhere. -/
def decimalText (digits : Text) (e : Int) : Text :=
  let point := digits.length + e
  let zeros (n : Int) : Text := List.replicate n.toNat '0'
  if 0 ≤ e ∧ point ≤ 16 then digits ++ zeros e ++ ".0".toList
  else if 0 < point ∧ point ≤ 16 then
    digits.take point.toNat ++ '.' :: digits.drop point.toNat
  else if -5 < point ∧ point ≤ 0 then "0.".toList ++ zeros (-point) ++ digits
  else
    let power := point - 1
    let exponent := 'e' :: (if power < 0 then '-' else '+') :: Text.ofNat power.natAbs
    match digits with
    | [] => exponent
    | [c] => c :: exponent
    | c :: cs => c :: '.' :: cs ++ exponent

/-- The shortest text of a finite number, by its bits. -/
def text (bits : UInt64) : Text :=
  let sign : Text := if bits.toNat < Nat.pow 2 63 then [] else ['-']
  let fraction : Nat := bits.toNat % Nat.pow 2 52
  let power : Nat := bits.toNat / Nat.pow 2 52 % Nat.pow 2 11
  let (m, q) : Nat × Int :=
    if power = 0 then (fraction, -1074) else (Nat.pow 2 52 + fraction, (power : Int) - 1075)
  if m = 0 then sign ++ "0.0".toList
  else
    match shortest? m q (fraction == 0 && 1 < power) with
    | some (k, e) => sign ++ decimalText (Text.ofNat k) e
    | none => sign

/-! ### Reading -/

/-- The significand that whole numbers of 64 bits can hold, extended by as many
of the digits as fit, and how many did. -/
def accumulate (significand : Nat) : Text → Nat × Nat
  | [] => (significand, 0)
  | c :: cs =>
    let next := 10 * significand + (c.toNat - '0'.toNat)
    if next < Nat.pow 2 64 then
      let (s, n) := accumulate next cs
      (s, n + 1)
    else (significand, 0)

/-- `f / 10 ^ n`, by steps of at most 308 powers. -/
def scaleDown (f : Float) (n : Nat) : Float :=
  if n ≤ 308 then f / Float.ofScientific 1 false n
  else if f == 0 then f
  else scaleDown (f / Float.ofScientific 1 false 308) (n - 308)
termination_by n
decreasing_by omega

/-- `significand * 10 ^ e`; none when it is too large. -/
def scaled? (significand : Nat) (e : Int) : Option Float :=
  let f := Float.ofNat significand
  match e with
  | .negSucc n => some (scaleDown f (n + 1))
  | .ofNat n =>
    if n ≤ 308 then
      let g := f * Float.ofScientific 1 false n
      if g.isInf then none else some g
    else if f == 0 then some f
    else none

/-- The number with these digits before and after the point and this exponent;
none when it is too large. Digits beyond 64 bits of precision are dropped. -/
def ofDigits? (negative : Bool) (whole fraction : Text) (exponent : Int) : Option Float :=
  let (s, used) := accumulate 0 whole
  let (s, usedAfter) := accumulate s fraction
  let shift := (whole.length - used : Int) - usedAfter
  let f? :=
    if exponent.natAbs < Nat.pow 2 31 then scaled? s (shift + exponent)
    else if s = 0 ∨ exponent < 0 then some 0
    else none
  f?.map fun f => if negative then -f else f

end WatInlay.Json.Binary64
