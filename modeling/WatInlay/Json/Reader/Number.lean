/-
Reading numbers: the digits as they are written, and the value they have where
only its kind and text matter.
-/

import WatInlay.Json.Binary64
import WatInlay.Json.Reader.Blank

namespace WatInlay.Json

/-- The digits of a number as it is written. -/
structure Figures where
  negative : Bool
  whole : Text
  /-- The digits after the point; none when there is no point. -/
  fraction : Text
  exponent : Option Int
  deriving DecidableEq, Repr

/-- At least one digit; `atEnd` is the fault when the text ends before it. -/
def readDigits (atEnd : Fault) (t : Text) : Except Fault (Text × Text) :=
  match t with
  | [] => .error atEnd
  | c :: _ =>
    if c.isDigit then .ok (t.takeWhile Char.isDigit, t.dropWhile Char.isDigit)
    else .error .invalidNumber

/-- The digits before the point: a zero stands alone. -/
def readWhole (atEnd : Fault) (t : Text) : Except Fault (Text × Text) :=
  match readDigits atEnd t with
  | .ok ('0' :: _ :: _, _) => .error .invalidNumber
  | r => r

/-- The digits after a point, if there is one. -/
def readFraction (atEnd : Fault) : Text → Except Fault (Text × Text)
  | '.' :: t => readDigits atEnd t
  | t => .ok ([], t)

/-- The sign of an exponent. -/
def readSign : Text → Bool × Text
  | '+' :: t => (false, t)
  | '-' :: t => (true, t)
  | t => (false, t)

/-- The exponent, if there is one. -/
def readExponent (atEnd : Fault) : Text → Except Fault (Option Int × Text)
  | [] => .ok (none, [])
  | c :: t =>
    if c = 'e' ∨ c = 'E' then
      let (negative, t) := readSign t
      match readDigits atEnd t with
      | .error e => .error e
      | .ok (digits, rest) =>
        let n : Int := Text.decimalValue digits
        .ok (some (if negative then -n else n), rest)
    else .ok (none, c :: t)

/-- A number, which starts with a minus sign or a digit. -/
def readFigures (atEnd : Fault) (t : Text) : Except Fault (Figures × Text) := do
  let (negative, t) := match t with
    | '-' :: t => (true, t)
    | t => (false, t)
  let (whole, t) ← readWhole atEnd t
  let (fraction, t) ← readFraction atEnd t
  let (exponent, t) ← readExponent atEnd t
  return ({ negative, whole, fraction, exponent }, t)

theorem length_readDigits_lt {atEnd : Fault} {t d rest : Text}
    (h : readDigits atEnd t = .ok (d, rest)) : rest.length < t.length := by
  unfold readDigits at h
  split at h
  · cases h
  · split at h <;> cases h
    rename_i c t hc
    have := (List.dropWhile_suffix Char.isDigit (l := t)).length_le
    simp [hc]
    omega

theorem length_readWhole_lt {atEnd : Fault} {t d rest : Text}
    (h : readWhole atEnd t = .ok (d, rest)) : rest.length < t.length := by
  unfold readWhole at h
  split at h
  · cases h
  · exact length_readDigits_lt h

theorem length_readFraction_le {atEnd : Fault} {t d rest : Text}
    (h : readFraction atEnd t = .ok (d, rest)) : rest.length ≤ t.length := by
  unfold readFraction at h
  split at h
  · have := length_readDigits_lt h
    simp
    omega
  · cases h
    exact Nat.le_refl _

theorem length_readSign_le (t : Text) : (readSign t).2.length ≤ t.length := by
  unfold readSign
  split <;> simp

theorem length_readExponent_le {atEnd : Fault} {t rest : Text} {e : Option Int}
    (h : readExponent atEnd t = .ok (e, rest)) : rest.length ≤ t.length := by
  unfold readExponent at h
  split at h
  · cases h
    exact Nat.le_refl _
  · rename_i c t
    split at h
    · have hs := length_readSign_le t
      dsimp only at h
      split at h <;> cases h
      rename_i hd
      have := length_readDigits_lt hd
      simp
      omega
    · cases h
      exact Nat.le_refl _

theorem length_readFigures_lt {atEnd : Fault} {t rest : Text} {f : Figures}
    (h : readFigures atEnd t = .ok (f, rest)) : rest.length < t.length := by
  unfold readFigures at h
  have split : ∀ u : Text, ∀ p : Bool × Text,
      (match u with | '-' :: v => (true, v) | v => (false, v)) = p → p.2.length ≤ u.length := by
    rintro u p rfl
    split <;> simp
  generalize hp : (match t with | '-' :: t => (true, t) | t => (false, t)) = p at h
  have := split t p hp
  obtain ⟨⟨whole, t₁⟩, hw, h⟩ := exists_of_bind_eq_ok h
  obtain ⟨⟨fraction, t₂⟩, hf, h⟩ := exists_of_bind_eq_ok h
  obtain ⟨⟨exponent, t₃⟩, he, h⟩ := exists_of_bind_eq_ok h
  cases h
  have := length_readWhole_lt hw
  have := length_readFraction_le hf
  have := length_readExponent_le he
  omega

/-- The number as a value: an integer of 64 bits, or else a binary number. -/
def Figures.unexpected (f : Figures) : Except Fault Unexpected :=
  let n := Text.decimalValue f.whole
  if f.fraction = [] ∧ f.exponent = none ∧ f.negative = false ∧ n < Nat.pow 2 64 then
    .ok (.integer n)
  else if f.fraction = [] ∧ f.exponent = none ∧ f.negative = true ∧ 0 < n ∧ n ≤ Nat.pow 2 63 then
    .ok (.integer (-n))
  else
    match Binary64.ofDigits? f.negative f.whole f.fraction (f.exponent.getD 0) with
    | some x => .ok (.float (Binary64.text x.toBits))
    | none => .error .numberOutOfRange

end WatInlay.Json
