/-
Hexadecimal text gives its bytes back, and holds nothing but digits.
-/

import WatInlay.Hex

namespace WatInlay.Hex

/-! ### Reading -/

/-- The value of a digit. -/
def value? (c : Char) : Option Nat :=
  digits.idxOf? c

/-- The bytes that pairs of digits write. -/
def decode? : Text → Option Bytes
  | [] => some []
  | [_] => none
  | c :: d :: t => do
    let high ← value? c
    let low ← value? d
    let bs ← decode? t
    return UInt8.ofNat (16 * high + low) :: bs

theorem value?_digit {n : Nat} (h : n < 16) : value? (digit n) = some n := by
  revert n
  decide

/-- Nothing is lost in writing. -/
theorem decode?_encode (bs : Bytes) : decode? (encode bs) = some bs := by
  induction bs with
  | nil => rfl
  | cons b bs ih =>
    have hb : b.toNat < 256 := b.toNat_lt
    have hsplit : 16 * (b.toNat / 16) + b.toNat % 16 = b.toNat := Nat.div_add_mod b.toNat 16
    rw [encode_cons, decode?, value?_digit (by omega), value?_digit (by omega), ih]
    simp only [Option.bind_eq_bind, Option.bind_some, hsplit, UInt8.ofNat_toNat]
    rfl

/-! ### The characters of written bytes -/

theorem digit_mem_digits (n : Nat) : digit n ∈ digits := by
  unfold digit
  rw [List.getD_eq_getElem?_getD]
  cases h : digits[n]? with
  | none => decide
  | some c => exact List.mem_of_getElem? h

theorem mem_digits_of_mem_encode {c : Char} {bs : Bytes} (h : c ∈ encode bs) : c ∈ digits := by
  obtain ⟨b, -, hb⟩ := List.mem_flatMap.mp h
  simp only [ofByte, List.mem_cons, List.not_mem_nil, or_false] at hb
  rcases hb with rfl | rfl <;> exact digit_mem_digits _

end WatInlay.Hex
