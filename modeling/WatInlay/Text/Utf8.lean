/-
Reading UTF-8: the strict reader refuses a byte sequence that is not the UTF-8
form of a text, the lenient one shows each maximal ill-formed piece as U+FFFD.
-/

import WatInlay.Text

namespace WatInlay.Text

/-- The text whose UTF-8 form the bytes are. -/
def ofBytes? (bs : Bytes) : Option Text :=
  bs.toByteArray.utf8Decode?.map Array.toList

@[simp] theorem ofBytes?_bytes (t : Text) : ofBytes? (bytes t) = some t := by
  have h : (bytes t).toByteArray = t.utf8Encode := rfl
  simp [ofBytes?, h]

/-! ### The lenient reader -/

/-- What may follow a leading byte: how many bytes, and the least and greatest
second byte. The bounds leave out overlong forms, surrogates and values past
U+10FFFF. -/
def trailAfter? (b : UInt8) : Option (Nat × UInt8 × UInt8) :=
  if 0xC2 ≤ b ∧ b ≤ 0xDF then some (1, 0x80, 0xBF)
  else if b = 0xE0 then some (2, 0xA0, 0xBF)
  else if b = 0xED then some (2, 0x80, 0x9F)
  else if 0xE1 ≤ b ∧ b ≤ 0xEF then some (2, 0x80, 0xBF)
  else if b = 0xF0 then some (3, 0x90, 0xBF)
  else if 0xF1 ≤ b ∧ b ≤ 0xF3 then some (3, 0x80, 0xBF)
  else if b = 0xF4 then some (3, 0x80, 0x8F)
  else none

/-- Reads `n` more bytes of a character whose bits so far are `acc`, the next
byte between `lo` and `hi`; `none` as value when one is missing. -/
def takeTrail : Nat → UInt8 → UInt8 → Nat → Bytes → Option Nat × Bytes
  | 0, _, _, acc, bs => (some acc, bs)
  | _ + 1, _, _, _, [] => (none, [])
  | n + 1, lo, hi, acc, b :: bs =>
    if lo ≤ b ∧ b ≤ hi then takeTrail n 0x80 0xBF (acc * 64 + (b.toNat - 0x80)) bs
    else (none, b :: bs)

theorem length_takeTrail_le (n : Nat) (lo hi : UInt8) (acc : Nat) (bs : Bytes) :
    (takeTrail n lo hi acc bs).2.length ≤ bs.length := by
  fun_induction takeTrail n lo hi acc bs with
  | case1 => exact Nat.le_refl _
  | case2 => exact Nat.le_refl _
  | case3 n lo hi acc b bs h ih => exact Nat.le_trans ih (by simp)
  | case4 => exact Nat.le_refl _

/-- One character, or `none` for one maximal ill-formed piece, and the bytes
after it. -/
def takeChar (b : UInt8) (bs : Bytes) : Option Char × Bytes :=
  if b < 0x80 then (some (Char.ofNat b.toNat), bs)
  else
    match trailAfter? b with
    | none => (none, bs)
    | some (n, lo, hi) =>
      let (code, rest) := takeTrail n lo hi (b.toNat % Nat.pow 2 (6 - n)) bs
      (code.map Char.ofNat, rest)

theorem length_takeChar_le (b : UInt8) (bs : Bytes) :
    (takeChar b bs).2.length ≤ bs.length := by
  unfold takeChar
  split
  · exact Nat.le_refl _
  · split
    · exact Nat.le_refl _
    · exact length_takeTrail_le ..

/-- The text of the bytes, with U+FFFD for each maximal ill-formed piece. -/
def ofBytesLossy : Bytes → Text
  | [] => []
  | b :: bs => (takeChar b bs).1.getD '\uFFFD' :: ofBytesLossy (takeChar b bs).2
termination_by bs => bs.length
decreasing_by
  have := length_takeChar_le b bs
  simp
  omega

end WatInlay.Text
