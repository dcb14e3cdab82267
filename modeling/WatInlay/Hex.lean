/-
Bytes as lowercase hexadecimal text, two digits each.
-/

import WatInlay.Text

namespace WatInlay.Hex

/-- The sixteen digits in order. -/
def digits : Text :=
  "0123456789abcdef".toList

/-- The digit of a value below sixteen. -/
def digit (n : Nat) : Char :=
  digits.getD n '0'

/-- Two digits, the high half first. -/
def ofByte (b : UInt8) : Text :=
  [digit (b.toNat / 16), digit (b.toNat % 16)]

/-- Two digits for each byte, in order. -/
def encode (bs : Bytes) : Text :=
  bs.flatMap ofByte

@[simp] theorem encode_nil : encode [] = [] := rfl

@[simp] theorem encode_cons (b : UInt8) (bs : Bytes) :
    encode (b :: bs) = digit (b.toNat / 16) :: digit (b.toNat % 16) :: encode bs := rfl

end WatInlay.Hex
