/-
Sets of code points as ascending lists of closed ranges, the form in which
Unicode publishes its character properties.
-/

namespace WatInlay.Text

/-- Whether `n` lies in one of the ranges, which ascend and do not touch: the
search stops at the first range above `n`. -/
def inRanges : List (Nat × Nat) → Nat → Bool
  | [], _ => false
  | r :: rs, n => if n < r.1 then false else n ≤ r.2 || inRanges rs n

end WatInlay.Text
