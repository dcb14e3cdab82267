/-
The ground of all readers: steps that may fail, and the white space between
tokens.

A reader takes what it recognises from the head of a text and returns the
rest, or the first fault that it meets. What is left is never longer than the
text was; the lemmas on `length` say so and let loops over readers end.
-/

import WatInlay.Json.Fault

namespace WatInlay.Json

/-! ### Steps that may fail -/

theorem exists_of_bind_eq_ok {α β : Type} {x : Except Fault α} {f : α → Except Fault β} {b : β}
    (h : x >>= f = .ok b) : ∃ a, x = .ok a ∧ f a = .ok b := by
  cases x with
  | error e => cases h
  | ok a => exact ⟨a, rfl, h⟩

theorem exists_of_map_eq_ok {α β : Type} {x : Except Fault α} {f : α → β} {b : β}
    (h : x.map f = .ok b) : ∃ a, x = .ok a ∧ f a = b := by
  cases x with
  | error e => cases h
  | ok a => exact ⟨a, rfl, Except.ok.inj h⟩

/-! ### White space -/

/-- The white space of JSON. -/
def isSpace (c : Char) : Bool :=
  c == ' ' || c == '\t' || c == '\n' || c == '\r'

/-- The text from its first character that is no white space. -/
def trimStart (t : Text) : Text :=
  t.dropWhile isSpace

theorem length_trimStart_le (t : Text) : (trimStart t).length ≤ t.length :=
  (List.dropWhile_suffix isSpace).length_le

end WatInlay.Json
