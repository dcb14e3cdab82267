/-
The search through diagnostics, step by step.

A step of the search changes at most one number, and the digits that it
replaces stand between two colons of the text as it is then; so the change can
always be made (`Scan.safe`).
-/

import WatInlay.Diagnostics

namespace WatInlay.Diagnostics.Scan

/-- What the next step changes: the digits of a line number that has a
successor `shift` lines further down. -/
def edit? (unit : Text) (shift : Nat) (s : Scan) : Option Edit :=
  if unit = [] then none
  else do
    let found ← Text.find? unit (s.text.after s.pos)
    let colon := s.pos + found + unit.size
    let digits ← numberAt? s.text colon
    let line ← shifted? shift digits
    return ⟨colon + 1, colon + 1 + digits.size, line⟩

/-- The next step changes nothing but these digits, which stand in the text, and
goes on from an offset in the text. -/
structure Safe (unit : Text) (shift : Nat) (s : Scan) : Prop where
  fits : ∀ e, s.edit? unit shift = some e → e.Fits s.text ∧ e.stop ≤ s.text.size
  result : ∀ s', s.next? unit shift = some s' →
    s'.text = match s.edit? unit shift with
      | none => s.text
      | some e => e.result s.text

/-- The digits of a line number can be replaced by any text. -/
theorem fits_of_numberAt? {t digits line : Text} {colon : Nat}
    (h : numberAt? t colon = some digits) :
    Edit.Fits ⟨colon + 1, colon + 1 + digits.size, line⟩ t := by
  obtain ⟨-, p, r, rfl, rfl⟩ := numberAt?_eq_some h
  have hcolon : Char.utf8Size ':' = 1 := by decide
  refine ⟨Nat.le_add_right _ _,
    Text.isBoundary_iff.mpr ⟨p ++ [':'], digits ++ ':' :: r, by simp, by simp [hcolon]⟩,
    Text.isBoundary_iff.mpr ⟨p ++ ':' :: digits, ':' :: r, by simp, ?_⟩⟩
  simp only [Text.size_append, Text.size_cons, hcolon]
  omega

theorem safe (s : Scan) (unit : Text) (shift : Nat) : s.Safe unit shift := by
  constructor
  · intro e he
    unfold edit? at he
    split at he
    · cases he
    · simp only [Option.bind_eq_bind, Option.bind_eq_some_iff, Option.pure_def,
        Option.some.injEq] at he
      obtain ⟨found, -, digits, hdigits, line, -, rfl⟩ := he
      have hfits : Edit.Fits ⟨_, _, line⟩ s.text := fits_of_numberAt? hdigits
      exact ⟨hfits, hfits.2.2.le_size⟩
  · intro s' hs'
    cases unit with
    | nil => cases hs'
    | cons u us =>
      simp only [edit?, reduceCtorEq, ↓reduceIte]
      simp only [next?] at hs'
      cases hfound : Text.find? (u :: us) (s.text.after s.pos) with
      | none =>
        rw [hfound] at hs'
        cases hs'
      | some found =>
        rw [hfound] at hs'
        simp only [Option.bind_eq_bind, Option.bind_some] at hs' ⊢
        cases hdigits : numberAt? s.text (s.pos + found + Text.size (u :: us)) with
        | none =>
          rw [hdigits] at hs'
          cases hs'
          rfl
        | some digits =>
          rw [hdigits] at hs'
          simp only [Option.bind_some] at hs' ⊢
          cases hline : shifted? shift digits with
          | none =>
            rw [hline] at hs'
            cases hs'
            rfl
          | some line =>
            rw [hline] at hs'
            cases hs'
            rfl

end WatInlay.Diagnostics.Scan
