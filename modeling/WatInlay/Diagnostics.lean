/-
Compiler messages, in the coordinates of the source.

A compiler sees a block's body as a file of its own, the unit, and reports
`unit:line:`. `remap` adds the number of source lines above the body to each
such line number and then writes the source's path for the unit's name.
-/

import WatInlay.Buffer

namespace WatInlay.Diagnostics

/-- The digits between two colons, the first of which is at offset `colon`. -/
def numberAt? (t : Text) (colon : Nat) : Option Text :=
  match t.after colon with
  | ':' :: r =>
    match r.dropWhile Char.isDigit with
    | ':' :: _ =>
      let digits := r.takeWhile Char.isDigit
      if digits.isEmpty then none else some digits
    | _ => none
  | _ => none

/-- Line numbers are below this bound, before and after a shift. -/
def lineBound : Nat :=
  Nat.pow 2 64

/-- The digits of the line `shift` lines further down, if it has a number. -/
def shifted? (shift : Nat) (digits : Text) : Option Text :=
  let line := Text.decimalValue digits
  if line < lineBound ∧ line + shift < lineBound then some (Text.ofNat (line + shift)) else none

/-- A text whose line numbers before `pos` have been dealt with. -/
structure Scan where
  text : Text
  pos : Nat
  deriving DecidableEq, Repr

/-- Deals with the next occurrence of the unit's name. A line number after it
is shifted, or left as written when the shifted one would be too large, and the
search goes on after its second colon. Without a line number the search goes on
after the first character of the name, since occurrences may overlap. -/
def Scan.next? (unit : Text) (shift : Nat) (s : Scan) : Option Scan :=
  match unit with
  | [] => none
  | u :: us =>
    match Text.find? (u :: us) (s.text.after s.pos) with
    | none => none
    | some found =>
      let nameStart := s.pos + found
      let colon := nameStart + Text.size (u :: us)
      match numberAt? s.text colon with
      | none => some { s with pos := nameStart + u.utf8Size }
      | some digits =>
        match shifted? shift digits with
        | none => some { s with pos := colon + 1 + digits.size + 1 }
        | some line =>
          some { text := Edit.result ⟨colon + 1, colon + 1 + digits.size, line⟩ s.text
                 pos := colon + 1 + line.size + 1 }

theorem numberAt?_eq_some {t digits : Text} {colon : Nat} (h : numberAt? t colon = some digits) :
    digits ≠ [] ∧ ∃ p r, t = p ++ ':' :: digits ++ ':' :: r ∧ Text.size p = colon := by
  unfold numberAt? at h
  split at h
  · rename_i r hr
    obtain ⟨p, rfl, rfl⟩ := Text.exists_of_after_eq_cons hr
    split at h
    · rename_i q hq
      dsimp only at h
      split at h
      · cases h
      · rename_i hne
        cases h
        refine ⟨by simpa using hne, p, q, ?_, rfl⟩
        have := List.takeWhile_append_dropWhile (p := Char.isDigit) (l := r)
        rw [hq] at this
        simp [this]
    · cases h
  · cases h

/-- Each step leaves less of the text to search, also when the text grows. -/
theorem Scan.tail_lt_of_next?_eq_some {unit : Text} {shift : Nat} {s s' : Scan}
    (h : s.next? unit shift = some s') : s'.text.size - s'.pos < s.text.size - s.pos := by
  unfold next? at h
  split at h
  · cases h
  · rename_i u us
    split at h
    · cases h
    · rename_i found hfound
      have hfit : s.pos + found + Text.size (u :: us) ≤ s.text.size := by
        obtain ⟨q, r, heq, rfl⟩ := Text.exists_of_find?_eq_some hfound
        cases hq : q ++ u :: us ++ r with
        | nil => simp at hq
        | cons c t =>
          rw [hq] at heq
          obtain ⟨p, ht, hp⟩ := Text.exists_of_after_eq_cons heq
          rw [ht, ← hq]
          simp
          omega
      have hu := Char.utf8Size_pos u
      simp only [Text.size_cons] at hfit
      dsimp only at h
      split at h
      · cases h
        simp only
        omega
      · rename_i digits hdigits
        obtain ⟨-, p, r, ht, hp⟩ := numberAt?_eq_some hdigits
        have hsize := congrArg Text.size ht
        have hcolon : Char.utf8Size ':' = 1 := by decide
        simp only [Text.size_cons] at hp
        simp only [Text.size_append, Text.size_cons] at hsize
        split at h
        · cases h
          simp only [Text.size_cons]
          omega
        · rename_i line hline
          cases h
          have hfits : Edit.Fits ⟨Text.size p + 1, Text.size p + 1 + digits.size, line⟩ s.text := by
            refine ⟨by simp, Text.isBoundary_iff.mpr ⟨p ++ [':'], digits ++ ':' :: r, ?_, ?_⟩,
              Text.isBoundary_iff.mpr ⟨p ++ ':' :: digits, ':' :: r, ?_, ?_⟩⟩
            · simp [ht]
            · simp [hcolon]
            · simp [ht]
            · simp [hcolon]
              omega
          have hres := Edit.size_result_of_fits hfits
          simp only [Text.size_cons, ← hp] at hres ⊢
          omega

/-- The text when no occurrence is left. -/
def Scan.finish (unit : Text) (shift : Nat) (s : Scan) : Text :=
  match _h : s.next? unit shift with
  | none => s.text
  | some s' => s'.finish unit shift
termination_by s.text.size - s.pos
decreasing_by exact Scan.tail_lt_of_next?_eq_some (by assumption)

/-- Messages about the unit named `unit` as messages about `path`, where the
unit's first line is line `shift + 1` of the source. -/
def remap (diagnostics : Text) (shift : Nat) (path unit : Text) : Text :=
  if unit.isEmpty then diagnostics
  else Text.replaceAll unit path (Scan.finish unit shift ⟨diagnostics, 0⟩)

/-- Messages about a body that stands at offset `bodyStart` of `source`. -/
def ofBody (diagnostics source path unit : Text) (bodyStart : Nat) : Text :=
  remap diagnostics (source.lineBreaksBefore bodyStart) path unit

end WatInlay.Diagnostics
