/-
Line numbers shifted, without offsets.

The search through diagnostics rewrites the text it searches, with offsets into
what it has written so far. `shiftLines` reads the text once, from the left,
and writes a shifted number behind each occurrence of the unit's name that has
one. The two agree for every name that is not empty (`Scan.finish_append`):
one step of the search writes some text and leaves an end of what it searched
(`Scan.next?_append`).
-/

import WatInlay.Diagnostics
import WatInlay.Proofs.Amend
import WatInlay.Proofs.Occurrence

namespace WatInlay.Diagnostics

/-! ### Numbers between colons -/

/-- A line number as it is written. -/
def IsNumber (digits : Text) : Prop :=
  digits ≠ [] ∧ ∀ c ∈ digits, c.isDigit = true

instance (digits : Text) : Decidable (IsNumber digits) :=
  decidable_of_iff ((!digits.isEmpty && digits.all Char.isDigit) = true) (by simp [IsNumber])

/-- The number between the colon at the head of a text and the next one, and
what follows. -/
def number? : Text → Option (Text × Text)
  | ':' :: r =>
    match r.dropWhile Char.isDigit with
    | ':' :: rest =>
      if (r.takeWhile Char.isDigit).isEmpty then none
      else some (r.takeWhile Char.isDigit, rest)
    | _ => none
  | _ => none

theorem number?_eq_some_iff {t digits rest : Text} :
    number? t = some (digits, rest) ↔ t = ':' :: digits ++ ':' :: rest ∧ IsNumber digits := by
  constructor
  · intro h
    unfold number? at h
    split at h
    · rename_i r
      split at h
      · rename_i rest hrest
        split at h
        · cases h
        · rename_i hne
          cases h
          refine ⟨?_, by simpa using hne, fun c hc => List.all_eq_true.mp List.all_takeWhile c hc⟩
          rw [List.cons_append, ← hrest, List.takeWhile_append_dropWhile]
      · cases h
    · cases h
  · rintro ⟨rfl, hne, hdigit⟩
    obtain ⟨htake, hdrop⟩ := Text.span_append_cons hdigit (by decide : ':'.isDigit = false) rest
    simp [number?, htake, hdrop, hne]

theorem numberAt?_append (p r : Text) :
    numberAt? (p ++ r) (Text.size p) = (number? r).map fun (digits, _) => digits := by
  rw [numberAt?, Text.after_eq rfl]
  fun_cases number? r with
  | case1 r rest hrest hempty => simp [hrest, hempty]
  | case2 r rest hrest hempty => simp [hrest, hempty]
  | case3 | case4 => simp only [Option.map_none]

/-- What is written for a number: the shifted one, or itself when that is too
large. -/
def renumber (shift : Nat) (digits : Text) : Text :=
  (shifted? shift digits).getD digits

/-! ### One reading from the left -/

/-- The number behind the unit's name at the head of a text, and what follows
its second colon. -/
def lineBehind? (unit t : Text) : Option (Text × Text) :=
  (Text.strip? unit t).bind number?

theorem lineBehind?_eq_some_iff {unit t digits rest : Text} :
    lineBehind? unit t = some (digits, rest) ↔
      t = unit ++ ':' :: digits ++ ':' :: rest ∧ IsNumber digits := by
  simp only [lineBehind?, Option.bind_eq_some_iff, Text.strip?_eq_some_iff, number?_eq_some_iff]
  constructor
  · rintro ⟨_, rfl, rfl, hdigits⟩
    exact ⟨by simp, hdigits⟩
  · rintro ⟨rfl, hdigits⟩
    exact ⟨_, List.append_assoc _ _ _, rfl, hdigits⟩

/-- The text with every number between colons behind the unit's name shifted,
where the shifted number is not too large. -/
def shiftLines (unit : Text) (shift : Nat) : Text → Text
  | [] => []
  | c :: t =>
    match _h : lineBehind? unit (c :: t) with
    | some (digits, rest) =>
      unit ++ ':' :: renumber shift digits ++ ':' :: shiftLines unit shift rest
    | none => c :: shiftLines unit shift t
termination_by t => t.length
decreasing_by
  · have := congrArg List.length (lineBehind?_eq_some_iff.mp _h).1
    simp at this ⊢
    omega
  · simp

variable {unit : Text} {shift : Nat}

theorem shiftLines_cons {c : Char} {t : Text} (h : lineBehind? unit (c :: t) = none) :
    shiftLines unit shift (c :: t) = c :: shiftLines unit shift t := by
  rw [shiftLines]
  split
  · rename_i hsome
    rw [h] at hsome
    cases hsome
  · rfl

theorem shiftLines_numbered {digits : Text} (h : IsNumber digits) (rest : Text) :
    shiftLines unit shift (unit ++ ':' :: digits ++ ':' :: rest) =
      unit ++ ':' :: renumber shift digits ++ ':' :: shiftLines unit shift rest := by
  have hline : lineBehind? unit (unit ++ ':' :: digits ++ ':' :: rest) = some (digits, rest) :=
    lineBehind?_eq_some_iff.mpr ⟨rfl, h⟩
  obtain ⟨c, t, ht⟩ : ∃ c t, unit ++ ':' :: digits ++ ':' :: rest = c :: t := by
    cases unit with
    | nil => exact ⟨_, _, rfl⟩
    | cons c t => exact ⟨_, _, rfl⟩
  rw [ht] at hline ⊢
  rw [shiftLines]
  split
  · rename_i hsome
    rw [hline] at hsome
    cases hsome
    rfl
  · rename_i hnone
    rw [hline] at hnone
    cases hnone

/-- Where the name does not stand there is no number to shift. -/
theorem lineBehind?_eq_none_of_strip? {t : Text} (h : Text.strip? unit t = none) :
    lineBehind? unit t = none := by
  rw [lineBehind?, h]
  rfl

/-- Nothing changes before the first occurrence of the name. -/
theorem shiftLines_of_isFirst {p t : Text} (h : Text.IsFirst unit p (p ++ t)) :
    shiftLines unit shift (p ++ t) = p ++ shiftLines unit shift t := by
  induction p with
  | nil => rfl
  | cons c p ih =>
    have hs : Text.strip? unit (c :: (p ++ t)) = none := h.strip?_eq_none
    rw [List.cons_append, shiftLines_cons (lineBehind?_eq_none_of_strip? hs),
      ih ((Text.isFirst_cons_iff hs).mp h)]
    rfl

theorem shiftLines_of_absent {t : Text} (h : ¬ unit <:+: t) : shiftLines unit shift t = t := by
  induction t with
  | nil => rw [shiftLines]
  | cons c t ih =>
    rw [List.infix_cons_iff, not_or] at h
    have hs := Text.strip?_eq_none_iff.mpr h.1
    rw [shiftLines_cons (lineBehind?_eq_none_of_strip? hs), ih h.2]

/-! ### The search -/

/-- What one step of the search writes for a beginning of the text that it
searches, and what it leaves of that text. -/
def step? (unit : Text) (shift : Nat) (t : Text) : Option (Text × Text) := do
  let (p, r) ← Text.breakAt? unit t
  match number? r with
  | some (digits, rest) => some (p ++ unit ++ ':' :: renumber shift digits ++ [':'], rest)
  | none => some (p ++ unit.take 1, unit.drop 1 ++ r)

/-- A step of the search goes on in the text that it leaves, behind what it has
written. -/
theorem Scan.next?_append (hunit : unit ≠ []) (shift : Nat) (p t : Text) :
    Scan.next? unit shift ⟨p ++ t, Text.size p⟩ =
      (step? unit shift t).map fun (done, rest) => ⟨p ++ done ++ rest, Text.size (p ++ done)⟩ := by
  obtain ⟨u, us, rfl⟩ := List.exists_cons_of_ne_nil hunit
  have hcolon : Char.utf8Size ':' = 1 := by decide
  simp only [next?, Text.after_eq rfl, Text.find?_eq_map_breakAt?, step?]
  cases hbreak : Text.breakAt? (u :: us) t with
  | none => rfl
  | some found =>
    obtain ⟨q, r⟩ := found
    obtain ⟨rfl, -⟩ := Text.breakAt?_eq_some_iff.mp hbreak
    have hplace : Text.size p + Text.size q + Text.size (u :: us) =
        Text.size (p ++ q ++ u :: us) := by simp [Nat.add_assoc]
    have htext : p ++ (q ++ u :: us ++ r) = p ++ q ++ u :: us ++ r := by simp
    simp only [Option.map_some, Option.bind_eq_bind, Option.bind_some, hplace]
    rw [htext, numberAt?_append]
    cases hnumber : number? r with
    | none => simp [Nat.add_assoc]
    | some found =>
      obtain ⟨digits, rest⟩ := found
      obtain ⟨rfl, -⟩ := number?_eq_some_iff.mp hnumber
      simp only [Option.map_some]
      cases hline : shifted? shift digits with
      | none =>
        simp [renumber, hline, hcolon, Nat.add_assoc]
      | some line =>
        have hedit : Edit.result ⟨Text.size (p ++ q ++ u :: us) + 1,
            Text.size (p ++ q ++ u :: us) + 1 + Text.size digits, line⟩
              (p ++ q ++ u :: us ++ (':' :: digits ++ ':' :: rest)) =
            p ++ q ++ u :: us ++ [':'] ++ line ++ ':' :: rest := by
          have h := Edit.result_append (p ++ q ++ u :: us ++ [':']) digits (':' :: rest) line
          simpa [hcolon, Nat.add_assoc] using h
        simp only [hedit, renumber, hline]
        simp [hcolon, Nat.add_assoc]

/-- What a step writes is what one reading from the left writes. -/
theorem shiftLines_of_step? (hunit : unit ≠ []) {t done rest : Text}
    (h : step? unit shift t = some (done, rest)) :
    shiftLines unit shift t = done ++ shiftLines unit shift rest := by
  simp only [step?, Option.bind_eq_bind, Option.bind_eq_some_iff, Prod.exists] at h
  obtain ⟨p, r, hbreak, h⟩ := h
  obtain ⟨rfl, hfirst⟩ := Text.breakAt?_eq_some_iff.mp hbreak
  rw [List.append_assoc] at hfirst ⊢
  rw [shiftLines_of_isFirst hfirst]
  cases hnumber : number? r with
  | none =>
    rw [hnumber] at h
    cases h
    obtain ⟨u, us, rfl⟩ := List.exists_cons_of_ne_nil hunit
    rw [List.cons_append, shiftLines_cons]
    · simp
    · rw [lineBehind?, ← List.cons_append, Text.strip?_self_append]
      exact hnumber
  | some found =>
    obtain ⟨digits, rest⟩ := found
    rw [hnumber] at h
    cases h
    obtain ⟨rfl, hdigits⟩ := number?_eq_some_iff.mp hnumber
    have hhead : unit ++ (':' :: digits ++ ':' :: rest) = unit ++ ':' :: digits ++ ':' :: rest :=
      (List.append_assoc _ _ _).symm
    rw [hhead, shiftLines_numbered hdigits]
    simp

theorem absent_of_step?_eq_none {t : Text} (h : step? unit shift t = none) : ¬ unit <:+: t := by
  rw [← Text.breakAt?_eq_none_iff]
  cases hbreak : Text.breakAt? unit t with
  | none => rfl
  | some found =>
    simp only [step?, hbreak, Option.bind_eq_bind, Option.bind_some] at h
    split at h <;> cases h

/-- The search writes what one reading from the left writes, for every name
that is not empty, however its occurrences overlap. -/
theorem Scan.finish_append (hunit : unit ≠ []) (shift : Nat) (p t : Text) :
    Scan.finish unit shift ⟨p ++ t, Text.size p⟩ = p ++ shiftLines unit shift t := by
  generalize hs : (⟨p ++ t, Text.size p⟩ : Scan) = s
  fun_induction Scan.finish unit shift s generalizing p t with
  | case1 s hnone =>
    subst hs
    rw [next?_append hunit, Option.map_eq_none_iff] at hnone
    rw [shiftLines_of_absent (absent_of_step?_eq_none hnone)]
  | case2 s s' hnext ih =>
    subst hs
    rw [next?_append hunit, Option.map_eq_some_iff] at hnext
    obtain ⟨⟨done, rest⟩, hstep, hs'⟩ := hnext
    rw [ih (p ++ done) rest hs', shiftLines_of_step? hunit hstep, List.append_assoc]

theorem finish_zero (hunit : unit ≠ []) (shift : Nat) (t : Text) :
    Scan.finish unit shift ⟨t, 0⟩ = shiftLines unit shift t :=
  Scan.finish_append hunit shift [] t

/-- Remapping is one reading for the line numbers and one for the name. -/
theorem ofBody_eq (hunit : unit ≠ []) (diagnostics source path : Text) (bodyStart : Nat) :
    ofBody diagnostics source path unit bodyStart =
      Text.replaceAll unit path
        (shiftLines unit ((source.bytes.take bodyStart).count 0x0A) diagnostics) := by
  rw [ofBody, remap, if_neg (by simpa using hunit), finish_zero hunit,
    Text.lineBreaksBefore_eq_count]

end WatInlay.Diagnostics
