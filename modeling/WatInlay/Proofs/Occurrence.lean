/-
Occurrences of a word in a text.

`breakAt?` takes a text apart at the first occurrence of a word
(`breakAt?_eq_some_iff`); the search with offsets is this, measured
(`find?_eq_map_breakAt?`). `Replaced` says what it is to replace all
occurrences from the left, none overlapping another, and `replaceAll` does it
(`replaced_iff`). A character that the word does not contain separates its
occurrences, so that a text may be replaced in segments
(`replaceAll_intercalate`).
-/

import WatInlay.Proofs.Text

namespace WatInlay.Text

/-! ### The first occurrence -/

/-- What stands before the first occurrence of `word`, and what behind it. -/
def breakAt? (word : Text) : Text → Option (Text × Text)
  | [] => (strip? word []).map fun r => ([], r)
  | c :: t =>
    match strip? word (c :: t) with
    | some r => some ([], r)
    | none => (breakAt? word t).map fun (p, r) => (c :: p, r)

/-- No occurrence of `word` in the text starts inside `p`, its beginning. -/
def IsFirst (word p t : Text) : Prop :=
  ∀ q s, t = q ++ word ++ s → p.length ≤ q.length

variable {word new t t' p r : Text}

theorem find?_eq_map_breakAt? (word t : Text) :
    find? word t = (breakAt? word t).map fun (p, _) => size p := by
  induction t with
  | nil => cases word <;> rfl
  | cons c t ih =>
    rw [find?, breakAt?, isPrefixOf_iff_strip?, ih]
    cases strip? word (c :: t) with
    | some r => rfl
    | none => cases breakAt? word t <;> rfl

/-- Where no occurrence starts at the head, occurrences start in the tail. -/
theorem isFirst_cons_iff {c : Char} (h : strip? word (c :: t) = none) :
    IsFirst word (c :: p) (c :: t) ↔ IsFirst word p t := by
  constructor
  · intro hfirst q s ht
    have := hfirst (c :: q) s (by rw [ht]; rfl)
    simpa using this
  · intro hfirst q s ht
    cases q with
    | nil => exact absurd ⟨s, ht.symm⟩ (strip?_eq_none_iff.mp h)
    | cons d q =>
      simp only [List.cons_append, List.cons.injEq] at ht
      simpa using hfirst q s ht.2

/-- No occurrence stands at the head when all start further on. -/
theorem IsFirst.strip?_eq_none {c : Char} (h : IsFirst word (c :: p) t) :
    strip? word t = none := by
  rw [strip?_eq_none_iff]
  rintro ⟨s, hs⟩
  have := h [] s hs.symm
  simp at this

theorem breakAt?_eq_some_iff :
    breakAt? word t = some (p, r) ↔ t = p ++ word ++ r ∧ IsFirst word p t := by
  induction t generalizing p with
  | nil =>
    rw [breakAt?, Option.map_eq_some_iff]
    constructor
    · rintro ⟨s, hs, heq⟩
      cases heq
      exact ⟨strip?_eq_some_iff.mp hs, fun _ _ _ => Nat.zero_le _⟩
    · rintro ⟨ht, -⟩
      obtain ⟨hp, hr⟩ := List.append_eq_nil_iff.mp ht.symm
      obtain ⟨hp, hword⟩ := List.append_eq_nil_iff.mp hp
      exact ⟨r, strip?_eq_some_iff.mpr (by rw [hword, hr]; rfl), by rw [hp]⟩
  | cons c t ih =>
    rw [breakAt?]
    cases hs : strip? word (c :: t) with
    | some s =>
      have ht := strip?_eq_some_iff.mp hs
      constructor
      · intro h
        cases h
        exact ⟨ht, fun _ _ _ => Nat.zero_le _⟩
      · rintro ⟨ht', hfirst⟩
        have hp : p = [] := List.eq_nil_of_length_eq_zero (Nat.le_zero.mp (hfirst [] s ht))
        subst hp
        rw [List.nil_append, ht] at ht'
        rw [List.append_cancel_left ht']
    | none =>
      simp only [Option.map_eq_some_iff, Prod.exists, Prod.mk.injEq]
      constructor
      · rintro ⟨q, s, hq, rfl, rfl⟩
        obtain ⟨rfl, hfirst⟩ := ih.mp hq
        exact ⟨rfl, (isFirst_cons_iff hs).mpr hfirst⟩
      · rintro ⟨ht, hfirst⟩
        cases p with
        | nil => exact absurd ⟨r, ht.symm⟩ (strip?_eq_none_iff.mp hs)
        | cons d p =>
          simp only [List.cons_append, List.cons.injEq] at ht
          obtain ⟨rfl, ht⟩ := ht
          exact ⟨p, r, ih.mpr ⟨ht, (isFirst_cons_iff hs).mp hfirst⟩, rfl, rfl⟩

theorem breakAt?_eq_none_iff : breakAt? word t = none ↔ ¬ word <:+: t := by
  induction t with
  | nil =>
    rw [breakAt?, Option.map_eq_none_iff, strip?_eq_none_iff, List.infix_nil, List.prefix_nil]
  | cons c t ih =>
    rw [breakAt?, List.infix_cons_iff, not_or, ← ih, ← strip?_eq_none_iff]
    cases strip? word (c :: t) <;> simp

/-! ### Replacing -/

/-- In `t'` every occurrence of `word` in `t` has become `new`, from the left
and none overlapping another. -/
inductive Replaced (word new : Text) : Text → Text → Prop where
  | absent {t : Text} (h : ¬ word <:+: t) : Replaced word new t t
  | first {p r r' : Text} (hfirst : IsFirst word p (p ++ word ++ r)) (h : Replaced word new r r') :
      Replaced word new (p ++ word ++ r) (p ++ new ++ r')

theorem replaceAll_cons_of_strip? {c : Char} (h : strip? word (c :: t) = none) :
    replaceAll word new (c :: t) = c :: replaceAll word new t := by
  rw [replaceAll, isPrefixOf_iff_strip?, h]
  simp

theorem replaceAll_append (hword : word ≠ []) (r : Text) :
    replaceAll word new (word ++ r) = new ++ replaceAll word new r := by
  obtain ⟨c, w, rfl⟩ := List.exists_cons_of_ne_nil hword
  rw [List.cons_append, replaceAll, if_pos]
  · simp
  · rw [List.isPrefixOf_iff_prefix]
    exact ⟨r, rfl⟩

theorem replaceAll_of_absent (h : ¬ word <:+: t) : replaceAll word new t = t := by
  induction t with
  | nil => rw [replaceAll]
  | cons c t ih =>
    rw [List.infix_cons_iff, not_or] at h
    rw [replaceAll_cons_of_strip? (strip?_eq_none_iff.mpr h.1), ih h.2]

/-- Up to the first occurrence all stays as it is. -/
theorem replaceAll_of_isFirst (h : IsFirst word p (p ++ t)) :
    replaceAll word new (p ++ t) = p ++ replaceAll word new t := by
  induction p with
  | nil => rfl
  | cons c p ih =>
    have hs : strip? word (c :: (p ++ t)) = none := h.strip?_eq_none
    rw [List.cons_append, replaceAll_cons_of_strip? hs, ih ((isFirst_cons_iff hs).mp h)]
    rfl

/-- All occurrences are replaced, however they may overlap. -/
theorem replaced_replaceAll (hword : word ≠ []) (new t : Text) :
    Replaced word new t (replaceAll word new t) := by
  induction hn : t.length using Nat.strongRecOn generalizing t with
  | ind n ih =>
    cases h : breakAt? word t with
    | none =>
      have habsent := breakAt?_eq_none_iff.mp h
      rw [replaceAll_of_absent habsent]
      exact .absent habsent
    | some found =>
      obtain ⟨p, r⟩ := found
      obtain ⟨rfl, hfirst⟩ := breakAt?_eq_some_iff.mp h
      have hlen : r.length < n := by
        have := List.length_pos_iff.mpr hword
        simp at hn
        omega
      have hsame : replaceAll word new (p ++ word ++ r) = p ++ new ++ replaceAll word new r := by
        rw [List.append_assoc] at hfirst ⊢
        rw [replaceAll_of_isFirst hfirst, replaceAll_append hword, List.append_assoc]
      rw [hsame]
      exact .first hfirst (ih _ hlen r rfl)

theorem replaced_iff (hword : word ≠ []) :
    Replaced word new t t' ↔ replaceAll word new t = t' := by
  constructor
  · intro h
    induction h with
    | absent h => exact replaceAll_of_absent h
    | @first p r r' hfirst _ ih =>
      rw [List.append_assoc] at hfirst ⊢
      rw [replaceAll_of_isFirst hfirst, replaceAll_append hword, ih, List.append_assoc]
  · rintro rfl
    exact replaced_replaceAll hword new t

/-! ### Segments -/

/-- A word without the separator does not reach over it. -/
theorem strip?_append_cons_eq_none {sep : Char} (hsep : sep ∉ word)
    (h : strip? word t = none) (r : Text) : strip? word (t ++ sep :: r) = none := by
  rw [strip?_eq_none_iff] at h ⊢
  rintro ⟨s, hs⟩
  rcases List.append_eq_append_iff.mp hs with ⟨e, ht, -⟩ | ⟨e, hword, hrest⟩
  · exact h ⟨e, ht.symm⟩
  · cases e with
    | nil => exact h ⟨[], by rw [hword]; simp⟩
    | cons d e =>
      simp only [List.cons_append, List.cons.injEq] at hrest
      exact hsep (by rw [hword, hrest.1]; simp)

theorem replaceAll_append_cons {sep : Char} (hsep : sep ∉ word) (hword : word ≠ [])
    (t r : Text) :
    replaceAll word new (t ++ sep :: r) = replaceAll word new t ++ sep :: replaceAll word new r := by
  induction hn : t.length using Nat.strongRecOn generalizing t with
  | ind n ih =>
    cases h : strip? word t with
    | some s =>
      have ht := strip?_eq_some_iff.mp h
      have hlen : s.length < n := by
        have := List.length_pos_iff.mpr hword
        rw [← hn, ht, List.length_append]
        omega
      rw [ht, List.append_assoc, replaceAll_append hword, replaceAll_append hword,
        ih _ hlen s rfl, List.append_assoc]
    | none =>
      have hbehind := strip?_append_cons_eq_none hsep h r
      cases t with
      | nil =>
        rw [List.nil_append] at hbehind ⊢
        rw [replaceAll_cons_of_strip? hbehind, replaceAll]
        rfl
      | cons c t =>
        rw [List.cons_append] at hbehind ⊢
        rw [replaceAll_cons_of_strip? hbehind, replaceAll_cons_of_strip? h,
          ih t.length (by rw [← hn]; simp) t rfl]
        rfl

theorem intercalate_singleton_cons {sep : Char} {ts : List Text} (hts : ts ≠ []) (t : Text) :
    [sep].intercalate (t :: ts) = t ++ sep :: [sep].intercalate ts := by
  rw [List.intercalate_cons_of_ne_nil hts, List.append_assoc, List.singleton_append]

/-- Segments may be replaced one by one. -/
theorem replaceAll_intercalate {sep : Char} (hsep : sep ∉ word) (hword : word ≠ [])
    (ts : List Text) :
    replaceAll word new ([sep].intercalate ts) =
      [sep].intercalate (ts.map (replaceAll word new)) := by
  induction ts with
  | nil => exact replaceAll_of_absent fun h => hword (List.infix_nil.mp h)
  | cons t ts ih =>
    cases ts with
    | nil => simp
    | cons u ts =>
      have hne : (u :: ts).map (replaceAll word new) ≠ [] := by simp
      rw [intercalate_singleton_cons (List.cons_ne_nil u ts), replaceAll_append_cons hsep hword, ih]
      exact (intercalate_singleton_cons hne _).symm

end WatInlay.Text
