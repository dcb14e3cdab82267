/-
Grammars whose statements delimit themselves.

The elements of a lead are greedy: a run of white space or an identifier takes
all it can get, and a word that may be missing is taken when it is there. In a
settled lead each of them stops at a later word of the lead, so that what
follows the lead has no part in reading it (`takeAll?_of_settled`). When also
the tail holds no semicolon but its last character, a lead keeps its meaning
with any payload and before any text (`Grammar.SelfDelimiting.read?_eq`). The
grammars of both dialects are of this kind (`selfDelimiting_of_mem_all`).
-/

import WatInlay.Dialect
import WatInlay.Proofs.Literal

namespace WatInlay.Literal

/-! ### Settled leads -/

/-- The last element is a word, and a word that may be missing is followed by
one it does not begin with. -/
def settled : List Step → Bool
  | [] => false
  | .blanks :: steps => settled steps
  | .identifier :: steps => settled steps
  | [.word w] => !w.isEmpty
  | .word _ :: steps => settled steps
  | .maybe w :: .word v :: steps => !v.isPrefixOf w && settled (.word v :: steps)
  | .maybe _ :: _ => false

theorem ne_nil_of_takeAll? {steps : List Step} {t lead r : Text} (hs : settled steps = true)
    (h : takeAll? steps t = some (lead, r)) : lead ≠ [] := by
  fun_induction settled steps generalizing t lead with
  | case1 => cases hs
  | case2 steps ih =>
    obtain ⟨a, b, u, -, hb, rfl⟩ := takeAll?_cons_eq_some_iff.mp h
    simp [ih hs hb]
  | case3 steps ih =>
    obtain ⟨a, b, u, -, hb, rfl⟩ := takeAll?_cons_eq_some_iff.mp h
    simp [ih hs hb]
  | case4 w =>
    obtain ⟨a, b, u, ha, -, rfl⟩ := takeAll?_cons_eq_some_iff.mp h
    obtain ⟨v, -, heq⟩ := Option.map_eq_some_iff.mp ha
    cases heq
    simp only [Bool.not_eq_true', List.isEmpty_eq_false_iff] at hs
    simp [hs]
  | case5 w steps _ ih =>
    obtain ⟨a, b, u, -, hb, rfl⟩ := takeAll?_cons_eq_some_iff.mp h
    simp [ih hs hb]
  | case6 w v steps ih =>
    rw [Bool.and_eq_true] at hs
    obtain ⟨a, b, u, -, hb, rfl⟩ := takeAll?_cons_eq_some_iff.mp h
    simp [ih hs.2 hb]
  | case7 => cases hs

/-- A greedy run stops where it stopped before, as long as the character that
stopped it is still there. -/
theorem takeWhile_append_of_stopped {p : Char → Bool} {t lead r : Text}
    (h : t.dropWhile p = lead ++ r) (hlead : lead ≠ []) (y : Text) :
    (t.takeWhile p ++ (lead ++ y)).takeWhile p = t.takeWhile p ∧
      (t.takeWhile p ++ (lead ++ y)).dropWhile p = lead ++ y := by
  obtain ⟨c, l, rfl⟩ := List.exists_cons_of_ne_nil hlead
  have hstop : p c = false := by
    have := List.head?_dropWhile_not p t
    rw [h] at this
    simpa using this
  have hall : ∀ a ∈ t.takeWhile p, p a = true :=
    List.all_eq_true.mp List.all_takeWhile
  exact Text.span_append_cons hall hstop (l ++ y)

/-- What follows a settled lead has no part in reading it. -/
theorem takeAll?_of_settled {steps : List Step} {t lead r : Text} (hs : settled steps = true)
    (h : takeAll? steps t = some (lead, r)) (y : Text) :
    takeAll? steps (lead ++ y) = some (lead, y) := by
  fun_induction settled steps generalizing t lead with
  | case1 => cases hs
  | case2 steps ih =>
    obtain ⟨a, b, u, ha, hb, rfl⟩ := takeAll?_cons_eq_some_iff.mp h
    cases ha
    have hstop := takeWhile_append_of_stopped (eq_append_of_takeAll? hb) (ne_nil_of_takeAll? hs hb) y
    refine takeAll?_cons_eq_some_iff.mpr ⟨_, b, b ++ y, ?_, ih hs hb, rfl⟩
    rw [List.append_assoc, Step.take?, hstop.1, hstop.2]
  | case3 steps ih =>
    obtain ⟨a, b, u, ha, hb, rfl⟩ := takeAll?_cons_eq_some_iff.mp h
    simp only [Step.take?] at ha
    split at ha
    · cases ha
    · rename_i hword
      cases ha
      have hstop :=
        takeWhile_append_of_stopped (eq_append_of_takeAll? hb) (ne_nil_of_takeAll? hs hb) y
      refine takeAll?_cons_eq_some_iff.mpr ⟨_, b, b ++ y, ?_, ih hs hb, rfl⟩
      rw [List.append_assoc, Step.take?, hstop.1, hstop.2, if_neg hword]
  | case4 w =>
    obtain ⟨a, b, u, ha, hb, rfl⟩ := takeAll?_cons_eq_some_iff.mp h
    obtain ⟨v, -, heq⟩ := Option.map_eq_some_iff.mp ha
    cases heq
    cases hb
    refine takeAll?_cons_eq_some_iff.mpr ⟨w, [], y, ?_, rfl, rfl⟩
    simp [Step.take?, Text.strip?_self_append]
  | case5 w steps _ ih =>
    obtain ⟨a, b, u, ha, hb, rfl⟩ := takeAll?_cons_eq_some_iff.mp h
    obtain ⟨v, -, heq⟩ := Option.map_eq_some_iff.mp ha
    cases heq
    refine takeAll?_cons_eq_some_iff.mpr ⟨w, b, b ++ y, ?_, ih hs hb, rfl⟩
    simp [Step.take?, Text.strip?_self_append]
  | case6 w v steps ih =>
    rw [Bool.and_eq_true, Bool.not_eq_true'] at hs
    obtain ⟨a, b, u, ha, hb, rfl⟩ := takeAll?_cons_eq_some_iff.mp h
    refine takeAll?_cons_eq_some_iff.mpr ⟨a, b, b ++ y, ?_, ih hs.2 hb, rfl⟩
    simp only [Step.take?, Option.some.injEq] at ha ⊢
    cases hw : Text.strip? w t with
    | some u' =>
      rw [hw] at ha
      cases ha
      simp [Text.strip?_self_append]
    | none =>
      rw [hw] at ha
      cases ha
      -- The word that comes next stands at the head of what is left.
      obtain ⟨c, b, u, hc, -, rfl⟩ := takeAll?_cons_eq_some_iff.mp hb
      obtain ⟨z, hz, heq⟩ := Option.map_eq_some_iff.mp hc
      cases heq
      rw [Text.strip?_eq_some_iff.mp hz] at hw
      have hmissing := (Text.strip?_append_eq_none_iff hs.1 _).mp hw
      simp [(Text.strip?_append_eq_none_iff hs.1 _).mpr hmissing]
  | case7 => cases hs

/-! ### Self-delimiting grammars -/

/-- The lead is settled, the tail ends with its only semicolon, and a new
statement opens with a lead. -/
structure Grammar.SelfDelimiting (g : Grammar) : Prop where
  lead : settled g.lead = true
  tail : EndsAtSemicolon g.tail
  opening : takeAll? g.lead g.opening = some (g.opening, [])

namespace Grammar.SelfDelimiting

variable {g : Grammar}

/-- The first semicolon behind a payload without one is the end of the tail. -/
theorem endsAtSemicolon (hg : g.SelfDelimiting) {payload : Text} (hp : ';' ∉ payload) :
    EndsAtSemicolon (payload ++ g.tail) := by
  obtain ⟨u, hu, htail⟩ := hg.tail
  exact ⟨payload ++ u, by simp [hp, hu], by rw [htail, List.append_assoc]⟩

/-- A lead that was read once is read again before any payload without a
semicolon, and the statement ends with the tail. -/
theorem read?_eq (hg : g.SelfDelimiting) {t lead r payload : Text}
    (h : takeAll? g.lead t = some (lead, r)) (hp : ';' ∉ payload) (rest : Text) :
    g.read? (lead ++ payload ++ g.tail ++ rest) = some ⟨lead, payload, rest⟩ := by
  refine read?_eq_some_iff.mpr ⟨?_, hg.endsAtSemicolon hp⟩
  rw [List.append_assoc lead, List.append_assoc lead]
  exact takeAll?_of_settled hg.lead h _

/-- The payload of a statement holds no semicolon. -/
theorem semicolon_not_mem_payload (hg : g.SelfDelimiting) {t : Text} {k : Reading}
    (h : g.read? t = some k) : ';' ∉ k.payload := by
  obtain ⟨u, hu, htail⟩ := hg.tail
  obtain ⟨-, v, hv, hends⟩ := read?_eq_some_iff.mp h
  rw [htail, ← List.append_assoc] at hends
  have hpayload := (List.append_inj' hends rfl).1
  intro hmem
  exact hv (by rw [← hpayload]; exact List.mem_append_left _ hmem)

end Grammar.SelfDelimiting

theorem selfDelimiting_cpp : Dialect.cpp.literal.SelfDelimiting where
  lead := by decide
  tail := ⟨"\")".toList, by decide, by decide⟩
  opening := by decide

theorem selfDelimiting_rust : Dialect.rust.literal.SelfDelimiting where
  lead := by decide
  tail := ⟨"\").unwrap()".toList, by decide, by decide⟩
  opening := by decide

/-- The grammars of all dialects delimit their statements. -/
theorem selfDelimiting_of_mem_all {d : Dialect} (hd : d ∈ Dialect.all) :
    d.literal.SelfDelimiting := by
  simp only [Dialect.all, List.mem_cons, List.not_mem_nil, or_false] at hd
  rcases hd with rfl | rfl
  · exact selfDelimiting_cpp
  · exact selfDelimiting_rust

end WatInlay.Literal
