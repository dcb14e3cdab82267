/-
Diagnostics by their segments.

A message names the unit and its lines between colons. A name without a colon
stands in one segment, so what happens to diagnostics can be said for each of
the segments between their colons (`Remapped`): one that is a line of the unit
gets that line's number in the source, and in every other one the path stands
for the unit's name. `ofBody_segments` says that the two passes over the whole
text do this and nothing else, for every name that has a character other than a
digit. Without such a character the name could itself be a line number.
-/

import WatInlay.Proofs.LineShift

namespace WatInlay.Diagnostics

/-! ### Remapped segments -/

/-- Segment `i` is the number `n` of one of the unit's lines: it stands between
two colons, behind a segment that ends in the unit's name. -/
structure LineAt (unit : Text) (shift : Nat) (segments : List Text) (i n : Nat) : Prop where
  inner : 0 < i ∧ i + 1 < segments.length
  behind : ∃ s, segments[i - 1]? = some s ∧ unit <:+ s
  number : ∃ s, segments[i]? = some s ∧ IsNumber s ∧ Text.decimalValue s = n
  /-- Both the line and the shifted one have a number. -/
  fits : n < lineBound ∧ n + shift < lineBound

/-- The segments that stand for `segments` in remapped diagnostics. -/
structure Remapped (unit path : Text) (shift : Nat) (segments results : List Text) : Prop where
  length_eq : results.length = segments.length
  line : ∀ i n, LineAt unit shift segments i n → results[i]? = some (Text.ofNat (n + shift))
  other : ∀ i s, segments[i]? = some s → (∀ n, ¬ LineAt unit shift segments i n) →
    ∃ t, results[i]? = some t ∧ Text.Replaced unit path s t
  /-- Numbers that are not shifted stay as written. -/
  kept : ∀ i s, segments[i]? = some s → IsNumber s →
    (∀ n, ¬ LineAt unit shift segments i n) → results[i]? = some s

variable {unit path : Text} {shift : Nat}

/-- Segments are remapped in one way. -/
theorem Remapped.unique (hunit : unit ≠ []) {segments results others : List Text}
    (h : Remapped unit path shift segments results)
    (h' : Remapped unit path shift segments others) : results = others := by
  apply List.ext_getElem?
  intro i
  by_cases hi : i < segments.length
  · have hs := List.getElem?_eq_getElem hi
    by_cases hline : ∃ n, LineAt unit shift segments i n
    · obtain ⟨n, hline⟩ := hline
      rw [h.line i n hline, h'.line i n hline]
    · rw [not_exists] at hline
      obtain ⟨t, ht, hreplaced⟩ := h.other i _ hs hline
      obtain ⟨t', ht', hreplaced'⟩ := h'.other i _ hs hline
      rw [Text.replaced_iff hunit] at hreplaced hreplaced'
      rw [ht, ht', ← hreplaced, ← hreplaced']
  · rw [Nat.not_lt] at hi
    rw [List.getElem?_eq_none (by rw [h.length_eq]; exact hi),
      List.getElem?_eq_none (by rw [h'.length_eq]; exact hi)]

/-! ### Names that are not numbers -/

/-- The unit's name stands within a segment and is not a number. -/
structure IsName (unit : Text) : Prop where
  colon_not_mem : ':' ∉ unit
  exists_not_isDigit : ∃ c ∈ unit, c.isDigit = false

theorem IsName.ne_nil (h : IsName unit) : unit ≠ [] := by
  obtain ⟨c, hc, -⟩ := h.exists_not_isDigit
  exact List.ne_nil_of_mem hc

/-- The name does not stand in digits. -/
theorem IsName.absent (h : IsName unit) {digits : Text}
    (hdigits : ∀ c ∈ digits, c.isDigit = true) : ¬ unit <:+: digits := by
  intro hin
  obtain ⟨c, hc, hdigit⟩ := h.exists_not_isDigit
  rw [hdigits c (hin.subset hc)] at hdigit
  cases hdigit

theorem IsNumber.colon_not_mem {digits : Text} (h : IsNumber digits) : ':' ∉ digits := by
  intro hcolon
  have := h.2 ':' hcolon
  cases this

theorem isDigit_of_mem_ofNat {c : Char} {n : Nat} (h : c ∈ Text.ofNat n) : c.isDigit = true :=
  Nat.isDigit_of_mem_toDigits (by decide) (by decide) h

theorem IsName.replaceAll_eq (h : IsName unit) {digits : Text}
    (hdigits : ∀ c ∈ digits, c.isDigit = true) (path : Text) :
    Text.replaceAll unit path digits = digits :=
  Text.replaceAll_of_absent (h.absent hdigits)

/-! ### Lines of a segmented text -/

/-- Texts up to their first colons are equal when the whole texts are. -/
theorem eq_of_append_colon_eq {s s' t t' : Text} (hs : ':' ∉ s) (hs' : ':' ∉ s')
    (h : s ++ ':' :: t = s' ++ ':' :: t') : s = s' := by
  have htake := congrArg (List.takeWhile (· != ':')) h
  rwa [Text.takeWhile_ne_append_cons hs, Text.takeWhile_ne_append_cons hs'] at htake

/-- Behind a colon there is no number where the next segment is none. -/
theorem number?_eq_none_of_not_isNumber {d t : Text} (hd : ':' ∉ d) (h : ¬ IsNumber d) :
    number? (':' :: (d ++ ':' :: t)) = none := by
  rw [Option.eq_none_iff_forall_ne_some]
  rintro ⟨digits, rest⟩ hsome
  obtain ⟨ht, hdigits⟩ := number?_eq_some_iff.mp hsome
  simp only [List.cons_append, List.cons.injEq, true_and] at ht
  rw [eq_of_append_colon_eq hd hdigits.colon_not_mem ht] at h
  exact h hdigits

/-- The last segment is no number between colons. -/
theorem number?_eq_none_of_colon_not_mem {d : Text} (hd : ':' ∉ d) :
    number? (':' :: d) = none := by
  rw [Option.eq_none_iff_forall_ne_some]
  rintro ⟨digits, rest⟩ hsome
  obtain ⟨ht, -⟩ := number?_eq_some_iff.mp hsome
  simp only [List.cons_append, List.cons.injEq, true_and] at ht
  exact hd (by rw [ht]; simp)

/-- At the head of a segment and its colon, a number stands behind the name only
when the segment is the name. -/
theorem lineBehind?_append_cons (h : IsName unit) {s : Text} (hs : ':' ∉ s) (t : Text) :
    lineBehind? unit (s ++ ':' :: t) = if s = unit then number? (':' :: t) else none := by
  by_cases heq : s = unit
  · subst heq
    rw [if_pos rfl, lineBehind?, Text.strip?_self_append]
    rfl
  · rw [if_neg heq, Option.eq_none_iff_forall_ne_some]
    rintro ⟨digits, rest⟩ hline
    obtain ⟨ht, -⟩ := lineBehind?_eq_some_iff.mp hline
    rw [List.append_assoc] at ht
    exact heq (eq_of_append_colon_eq hs h.colon_not_mem ht)

/-- Nothing changes in the last segment. -/
theorem shiftLines_of_colon_not_mem {s : Text} (hs : ':' ∉ s) : shiftLines unit shift s = s := by
  induction s with
  | nil => rw [shiftLines]
  | cons c s ih =>
    have hnone : lineBehind? unit (c :: s) = none := by
      rw [Option.eq_none_iff_forall_ne_some]
      rintro ⟨digits, rest⟩ hline
      obtain ⟨hs', -⟩ := lineBehind?_eq_some_iff.mp hline
      exact hs (by rw [hs']; simp)
    rw [shiftLines_cons hnone, ih fun hmem => hs (List.mem_cons_of_mem _ hmem)]

/-- Nothing changes in a segment that does not end in the name or has no number
behind it. -/
theorem shiftLines_append_cons (h : IsName unit) {s t : Text} (hs : ':' ∉ s)
    (hline : unit <:+ s → number? (':' :: t) = none) :
    shiftLines unit shift (s ++ ':' :: t) = s ++ ':' :: shiftLines unit shift t := by
  induction s with
  | nil =>
    have hnone := lineBehind?_append_cons h hs t
    rw [if_neg h.ne_nil.symm] at hnone
    exact shiftLines_cons hnone
  | cons c s ih =>
    have hnone : lineBehind? unit (c :: (s ++ ':' :: t)) = none := by
      rw [← List.cons_append, lineBehind?_append_cons h hs]
      split
      · rename_i heq
        exact hline (heq ▸ List.suffix_refl _)
      · rfl
    rw [List.cons_append, shiftLines_cons hnone,
      ih (fun hmem => hs (List.mem_cons_of_mem _ hmem))
        (fun hend => hline (hend.trans (List.suffix_cons c s)))]
    rfl

/-- The number behind a segment that ends in the name is shifted. -/
theorem shiftLines_append_numbered (h : IsName unit) {s digits : Text} (hs : ':' ∉ s)
    (hend : unit <:+ s) (hdigits : IsNumber digits) (rest : Text) :
    shiftLines unit shift (s ++ ':' :: (digits ++ ':' :: rest)) =
      s ++ ':' :: (renumber shift digits ++ ':' :: shiftLines unit shift rest) := by
  obtain ⟨p, rfl⟩ := hend
  induction p with
  | nil =>
    have hhead : unit ++ ':' :: (digits ++ ':' :: rest) = unit ++ ':' :: digits ++ ':' :: rest := by
      rw [List.append_assoc, List.cons_append]
    rw [List.nil_append, hhead, shiftLines_numbered hdigits]
    simp
  | cons c p ih =>
    have hne : c :: p ++ unit ≠ unit := by
      intro heq
      have := congrArg List.length heq
      simp at this
      omega
    have hnone := lineBehind?_append_cons h hs (digits ++ ':' :: rest)
    rw [if_neg hne] at hnone
    rw [List.cons_append, List.cons_append] at hnone ⊢
    rw [shiftLines_cons hnone, ih fun hmem => hs (List.mem_cons_of_mem _ hmem)]
    rfl

/-! ### Segment by segment -/

/-- The segments behind the segment `before` with the unit's lines shifted. The
last one is no line, as no colon follows it. -/
def shiftBehind (unit : Text) (shift : Nat) (before : Text) : List Text → List Text
  | [] => []
  | [s] => [s]
  | s :: next :: ss =>
    (if unit <:+ before ∧ IsNumber s then renumber shift s else s) ::
      shiftBehind unit shift s (next :: ss)

theorem length_shiftBehind (before : Text) (ss : List Text) :
    (shiftBehind unit shift before ss).length = ss.length := by
  fun_induction shiftBehind unit shift before ss with
  | case1 | case2 => rfl
  | case3 before s next ss ih => rw [List.length_cons, ih]; rfl

theorem getElem?_shiftBehind {before b s : Text} {ss : List Text} {i : Nat}
    (hb : (before :: ss)[i]? = some b) (hs : ss[i]? = some s) :
    (shiftBehind unit shift before ss)[i]? =
      some (if i + 1 < ss.length ∧ unit <:+ b ∧ IsNumber s then renumber shift s else s) := by
  fun_induction shiftBehind unit shift before ss generalizing i with
  | case1 => cases hs
  | case2 before s' =>
    cases i with
    | zero =>
      rw [if_neg (by simp)]
      exact hs
    | succ i => cases hs
  | case3 before s' next ss ih =>
    cases i with
    | zero =>
      cases hb
      cases hs
      simp
    | succ i =>
      have := ih hb hs
      simpa using this

/-- Lines are shifted segment by segment. -/
theorem shiftLines_intercalate (h : IsName unit) {s : Text} {ss : List Text}
    (hcolon : ∀ t ∈ s :: ss, ':' ∉ t) :
    shiftLines unit shift ([':'].intercalate (s :: ss)) =
      [':'].intercalate (s :: shiftBehind unit shift s ss) := by
  have hs := hcolon s List.mem_cons_self
  fun_induction shiftBehind unit shift s ss with
  | case1 s =>
    rw [List.intercalate_singleton]
    exact shiftLines_of_colon_not_mem hs
  | case2 s d =>
    have hd := hcolon d (by simp)
    rw [Text.intercalate_singleton_cons (List.cons_ne_nil _ _), List.intercalate_singleton,
      shiftLines_append_cons h hs fun _ => number?_eq_none_of_colon_not_mem hd,
      shiftLines_of_colon_not_mem hd]
  | case3 s d next ss ih =>
    have hd := hcolon d (by simp)
    have hbehind : shiftBehind unit shift d (next :: ss) ≠ [] := by
      rw [← List.length_pos_iff, length_shiftBehind]
      simp
    have hrest := ih (fun t ht => hcolon t (List.mem_cons_of_mem _ ht)) hd
    rw [Text.intercalate_singleton_cons (List.cons_ne_nil _ _),
      Text.intercalate_singleton_cons hbehind] at hrest
    rw [Text.intercalate_singleton_cons (List.cons_ne_nil _ _),
      Text.intercalate_singleton_cons (List.cons_ne_nil _ _),
      Text.intercalate_singleton_cons (List.cons_ne_nil _ _),
      Text.intercalate_singleton_cons hbehind]
    by_cases hline : unit <:+ s ∧ IsNumber d
    · obtain ⟨hend, hnumber⟩ := hline
      -- The number itself does not end in the name, so the rest is shifted apart from it.
      have hapart : ¬ unit <:+ d := fun hends => h.absent hnumber.2 hends.isInfix
      rw [shiftLines_append_cons h hd fun hends => absurd hends hapart] at hrest
      have htail := List.append_cancel_left hrest
      simp only [List.cons.injEq, true_and] at htail
      rw [if_pos ⟨hend, hnumber⟩, shiftLines_append_numbered h hs hend hnumber, htail]
    · rw [if_neg hline, shiftLines_append_cons h hs, hrest]
      intro hend
      exact number?_eq_none_of_not_isNumber hd fun hnumber => hline ⟨hend, hnumber⟩

/-! ### Lines by their index -/

section

variable {before : Text} {ss : List Text} {i : Nat}

theorem lineAt_succ_iff {b s : Text} {n : Nat} (hb : (before :: ss)[i]? = some b)
    (hs : ss[i]? = some s) :
    LineAt unit shift (before :: ss) (i + 1) n ↔
      (i + 1 < ss.length ∧ unit <:+ b ∧ IsNumber s) ∧ Text.decimalValue s = n ∧
        n < lineBound ∧ n + shift < lineBound := by
  constructor
  · intro h
    obtain ⟨b', hb', hend⟩ := h.behind
    obtain ⟨s', hs', hnumber, hn⟩ := h.number
    rw [Nat.add_sub_cancel, hb] at hb'
    rw [List.getElem?_cons_succ, hs] at hs'
    cases hb'
    cases hs'
    exact ⟨⟨by simpa using h.inner.2, hend, hnumber⟩, hn, h.fits⟩
  · rintro ⟨⟨hlt, hend, hnumber⟩, hn, hfits⟩
    exact ⟨⟨Nat.succ_pos i, by simpa using hlt⟩, ⟨b, hb, hend⟩, ⟨s, hs, hnumber, hn⟩, hfits⟩

theorem exists_before (before : Text) {s : Text} (hs : ss[i]? = some s) :
    ∃ b, (before :: ss)[i]? = some b := by
  obtain ⟨hi, -⟩ := List.getElem?_eq_some_iff.mp hs
  exact ⟨_, List.getElem?_eq_getElem (Nat.lt_succ_of_lt hi)⟩

theorem getElem?_shiftBehind_of_lineAt {n : Nat}
    (h : LineAt unit shift (before :: ss) (i + 1) n) :
    (shiftBehind unit shift before ss)[i]? = some (Text.ofNat (n + shift)) := by
  obtain ⟨s, hs, -⟩ := h.number
  rw [List.getElem?_cons_succ] at hs
  obtain ⟨b, hb⟩ := exists_before before hs
  obtain ⟨hline, rfl, hfits⟩ := (lineAt_succ_iff hb hs).mp h
  rw [getElem?_shiftBehind hb hs, if_pos hline, renumber, shifted?, if_pos hfits]
  rfl

theorem getElem?_shiftBehind_of_not_lineAt {s : Text} (hs : ss[i]? = some s)
    (h : ∀ n, ¬ LineAt unit shift (before :: ss) (i + 1) n) :
    (shiftBehind unit shift before ss)[i]? = some s := by
  obtain ⟨b, hb⟩ := exists_before before hs
  rw [getElem?_shiftBehind hb hs]
  split
  · rename_i hline
    have hfits : ¬ (Text.decimalValue s < lineBound ∧ Text.decimalValue s + shift < lineBound) :=
      fun hfits => h _ ((lineAt_succ_iff hb hs).mpr ⟨hline, rfl, hfits⟩)
    rw [renumber, shifted?, if_neg hfits]
    rfl
  · rfl

/-- Shifting the lines and writing the path for the name remaps each segment. -/
theorem remapped_shiftBehind (h : IsName unit) (path before : Text) (ss : List Text) :
    Remapped unit path shift (before :: ss)
      ((before :: shiftBehind unit shift before ss).map (Text.replaceAll unit path)) := by
  have hother : ∀ i s, (before :: ss)[i]? = some s →
      (∀ n, ¬ LineAt unit shift (before :: ss) i n) →
      ((before :: shiftBehind unit shift before ss).map (Text.replaceAll unit path))[i]? =
        some (Text.replaceAll unit path s) := by
    intro i s hs hline
    rw [List.getElem?_map]
    cases i with
    | zero =>
      cases hs
      rfl
    | succ i =>
      rw [List.getElem?_cons_succ] at hs ⊢
      rw [getElem?_shiftBehind_of_not_lineAt hs hline]
      rfl
  constructor
  · rw [List.length_map, List.length_cons, length_shiftBehind]
    rfl
  · intro i n hline
    cases i with
    | zero => exact absurd hline.inner.1 (Nat.lt_irrefl 0)
    | succ i =>
      rw [List.getElem?_map, List.getElem?_cons_succ, getElem?_shiftBehind_of_lineAt hline,
        Option.map_some, h.replaceAll_eq fun c hc => isDigit_of_mem_ofNat hc]
  · intro i s hs hline
    exact ⟨_, hother i s hs hline, Text.replaced_replaceAll h.ne_nil path s⟩
  · intro i s hs hnumber hline
    rw [hother i s hs hline, h.replaceAll_eq hnumber.2]

end

/-! ### Diagnostics -/

/-- No segment contains a separator. -/
theorem not_mem_of_mem_splitOn {sep : Char} {t s : Text} (h : s ∈ t.splitOn sep) : sep ∉ s := by
  induction t generalizing s with
  | nil =>
    rw [List.splitOn_nil, List.mem_singleton] at h
    rw [h]
    exact List.not_mem_nil
  | cons c t ih =>
    obtain ⟨first, rest, hsplit⟩ := List.exists_cons_of_ne_nil (List.splitOn_ne_nil sep t)
    rw [List.splitOn_cons_eq_if_modifyHead, hsplit, List.modifyHead_cons] at h
    rw [hsplit] at ih
    by_cases hc : c = sep
    · rw [if_pos (by simpa using hc), List.mem_cons] at h
      rcases h with rfl | h
      · exact List.not_mem_nil
      · exact ih h
    · rw [if_neg (by simpa using hc), List.mem_cons] at h
      rcases h with rfl | h
      · rw [List.mem_cons, not_or]
        exact ⟨Ne.symm hc, ih List.mem_cons_self⟩
      · exact ih (List.mem_cons_of_mem _ h)

/-- Remapping is done segment by segment: between colons behind the unit's name
each line is shifted once, by the line breaks among the bytes before the body,
and nothing else changes but the name, also where its occurrences overlap or
the path contains it, and where a shifted number would be too large. -/
theorem ofBody_segments {unit : Text} (hunit : IsName unit)
    (diagnostics source path : Text) (bodyStart : Nat) :
    ∃ results : List Text,
      (∀ others, Remapped unit path ((source.bytes.take bodyStart).count 0x0A)
        (diagnostics.splitOn ':') others ↔ others = results) ∧
      ofBody diagnostics source path unit bodyStart = [':'].intercalate results := by
  obtain ⟨s, ss, hsplit⟩ := List.exists_cons_of_ne_nil (List.splitOn_ne_nil ':' diagnostics)
  have hcolon : ∀ t ∈ s :: ss, ':' ∉ t := by
    intro t ht
    rw [← hsplit] at ht
    exact not_mem_of_mem_splitOn ht
  have hjoin : [':'].intercalate (s :: ss) = diagnostics := by
    rw [← hsplit, List.intercalate_splitOn]
  rw [hsplit]
  have hremapped : Remapped unit path ((source.bytes.take bodyStart).count 0x0A) (s :: ss) _ :=
    remapped_shiftBehind hunit path s ss
  refine ⟨_, fun others => ⟨fun h => h.unique hunit.ne_nil hremapped, ?_⟩, ?_⟩
  · rintro rfl
    exact hremapped
  · rw [ofBody_eq hunit.ne_nil, ← Text.replaceAll_intercalate hunit.colon_not_mem hunit.ne_nil,
      ← shiftLines_intercalate hunit hcolon, hjoin]

/-- The name `u1u` overlaps itself here. The second number behind it is too
large, and the last one is not behind it. -/
def overlapping : Text :=
  "u1u1u:3:u1u:18446744073709551615:7:".toList

theorem ofBody_segments_sample :
    IsName "u1u".toList ∧
      Remapped "u1u".toList "a/u1u".toList 1 (overlapping.splitOn ':')
        ["a/u1u1u".toList, ['4'], "a/u1u".toList, "18446744073709551615".toList, ['7'], []] ∧
      ofBody overlapping "é\n\n".toList "a/u1u".toList "u1u".toList 3 =
        "a/u1u1u:4:a/u1u:18446744073709551615:7:".toList := by
  have hname : IsName "u1u".toList := ⟨by decide, 'u', by decide, by decide⟩
  have hlines : ((Text.bytes "é\n\n".toList).take 3).count 0x0A = 1 := by decide
  have hsplit : overlapping.splitOn ':' =
      ["u1u1u".toList, ['3'], "u1u".toList, "18446744073709551615".toList, ['7'], []] := by decide
  have hshift : shiftBehind "u1u".toList 1 "u1u1u".toList
      [['3'], "u1u".toList, "18446744073709551615".toList, ['7'], []] =
        [['4'], "u1u".toList, "18446744073709551615".toList, ['7'], []] := by decide
  have hnames : ["u1u1u".toList, ['4'], "u1u".toList, "18446744073709551615".toList, ['7'],
      []].map (Text.replaceAll "u1u".toList "a/u1u".toList) =
        ["a/u1u1u".toList, ['4'], "a/u1u".toList, "18446744073709551615".toList, ['7'], []] := by
    cbv
  have hremapped : Remapped "u1u".toList "a/u1u".toList 1 (overlapping.splitOn ':')
      ["a/u1u1u".toList, ['4'], "a/u1u".toList, "18446744073709551615".toList, ['7'], []] := by
    rw [hsplit, ← hnames, ← hshift]
    exact remapped_shiftBehind hname _ _ _
  obtain ⟨results, hunique, htext⟩ :=
    ofBody_segments hname overlapping "é\n\n".toList "a/u1u".toList 3
  rw [hlines] at hunique
  refine ⟨hname, hremapped, ?_⟩
  rw [htext, ← (hunique _).mp hremapped]
  rfl

end WatInlay.Diagnostics
