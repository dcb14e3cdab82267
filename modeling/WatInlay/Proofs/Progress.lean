/-
The search through diagnostics goes forward.

The search writes into the text that it searches, so its offset counts what it
has written and not what it has read. What is left to search is at every turn an
end of the diagnostics as they came, shorter than at the turn before
(`Scan.Run.pairwise_rest`); so the search ends, and it never reads what it wrote.
By their places in the diagnostics, its changes lie apart, each shifts one number
between two colons, and together they make the text at the end
(`Scan.Run.renumbers`).
-/

import WatInlay.Proofs.LineShift
import WatInlay.Proofs.Scan

namespace WatInlay

/-- The same edit of a text with `n` bytes more in front. -/
def Edit.moved (n : Nat) (e : Edit) : Edit where
  start := e.start + n
  stop := e.stop + n
  text := e.text

namespace Diagnostics

/-! ### One step -/

/-- The edit shifts a number of `t` that stands between two colons, behind the
unit's name. -/
def ShiftsNumber (unit : Text) (shift : Nat) (t : Text) (e : Edit) : Prop :=
  ∃ before digits after, t = before ++ ':' :: digits ++ ':' :: after ∧ unit <:+ before ∧
    IsNumber digits ∧ e.start = Text.size (before ++ [':']) ∧
    e.stop = Text.size (before ++ ':' :: digits) ∧
    e.text = Text.ofNat (Text.decimalValue digits + shift)

/-- A step of the search goes over `old`, for which it writes `new`. Its edit, if
it makes one, is counted from where the step starts. -/
inductive Passes (unit : Text) (shift : Nat) : Text → Text → Option Edit → Prop where
  | kept {old : Text} : old ≠ [] → Passes unit shift old old none
  | shifted {before digits line : Text} :
      unit <:+ before → IsNumber digits → shifted? shift digits = some line →
      Passes unit shift (before ++ ':' :: digits ++ [':']) (before ++ ':' :: line ++ [':'])
        (some ⟨Text.size (before ++ [':']), Text.size (before ++ ':' :: digits), line⟩)

variable {unit : Text} {shift : Nat}

theorem Passes.ne_nil {old new : Text} {e : Option Edit} (h : Passes unit shift old new e) :
    old ≠ [] := by
  cases h with
  | kept hold => exact hold
  | shifted => simp

theorem line_of_shifted? {digits line : Text} (h : shifted? shift digits = some line) :
    line = Text.ofNat (Text.decimalValue digits + shift) := by
  unfold shifted? at h
  dsimp only at h
  split at h
  · exact (Option.some.inj h).symm
  · cases h

namespace Scan

/-- What is left to search. -/
def rest (s : Scan) : Text :=
  s.text.after s.pos

theorem rest_append (p t : Text) : (Scan.mk (p ++ t) (Text.size p)).rest = t :=
  Text.after_eq rfl

/-- The edit of a step, in what is left to search. -/
theorem edit?_append (hunit : unit ≠ []) (p t : Text) :
    edit? unit shift ⟨p ++ t, Text.size p⟩ = do
      let (q, r) ← Text.breakAt? unit t
      let (digits, _) ← number? r
      let line ← shifted? shift digits
      return Edit.moved (Text.size p)
        ⟨Text.size (q ++ unit ++ [':']), Text.size (q ++ unit ++ ':' :: digits), line⟩ := by
  have hcolon : Char.utf8Size ':' = 1 := by decide
  rw [edit?, if_neg hunit]
  simp only [Text.after_eq rfl, Text.find?_eq_map_breakAt?]
  cases hbreak : Text.breakAt? unit t with
  | none => rfl
  | some found =>
    obtain ⟨q, r⟩ := found
    obtain ⟨rfl, -⟩ := Text.breakAt?_eq_some_iff.mp hbreak
    have hplace : Text.size p + Text.size q + Text.size unit = Text.size (p ++ (q ++ unit)) := by
      simp [Nat.add_assoc]
    simp only [Option.map_some, Option.bind_eq_bind, Option.bind_some, hplace]
    rw [← List.append_assoc p, numberAt?_append]
    cases number? r with
    | none => rfl
    | some found =>
      obtain ⟨digits, after⟩ := found
      simp only [Option.map_some, Option.bind_some]
      cases shifted? shift digits with
      | none => rfl
      | some line =>
        simp only [Option.bind_some, Edit.moved, Text.size_append, Text.size_cons, Text.size_nil,
          hcolon, Option.pure_def, Option.some.injEq, Edit.mk.injEq, and_true]
        omega

/-- Everything that a step can do. -/
theorem exists_passes (hunit : unit ≠ []) {p t : Text} {s' : Scan}
    (h : next? unit shift ⟨p ++ t, Text.size p⟩ = some s') :
    ∃ old new rest e, t = old ++ rest ∧ s' = ⟨p ++ new ++ rest, Text.size (p ++ new)⟩ ∧
      Passes unit shift old new e ∧
      edit? unit shift ⟨p ++ t, Text.size p⟩ = e.map (Edit.moved (Text.size p)) := by
  rw [next?_append hunit, Option.map_eq_some_iff] at h
  obtain ⟨⟨new, rest⟩, hstep, rfl⟩ := h
  rw [edit?_append hunit]
  simp only [step?, Option.bind_eq_bind, Option.bind_eq_some_iff, Prod.exists] at hstep
  obtain ⟨q, r, hbreak, hstep⟩ := hstep
  obtain ⟨rfl, -⟩ := Text.breakAt?_eq_some_iff.mp hbreak
  simp only [hbreak, Option.bind_eq_bind, Option.bind_some]
  cases hnumber : number? r with
  | none =>
    rw [hnumber] at hstep
    cases hstep
    have hone : unit.take 1 ≠ [] := by simpa using hunit
    refine ⟨_, _, _, none, ?_, rfl, .kept (List.append_ne_nil_of_right_ne_nil q hone), rfl⟩
    rw [List.append_assoc, List.append_assoc, ← List.append_assoc (unit.take 1),
      List.take_append_drop]
  | some found =>
    obtain ⟨digits, after⟩ := found
    rw [hnumber] at hstep
    cases hstep
    obtain ⟨rfl, hdigits⟩ := number?_eq_some_iff.mp hnumber
    simp only [Option.bind_some]
    have hread : q ++ unit ++ (':' :: digits ++ ':' :: rest) =
        (q ++ unit ++ ':' :: digits ++ [':']) ++ rest := by simp
    cases hline : shifted? shift digits with
    | none =>
      have hsame : renumber shift digits = digits := by rw [renumber, hline]; rfl
      rw [hsame]
      exact ⟨_, _, _, none, hread, rfl, .kept (by simp), rfl⟩
    | some line =>
      have hnew : renumber shift digits = line := by rw [renumber, hline]; rfl
      rw [hnew]
      exact ⟨_, _, _, _, hread, rfl, .shifted (List.suffix_append q unit) hdigits hline, rfl⟩

/-! ### The whole search -/

/-- The search from a scan on: the scans from which it makes a step, in order,
and the one in which no occurrence of the name is left. -/
inductive Run (unit : Text) (shift : Nat) : Scan → List Scan → Scan → Prop where
  | done {s : Scan} : s.next? unit shift = none → Run unit shift s [] s
  | step {s s' last : Scan} {scans : List Scan} : s.next? unit shift = some s' →
      Run unit shift s' scans last → Run unit shift s (s :: scans) last

variable {s s' last : Scan} {scans : List Scan}

theorem exists_run (unit : Text) (shift : Nat) (s : Scan) :
    ∃ scans last, Run unit shift s scans last := by
  fun_induction finish unit shift s with
  | case1 s hnone => exact ⟨[], s, .done hnone⟩
  | case2 s s' hnext ih =>
    obtain ⟨scans, last, hrun⟩ := ih
    exact ⟨s :: scans, last, .step hnext hrun⟩

theorem Run.text_eq (h : Run unit shift s scans last) : last.text = s.finish unit shift := by
  induction h with
  | done hnone =>
    rw [finish]
    split
    · rfl
    · rename_i hnext
      rw [hnone] at hnext
      cases hnext
  | step hnext _ ih =>
    rw [finish]
    split
    · rename_i hnone
      rw [hnone] at hnext
      cases hnext
    · rename_i hnext'
      rw [hnext] at hnext'
      cases hnext'
      exact ih

/-! ### What is left to search -/

/-- The scan stands on a character boundary, before an end of the diagnostics as
they came. -/
structure InPlace (diagnostics : Text) (s : Scan) : Prop where
  boundary : s.text.IsBoundary s.pos
  inside : s.pos ≤ s.text.size
  suffix : s.rest <:+ diagnostics

theorem inPlace_append {diagnostics t : Text} (h : t <:+ diagnostics) (p : Text) :
    InPlace diagnostics ⟨p ++ t, Text.size p⟩ where
  boundary := Text.isBoundary_iff.mpr ⟨p, t, rfl, rfl⟩
  inside := by simp
  suffix := by rwa [rest_append]

/-- `s'` has less to search than `s`, an end of it. -/
def Before (s s' : Scan) : Prop :=
  s'.rest <:+ s.rest ∧ s'.rest.size < s.rest.size

/-- Each turn of the search from a character boundary has an end of the
diagnostics before it, and each one a shorter end than all before. -/
theorem Run.pairwise_rest (hunit : unit ≠ []) {diagnostics : Text}
    (h : Run unit shift s scans last) (hs : s.InPlace diagnostics) :
    (∀ v ∈ scans ++ [last], v.InPlace diagnostics ∧ v.rest <:+ s.rest) ∧
      (scans ++ [last]).Pairwise Before ∧ scans.length + last.rest.size ≤ s.rest.size := by
  induction h with
  | done => exact ⟨by simpa using hs, by simp, by simp⟩
  | @step s s' last scans hnext _ ih =>
    obtain ⟨text, pos⟩ := s
    obtain ⟨p, t, rfl, rfl⟩ := Text.isBoundary_iff.mp hs.boundary
    obtain ⟨old, new, rest, e, rfl, rfl, hpasses, -⟩ := exists_passes hunit hnext
    have hsuffix := hs.suffix
    rw [rest_append] at hsuffix
    have hrest : rest <:+ old ++ rest := List.suffix_append old rest
    obtain ⟨hall, hpairwise, hlength⟩ := ih (inPlace_append (hrest.trans hsuffix) _)
    rw [rest_append] at hall hlength
    have hold : 0 < Text.size old :=
      Nat.pos_of_ne_zero fun hzero => hpasses.ne_nil (Text.size_eq_zero_iff.mp hzero)
    have hless : ∀ v ∈ scans ++ [last], Before ⟨p ++ (old ++ rest), Text.size p⟩ v := by
      intro v hv
      obtain ⟨u, hu⟩ := (hall v hv).2
      rw [Before, rest_append, ← hu]
      refine ⟨⟨old ++ u, List.append_assoc _ _ _⟩, ?_⟩
      simp only [Text.size_append]
      omega
    rw [List.cons_append, List.length_cons, rest_append]
    refine ⟨?_, List.pairwise_cons.mpr ⟨hless, hpairwise⟩, ?_⟩
    · intro v hv
      rcases List.mem_cons.mp hv with rfl | hv
      · rw [rest_append]
        exact ⟨hs, List.suffix_refl _⟩
      · exact ⟨(hall v hv).1, (hall v hv).2.trans hrest⟩
    · rw [Text.size_append]
      omega

/-! ### All changes -/

/-- The edit of the step from `s`, by its place in the diagnostics, of which
`s.rest` is an end. -/
def editIn? (unit : Text) (shift : Nat) (diagnostics : Text) (s : Scan) : Option Edit :=
  (s.edit? unit shift).map fun e =>
    { start := e.start - s.pos + (diagnostics.size - s.rest.size)
      stop := e.stop - s.pos + (diagnostics.size - s.rest.size)
      text := e.text }

theorem editIn?_append {p t : Text} {e : Option Edit} (read : Text)
    (h : edit? unit shift ⟨p ++ t, Text.size p⟩ = e.map (Edit.moved (Text.size p))) :
    editIn? unit shift (read ++ t) ⟨p ++ t, Text.size p⟩ = e.map (Edit.moved (Text.size read)) := by
  rw [editIn?, h, rest_append]
  cases e <;> simp [Edit.moved]

end Scan

/-- The edits lie apart, in order, and each shifts one number of the diagnostics
between two colons. Together they make the text. -/
structure Renumbers (unit : Text) (shift : Nat) (diagnostics : Text) (edits : List Edit)
    (text : Text) : Prop where
  number : ∀ e ∈ edits, ShiftsNumber unit shift diagnostics e
  apart : edits.Pairwise fun e e' => e.stop < e'.start
  /-- From the last edit to the first, so that no place moves before it is used. -/
  result : edits.foldr Edit.result diagnostics = text

/-- A step that shifts a number does so in the diagnostics as well. -/
theorem Passes.shiftsNumber {old new : Text} {e : Edit} (h : Passes unit shift old new (some e))
    (read rest : Text) :
    ShiftsNumber unit shift (read ++ old ++ rest) (e.moved (Text.size read)) ∧
      Text.size read ≤ (e.moved (Text.size read)).start ∧
      (e.moved (Text.size read)).stop < Text.size (read ++ old) ∧
      (e.moved (Text.size read)).result (read ++ old ++ rest) = read ++ new ++ rest := by
  have hcolon : Char.utf8Size ':' = 1 := by decide
  cases h with
  | @shifted before digits line hunit hdigits hline =>
    refine ⟨⟨read ++ before, digits, rest, by simp, ?_, hdigits, ?_, ?_, line_of_shifted? hline⟩,
      Nat.le_add_left _ _, ?_, ?_⟩
    · exact hunit.trans (List.suffix_append read before)
    · simp [Edit.moved]
      omega
    · simp [Edit.moved]
      omega
    · simp [Edit.moved, hcolon]
      omega
    · have hplace : Edit.moved (Text.size read)
          ⟨Text.size (before ++ [':']), Text.size (before ++ ':' :: digits), line⟩ =
          ⟨Text.size (read ++ before ++ [':']), Text.size (read ++ before ++ [':'] ++ digits),
            line⟩ := by
        simp [Edit.moved]
        omega
      have hresult := Edit.result_append (read ++ before ++ [':']) digits (':' :: rest) line
      rw [hplace]
      simpa using hresult

/-- Before the edits behind a step comes the edit of the step. -/
theorem Renumbers.cons {read old new rest x : Text} {e : Edit} {edits : List Edit}
    (h : Renumbers unit shift (read ++ old ++ rest) edits (read ++ old ++ x))
    (hpasses : Passes unit shift old new (some e))
    (hbehind : ∀ e' ∈ edits, Text.size (read ++ old) ≤ e'.start) :
    Renumbers unit shift (read ++ old ++ rest) (e.moved (Text.size read) :: edits)
      (read ++ new ++ x) := by
  obtain ⟨hnumber, -, hstop, -⟩ := hpasses.shiftsNumber read rest
  obtain ⟨-, -, -, hresult⟩ := hpasses.shiftsNumber read x
  constructor
  · exact List.forall_mem_cons.mpr ⟨hnumber, h.number⟩
  · refine List.pairwise_cons.mpr ⟨?_, h.apart⟩
    intro e' he'
    exact Nat.lt_of_lt_of_le hstop (hbehind e' he')
  · rw [List.foldr_cons, h.result, hresult]

/-- The edits of the whole search, by their places in the diagnostics, make its
text. The induction is on the search: `read` is what it has read of the
diagnostics, `p` what it has written for that, and `t` is before it. -/
theorem Scan.Run.renumbers (hunit : unit ≠ []) {s last : Scan} {scans : List Scan}
    (h : Scan.Run unit shift s scans last) {p t : Text} (hs : s = ⟨p ++ t, Text.size p⟩)
    (read : Text) :
    ∃ x, last.text = p ++ x ∧
      Renumbers unit shift (read ++ t)
        (scans.filterMap (Scan.editIn? unit shift (read ++ t))) (read ++ x) ∧
      ∀ e ∈ scans.filterMap (Scan.editIn? unit shift (read ++ t)), Text.size read ≤ e.start := by
  induction h generalizing p t read with
  | done =>
    subst hs
    exact ⟨t, rfl, ⟨by simp, .nil, rfl⟩, by simp⟩
  | @step s s' last scans hnext _ ih =>
    subst hs
    obtain ⟨old, new, rest, e, rfl, rfl, hpasses, hedit⟩ := Scan.exists_passes hunit hnext
    obtain ⟨x, htext, hrenumbers, hstart⟩ := ih rfl (read ++ old)
    have hhere := Scan.editIn?_append read hedit
    rw [List.append_assoc] at htext
    rw [← List.append_assoc read] at hhere ⊢
    have hbehind : ∀ e' ∈ scans.filterMap (Scan.editIn? unit shift (read ++ old ++ rest)),
        Text.size read ≤ e'.start := by
      intro e' he'
      have := hstart e' he'
      rw [Text.size_append] at this
      omega
    refine ⟨new ++ x, htext, ?_⟩
    cases e with
    | none =>
      have hsame : new = old := by
        cases hpasses
        rfl
      rw [List.filterMap_cons_none hhere, hsame, ← List.append_assoc]
      exact ⟨hrenumbers, hbehind⟩
    | some e =>
      have hhead := (hpasses.shiftsNumber read rest).2.1
      rw [List.filterMap_cons_some hhere, ← List.append_assoc]
      exact ⟨hrenumbers.cons hpasses hstart, List.forall_mem_cons.mpr ⟨hhead, hbehind⟩⟩

/-- The search through diagnostics ends after at most as many turns as they have
bytes. At every turn its offset is a character boundary of the text that it
rewrites, behind which an end of the diagnostics stands as it came, shorter than
at all turns before. By their places in the diagnostics its edits lie apart, each
shifts one number between two colons, and together they make the text in which
then the path is written for the name. -/
theorem remap_progress {unit : Text} (hunit : unit ≠ []) (diagnostics path : Text) (shift : Nat) :
    ∃ scans last, Scan.Run unit shift ⟨diagnostics, 0⟩ scans last ∧
      (∀ s ∈ scans ++ [last], s.InPlace diagnostics) ∧
      (scans ++ [last]).Pairwise Scan.Before ∧
      scans.length ≤ diagnostics.size ∧
      Renumbers unit shift diagnostics
        (scans.filterMap (Scan.editIn? unit shift diagnostics)) last.text ∧
      remap diagnostics shift path unit = Text.replaceAll unit path last.text := by
  obtain ⟨scans, last, hrun⟩ := Scan.exists_run unit shift ⟨diagnostics, 0⟩
  have hstart : Scan.InPlace diagnostics ⟨diagnostics, 0⟩ :=
    Scan.inPlace_append (List.suffix_refl diagnostics) []
  obtain ⟨hall, hpairwise, hlength⟩ := hrun.pairwise_rest hunit hstart
  have hrest : (Scan.mk diagnostics 0).rest = diagnostics := Scan.rest_append [] diagnostics
  obtain ⟨x, htext, hrenumbers, -⟩ := hrun.renumbers hunit (p := []) (t := diagnostics) rfl []
  rw [List.nil_append] at htext hrenumbers
  rw [List.nil_append, ← htext] at hrenumbers
  rw [hrest] at hlength
  refine ⟨scans, last, hrun, fun s hs => (hall s hs).1, hpairwise, by omega, hrenumbers, ?_⟩
  rw [remap, if_neg (by simpa using hunit), hrun.text_eq]

/-- The name is a digit, and a shifted number begins with it. -/
theorem remap_progress_sample :
    "1".toList ≠ [] ∧ ∃ scans last, Scan.Run "1".toList 9 ⟨"1:1:1:1:".toList, 0⟩ scans last ∧
      scans.length ≤ 8 ∧ last.text = "1:10:1:10:".toList ∧
      remap "1:1:1:1:".toList 9 "é".toList "1".toList = "é:é0:é:é0:".toList := by
  have hunit : "1".toList ≠ [] := by decide
  obtain ⟨scans, last, hrun, -, -, hlength, -, hremap⟩ :=
    remap_progress hunit "1:1:1:1:".toList "é".toList 9
  have hone : IsNumber ['1'] := ⟨by decide, List.forall_mem_singleton.mpr rfl⟩
  have hstep (rest : Text) : shiftLines "1".toList 9 ("1:1:".toList ++ rest) =
      "1:10:".toList ++ shiftLines "1".toList 9 rest :=
    shiftLines_numbered hone rest
  have htext : last.text = "1:10:1:10:".toList := by
    calc last.text
        = shiftLines "1".toList 9 ("1:1:".toList ++ ("1:1:".toList ++ [])) := by
          rw [hrun.text_eq, finish_zero hunit]
          rfl
      _ = "1:10:1:10:".toList := by
          rw [hstep, hstep, shiftLines]
          rfl
  refine ⟨hunit, scans, last, hrun, hlength, htext, ?_⟩
  rw [hremap, htext]
  cbv

end Diagnostics

end WatInlay
