/-
Lines and columns of a body.

A compiler is given a block's body as a file of its own and counts lines from
there. In the source these are the lines below the opening mark, so that line
`k` of the body is found as many lines further down as there are line breaks
before the body, and that number is also the line of the block
(`lineBreaksBefore_bodyStart`). `LiesBelow` says that the lines so numbered are
the same, up to the closing mark on the body's last one, and hence the same byte
by byte: a message is moved to the text that it was about (`find?_sameLines`).
-/

import WatInlay.Pass
import WatInlay.Proofs.Search
import WatInlay.Proofs.Segments

namespace WatInlay

/-! ### Lines of a text -/

namespace Text

/-- What stands between the line breaks of a text. -/
def lines (t : Text) : List Text :=
  t.splitOn '\n'

/-- Line `k`, counted from one. -/
def line? (t : Text) : Nat → Option Text
  | 0 => none
  | k + 1 => t.lines[k]?

/-- The byte in a column of line `k`, both counted from one. -/
def byteAt? (t : Text) (k : Nat) : Nat → Option UInt8
  | 0 => none
  | column + 1 => (t.line? k).bind fun line => line.bytes[column]?

theorem lines_nil : lines [] = [[]] := rfl

theorem lines_cons (c : Char) (t : Text) :
    lines (c :: t) = if c = '\n' then [] :: lines t else (lines t).modifyHead (c :: ·) := by
  simp [lines, List.splitOn_cons_eq_if_modifyHead]

theorem lines_append_break (p r : Text) : lines (p ++ '\n' :: r) = lines p ++ lines r := by
  simp only [lines, List.splitOn_eq_splitOnP]
  exact List.splitOnP_append_cons p r (by decide)

theorem length_lines (t : Text) : t.lines.length = t.lineBreaks + 1 := by
  induction t with
  | nil => rfl
  | cons c t ih =>
    rw [lines_cons, lineBreaks, List.count_cons]
    by_cases hc : c = '\n'
    · rw [if_pos hc, List.length_cons, ih, hc]
      rfl
    · rw [if_neg hc, List.length_modifyHead, ih, if_neg (by simpa using hc)]
      rfl

/-- Two texts put together share a line: the last one of the first text goes on
with the first one of the second. -/
theorem exists_lines_append (p r : Text) :
    ∃ init last first rest, lines p = init ++ [last] ∧ lines r = first :: rest ∧
      lines (p ++ r) = init ++ (last ++ first) :: rest := by
  induction p with
  | nil =>
    obtain ⟨first, rest, hr⟩ := List.exists_cons_of_ne_nil (List.splitOn_ne_nil '\n' r)
    exact ⟨[], [], first, rest, lines_nil, hr, hr⟩
  | cons c p ih =>
    obtain ⟨init, last, first, rest, hp, hr, hpr⟩ := ih
    rw [List.cons_append, lines_cons, lines_cons, hp, hpr]
    by_cases hc : c = '\n'
    · exact ⟨[] :: init, last, first, rest, by rw [if_pos hc, List.cons_append], hr,
        by rw [if_pos hc, List.cons_append]⟩
    · rw [if_neg hc, if_neg hc]
      cases init with
      | nil => exact ⟨[], c :: last, first, rest, rfl, hr, rfl⟩
      | cons line init => exact ⟨(c :: line) :: init, last, first, rest, rfl, hr, rfl⟩

theorem exists_line? {t : Text} {k : Nat} (hpos : 1 ≤ k) (hle : k ≤ t.lines.length) :
    ∃ line, t.line? k = some line := by
  obtain ⟨k, rfl⟩ := Nat.exists_eq_add_of_le' hpos
  exact ⟨_, List.getElem?_eq_getElem hle⟩

/-- Behind a line break the lines of the second part are counted on. -/
theorem line?_append_break (p r : Text) {k : Nat} (hpos : 1 ≤ k) :
    line? (p ++ '\n' :: r) (lineBreaks p + 1 + k) = line? r k := by
  obtain ⟨k, rfl⟩ := Nat.exists_eq_add_of_le' hpos
  have hlines : lineBreaks p + 1 + k = (lines p).length + k := by rw [length_lines]
  rw [← Nat.add_assoc, line?, line?, lines_append_break, hlines,
    List.getElem?_append_right (Nat.le_add_right _ _), Nat.add_sub_cancel_left]

/-- What follows a text has no part in its lines but the last. -/
theorem line?_append_of_lt (p r : Text) {k : Nat} (hlt : k < p.lines.length) :
    line? (p ++ r) k = line? p k := by
  obtain ⟨init, last, first, rest, hp, -, hpr⟩ := exists_lines_append p r
  cases k with
  | zero => rfl
  | succ k =>
    rw [hp, List.length_append, List.length_singleton] at hlt
    have hinit : k < init.length := Nat.lt_of_succ_lt_succ hlt
    rw [line?, line?, hpr, hp, List.getElem?_append_left hinit, List.getElem?_append_left hinit]

/-- The last line of a text goes on with what follows it up to a line break. -/
theorem line?_append_length (p r : Text) :
    ∃ last first rest, p.line? p.lines.length = some last ∧ r.lines = first :: rest ∧
      line? (p ++ r) p.lines.length = some (last ++ first) := by
  obtain ⟨init, last, first, rest, hp, hr, hpr⟩ := exists_lines_append p r
  have hlength : p.lines.length = init.length + 1 := by
    rw [hp, List.length_append, List.length_singleton]
  refine ⟨last, first, rest, ?_, hr, ?_⟩
  · rw [hlength, line?, hp, List.getElem?_concat_length]
  · rw [hlength, line?, hpr]
    simp

/-- A line that begins with another one has its bytes, column by column. -/
theorem byteAt?_of_line? {t t' line line' : Text} {k k' column : Nat} {byte : UInt8}
    (hline : t.line? k = some line) (hline' : t'.line? k' = some line') (hbegins : line <+: line')
    (h : t.byteAt? k column = some byte) : t'.byteAt? k' column = some byte := by
  cases column with
  | zero => exact h
  | succ column =>
    obtain ⟨more, rfl⟩ := hbegins
    rw [byteAt?, hline, Option.bind_some] at h
    rw [byteAt?, hline', Option.bind_some, bytes_append]
    obtain ⟨hlt, -⟩ := List.getElem?_eq_some_iff.mp h
    rw [List.getElem?_append_left hlt]
    exact h

theorem lineBreaks_le_size (t : Text) : t.lineBreaks ≤ t.size := by
  have hlength : t.length ≤ t.size := by
    induction t with
    | nil => exact Nat.le_refl _
    | cons c t ih =>
      have := Char.utf8Size_pos c
      simp
      omega
  exact Nat.le_trans List.count_le_length hlength

end Text

/-! ### Lines of a body in its source -/

namespace Block

/-- Line `k` of the body is line `shift + k` of the source. The last line is not
the whole of it: the closing mark stands behind it, and what follows the block. -/
structure LiesBelow (b : Block) (source : Text) (shift : Nat) : Prop where
  line : ∀ k, 1 ≤ k → k < b.body.lines.length →
    ∃ line, b.body.line? k = some line ∧ source.line? (shift + k) = some line
  lastLine : ∃ line rest, b.body.line? b.body.lines.length = some line ∧
    source.line? (shift + b.body.lines.length) = some (line ++ "*/".toList ++ rest)

section

variable {source : Text} {pos k column : Nat} {b : Block}

theorem standsIn_of_find?_eq_some (h : find? source pos = some b) : b.StandsIn source := by
  have hpos : source.IsBoundary pos := by
    simp only [find?, Option.bind_eq_bind, Option.bind_eq_some_iff] at h
    obtain ⟨cut, hcut, -⟩ := h
    rw [Text.IsBoundary, hcut]
    rfl
  exact ((find?_eq_some_iff hpos).mp h).1.1

/-- The source around the body: the line break of the option line stands before
it, and the closing mark behind. -/
theorem Cut.Cuts.eq_around_body {cut : Cut} (h : cut.Cuts source) :
    source = (cut.gap ++ openMark ++ cut.line) ++ '\n' :: (cut.body ++ (closeMark ++ cut.rest)) := by
  rw [h.eq]
  simp [upTo, written]

theorem Cut.Cuts.lineBreaksBefore_bodyStart {cut : Cut} (h : cut.Cuts source) :
    source.lineBreaksBefore (cut.block 0).bodyStart =
      (cut.gap ++ openMark ++ cut.line).lineBreaks + 1 := by
  have hstart : (cut.block 0).bodyStart = Text.size cut.upToBody := Nat.zero_add _
  have hsource : source = cut.upToBody ++ (cut.body ++ (closeMark ++ cut.rest)) := by
    rw [h.eq_around_body]
    simp [upToBody]
  rw [hstart, hsource, Text.lineBreaksBefore_size, upToBody, Text.lineBreaks_append]
  rfl

/-- The body begins one line below the mark. -/
theorem StandsIn.lineBreaksBefore_bodyStart (h : b.StandsIn source) :
    source.lineBreaksBefore b.bodyStart = Pass.lineOf source b := by
  obtain ⟨cut, hcut, rfl⟩ := h
  have hstart : (cut.block 0).start = Text.size cut.gap := Nat.zero_add _
  have hsource : source = cut.gap ++ (written cut.line cut.body ++ cut.rest) := by
    rw [← List.append_assoc]
    exact hcut.eq
  have hmark : Text.lineBreaks openMark = 0 := by decide
  have hline : Text.lineBreaks cut.line = 0 := List.count_eq_zero.mpr hcut.line
  rw [hcut.lineBreaksBefore_bodyStart, Pass.lineOf, hstart, hsource, Text.lineBreaksBefore_size,
    Text.lineBreaks_append, Text.lineBreaks_append, hmark, hline]

/-- What follows a body begins with the closing mark, on the same line. -/
theorem exists_lines_closeMark (rest : Text) :
    ∃ more others, Text.lines (closeMark ++ rest) = (closeMark ++ more) :: others := by
  obtain ⟨init, mark, more, others, hmark, -, hlines⟩ := Text.exists_lines_append closeMark rest
  have hclose : Text.lines closeMark = [closeMark] := by decide
  have hsame : [] ++ [closeMark] = init ++ [mark] := hclose.symm.trans hmark
  obtain ⟨hinit, hlast⟩ := List.append_inj' hsame rfl
  cases hinit
  cases hlast
  exact ⟨more, others, hlines⟩

theorem StandsIn.liesBelow (h : b.StandsIn source) :
    b.LiesBelow source (source.lineBreaksBefore b.bodyStart) := by
  obtain ⟨cut, hcut, rfl⟩ := h
  rw [hcut.lineBreaksBefore_bodyStart]
  change LiesBelow ⟨_, _, cut.body, _, _⟩ source _
  constructor
  · intro k hpos hlt
    obtain ⟨line, hline⟩ := Text.exists_line? hpos (Nat.le_of_lt hlt)
    refine ⟨line, hline, ?_⟩
    rw [hcut.eq_around_body, Text.line?_append_break _ _ hpos, Text.line?_append_of_lt _ _ hlt]
    exact hline
  · have hpos : 1 ≤ cut.body.lines.length := by
      rw [Text.length_lines]
      exact Nat.le_add_left 1 _
    obtain ⟨last, first, rest, hlast, hfirst, hjoined⟩ :=
      Text.line?_append_length cut.body (closeMark ++ cut.rest)
    obtain ⟨more, others, hclose⟩ := exists_lines_closeMark cut.rest
    rw [hclose, List.cons.injEq] at hfirst
    refine ⟨last, more, hlast, ?_⟩
    rw [hcut.eq_around_body, Text.line?_append_break _ _ hpos, hjoined, ← hfirst.1,
      List.append_assoc]
    rfl

/-- Where the body has a byte, the source has it in the same column, on the line
that stands for the body's. -/
theorem LiesBelow.byteAt? {shift : Nat} (h : b.LiesBelow source shift) {byte : UInt8}
    (hbyte : b.body.byteAt? k column = some byte) :
    source.byteAt? (shift + k) column = some byte := by
  have hk : 1 ≤ k ∧ k ≤ b.body.lines.length := by
    cases column with
    | zero => cases hbyte
    | succ column =>
      obtain ⟨line, hline, -⟩ := Option.bind_eq_some_iff.mp hbyte
      cases k with
      | zero => cases hline
      | succ k => exact ⟨Nat.le_add_left 1 k, (List.getElem?_eq_some_iff.mp hline).1⟩
  rcases Nat.lt_or_eq_of_le hk.2 with hlt | rfl
  · obtain ⟨line, hline, hsource⟩ := h.line k hk.1 hlt
    exact Text.byteAt?_of_line? hline hsource (List.prefix_refl line) hbyte
  · obtain ⟨line, rest, hline, hsource⟩ := h.lastLine
    refine Text.byteAt?_of_line? hline hsource ?_ hbyte
    exact ⟨"*/".toList ++ rest, by rw [List.append_assoc]⟩

/-- Every line of a body that is moved into its source is one of the source's
lines, of which there are not more than bytes. -/
theorem StandsIn.line_le_size (h : b.StandsIn source) (hle : k ≤ b.body.lines.length) :
    source.lineBreaksBefore b.bodyStart + k ≤ source.size := by
  obtain ⟨cut, hcut, rfl⟩ := h
  have hbody : (cut.block 0).body = cut.body := rfl
  have hbreaks := Text.lineBreaks_le_size (cut.gap ++ openMark ++ cut.line)
  have hbreaks' := Text.lineBreaks_le_size cut.body
  have hsize := congrArg Text.size hcut.eq_around_body
  have hbreak : Char.utf8Size '\n' = 1 := by decide
  have hclose : Text.size closeMark = 2 := by decide
  rw [hbody, Text.length_lines] at hle
  rw [hcut.lineBreaksBefore_bodyStart, hsize]
  simp only [Text.size_append, Text.size_cons] at hbreaks hsize ⊢
  omega

end

end Block

/-! ### Messages about a body -/

namespace Diagnostics

/-- A message about a column of a line. -/
def message (name : Text) (line column : Nat) (text : Text) : Text :=
  name ++ ':' :: Text.ofNat line ++ ':' :: Text.ofNat column ++ ':' :: text

section

variable {unit source : Text} {bodyStart k : Nat}

theorem isNumber_ofNat (n : Nat) : IsNumber (Text.ofNat n) :=
  ⟨Nat.toDigits_ne_nil, fun _ hc => isDigit_of_mem_ofNat hc⟩

theorem renumber_ofNat {shift : Nat} (h : shift + k < lineBound) :
    renumber shift (Text.ofNat k) = Text.ofNat (shift + k) := by
  have hvalue : Text.decimalValue (Text.ofNat k) = k := Nat.ofDigitChars_ten_toDigits
  have hline : k < lineBound := Nat.lt_of_le_of_lt (Nat.le_add_left _ _) h
  rw [Nat.add_comm] at h ⊢
  rw [renumber, shifted?, hvalue, if_pos ⟨hline, h⟩]
  rfl

/-- A line of the unit that a message begins with becomes a line of the path,
whatever the unit is called. -/
theorem ofBody_line (hunit : unit ≠ []) (path text : Text)
    (hfits : source.lineBreaksBefore bodyStart + k < lineBound) :
    ofBody (unit ++ ':' :: Text.ofNat k ++ ':' :: text) source path unit bodyStart =
      path ++ Text.replaceAll unit path
        (':' :: Text.ofNat (source.lineBreaksBefore bodyStart + k) ++
          ':' :: Scan.finish unit (source.lineBreaksBefore bodyStart) ⟨text, 0⟩) := by
  rw [ofBody_eq hunit, ← Text.lineBreaksBefore_eq_count, shiftLines_numbered (isNumber_ofNat k),
    renumber_ofNat hfits, List.append_assoc, Text.replaceAll_append hunit, finish_zero hunit]

/-- A message about a place in the unit becomes one about a place in the path, and
the text behind it is remapped apart from it. -/
theorem ofBody_message (hunit : IsName unit) (path text : Text) (column : Nat)
    (hfits : source.lineBreaksBefore bodyStart + k < lineBound) :
    ofBody (message unit k column text) source path unit bodyStart =
      message path (source.lineBreaksBefore bodyStart + k) column
        (ofBody text source path unit bodyStart) := by
  have hcolumn := isNumber_ofNat column
  -- The column ends in no name, so that what stands behind it is shifted apart from it.
  have hshift : shiftLines unit (source.lineBreaksBefore bodyStart)
      (Text.ofNat column ++ ':' :: text) =
        Text.ofNat column ++ ':' :: shiftLines unit (source.lineBreaksBefore bodyStart) text := by
    apply shiftLines_append_cons hunit hcolumn.colon_not_mem
    intro hends
    exact absurd hends.isInfix (hunit.absent hcolumn.2)
  have hsplit : message unit k column text =
      unit ++ ':' :: Text.ofNat k ++ ':' :: (Text.ofNat column ++ ':' :: text) := by
    simp [message]
  have hdigits : ∀ n, Text.replaceAll unit path (Text.ofNat n) = Text.ofNat n := by
    intro n
    exact hunit.replaceAll_eq (fun c hc => isDigit_of_mem_ofNat hc) path
  have hbehind : ∀ t r, Text.replaceAll unit path (t ++ ':' :: r) =
      Text.replaceAll unit path t ++ ':' :: Text.replaceAll unit path r :=
    Text.replaceAll_append_cons hunit.colon_not_mem hunit.ne_nil
  have hcolon : ∀ r, Text.replaceAll unit path (':' :: r) = ':' :: Text.replaceAll unit path r := by
    intro r
    have hempty : Text.replaceAll unit path [] = [] := by rw [Text.replaceAll]
    have hnil := hbehind [] r
    rwa [hempty] at hnil
  rw [hsplit, ofBody_line hunit.ne_nil path _ hfits, finish_zero hunit.ne_nil, hshift,
    List.cons_append, hcolon, hbehind, hbehind, hdigits, hdigits, ofBody_eq hunit.ne_nil,
    ← Text.lineBreaksBefore_eq_count, message]
  simp

end

end Diagnostics

/-! ### Shifted coordinates -/

namespace Block

open Diagnostics

/-- The lines of the body of a block that is found stand in the source as many
lines further down as the number of the block's own line, all of them in full but
for the last, which goes on with the closing mark. So a byte of the body stands in
the same column of the line that a message about it is moved to: behind the path,
where the message begins with a line of the unit, whatever the unit is called, and
with the column as it was, where no colon in the unit's name could take part. -/
theorem find?_sameLines {source : Text} {pos : Nat} {b : Block} (h : find? source pos = some b) :
    let shift := source.lineBreaksBefore b.bodyStart
    shift = Pass.lineOf source b ∧ b.LiesBelow source shift ∧
      (∀ k column byte, b.body.byteAt? k column = some byte →
        source.byteAt? (shift + k) column = some byte) ∧
      (source.size < lineBound → ∀ k, 1 ≤ k → k ≤ b.body.lines.length → ∀ unit path,
        (unit ≠ [] → ∀ text,
          ofBody (unit ++ ':' :: Text.ofNat k ++ ':' :: text) source path unit b.bodyStart =
            path ++ Text.replaceAll unit path
              (':' :: Text.ofNat (shift + k) ++ ':' :: Scan.finish unit shift ⟨text, 0⟩)) ∧
        (IsName unit → ∀ column text,
          ofBody (message unit k column text) source path unit b.bodyStart =
            message path (shift + k) column (ofBody text source path unit b.bodyStart))) := by
  have hstands := standsIn_of_find?_eq_some h
  have hlies := hstands.liesBelow
  refine ⟨hstands.lineBreaksBefore_bodyStart, hlies, fun k column byte => hlies.byteAt?, ?_⟩
  intro hsize k _ hle unit path
  have hfits : source.lineBreaksBefore b.bodyStart + k < lineBound :=
    Nat.lt_of_le_of_lt (hstands.line_le_size hle) hsize
  constructor
  · intro hunit text
    exact ofBody_line hunit path text hfits
  · intro hunit column text
    exact ofBody_message hunit path text column hfits

/-- A block below a line with a character of two bytes, and with carriage returns at
the ends of its lines. -/
def returnsCut : Cut where
  gap := "é\r\n".toList
  line := " --a\r".toList
  body := "(é\r\n x)".toList
  rest := ['!']

theorem find?_sameLines_sample :
    let source := returnsCut.upTo ++ returnsCut.rest
    let b := returnsCut.block 0
    find? source 0 = some b ∧ source.size < lineBound ∧ 1 ≤ 2 ∧ 2 ≤ b.body.lines.length ∧
      "u.wat".toList ≠ [] ∧ IsName "u.wat".toList ∧ Pass.lineOf source b = 2 ∧
      b.body.byteAt? 2 3 = some 0x29 ∧ source.byteAt? 4 3 = some 0x29 ∧
      ofBody "u.wat:2:3: bad u.wat\n".toList source "a.rs".toList "u.wat".toList b.bodyStart =
        "a.rs:4:3: bad a.rs\n".toList := by
  intro source b
  have hcut : cut? source = some returnsCut := by decide
  have hfound : find? source 0 = some b := by
    have hfind := find?_append [] source
    rwa [hcut] at hfind
  have hsize : source.size < lineBound := by decide
  have hname : IsName "u.wat".toList := ⟨by decide, 'u', by decide, by decide⟩
  have hlines : 2 ≤ b.body.lines.length := by decide
  have hbyte : b.body.byteAt? 2 3 = some 0x29 := by decide
  have hshift : source.lineBreaksBefore b.bodyStart = 2 := by decide
  obtain ⟨hline, -, hbytes, hmessages⟩ := find?_sameLines hfound
  have hmoved := (hmessages hsize 2 (by decide) hlines "u.wat".toList "a.rs".toList).2 hname 3
    " bad u.wat\n".toList
  have htext : ofBody " bad u.wat\n".toList source "a.rs".toList "u.wat".toList b.bodyStart =
      " bad a.rs\n".toList := by
    rw [ofBody_eq hname.ne_nil, ← Text.lineBreaksBefore_eq_count, hshift]
    cbv
  have hsource := hbytes 2 3 _ hbyte
  rw [hshift, htext] at hmoved
  rw [hshift] at hsource hline
  exact ⟨hfound, hsize, by decide, hlines, by decide, hname, hline.symm, hbyte, hsource, hmoved⟩

end Block

end WatInlay
