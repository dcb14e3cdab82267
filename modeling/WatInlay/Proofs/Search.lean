/-
The search for a block is exact.

`BlockAt` spells out what a block is, at an offset of a source. The search from
a character boundary answers the first block that stands there or later, with
its parts as they are written, and answers nothing only where there is none
(`find?_exact`). A mark that opens no block does not end the search, also when
the block that is found stands on its line or in what would have been its body.
-/

import WatInlay.Proofs.Block

namespace WatInlay

/-! ### Pieces -/

/-- The pieces of a text are what is left when it is cut at every character of
the class, without the empty parts. -/
theorem Text.pieces_eq_filter_splitOnP (p : Char → Bool) (t : Text) :
    pieces p t = (t.splitOnP p).filter (!·.isEmpty) := by
  fun_induction pieces p t with
  | case1 => simp
  | case2 c t hc ih => simp [List.splitOnP_cons_eq_if_modifyHead, hc, ih]
  | case3 c t hc ih =>
    have hpiece : ∀ d ∈ c :: t.takeWhile (!p ·), p d = false := by
      intro d hd
      rcases List.mem_cons.mp hd with rfl | hd
      · simpa using hc
      · simpa using List.all_eq_true.mp List.all_takeWhile d hd
    have hsplit : c :: t = (c :: t.takeWhile (!p ·)) ++ t.dropWhile (!p ·) := by
      rw [List.cons_append, List.takeWhile_append_dropWhile]
    rw [ih, hsplit]
    cases hrest : t.dropWhile (!p ·) with
    | nil => simp [List.splitOnP_eq_singleton hpiece]
    | cons d rest =>
      have hd : p d = true := by
        have := List.head?_dropWhile_not (!p ·) t
        rw [hrest] at this
        simpa using this
      rw [List.splitOnP_append_cons _ _ hd, List.splitOnP_eq_singleton hpiece,
        List.splitOnP_cons_eq_if_modifyHead, if_pos hd]
      simp

namespace Block

/-! ### Blocks that stand in a source -/

/-- The block is written in the source, at its offsets. -/
def StandsIn (b : Block) (source : Text) : Prop :=
  ∃ k : Cut, k.Cuts source ∧ k.block 0 = b

section

variable {before t : Text} {b : Block}

theorem start_lt_stop (k : Cut) (pos : Nat) : (k.block pos).start < (k.block pos).stop := by
  have hopen : Text.size openMark = 11 := by decide
  simp only [Cut.block, Cut.upTo, written, Text.size_append, hopen]
  omega

/-- The blocks of a text that follows `before` are those of the two together
that start there. -/
theorem standsIn_append_iff :
    b.StandsIn (before ++ t) ∧ Text.size before ≤ b.start ↔
      ∃ k : Cut, k.Cuts t ∧ k.block (Text.size before) = b := by
  constructor
  · rintro ⟨⟨k, hk, rfl⟩, hle⟩
    have heq := hk.eq
    rw [Cut.upTo, List.append_assoc] at heq
    have hgap : Text.size before ≤ Text.size k.gap := by simpa [Cut.block] using hle
    obtain ⟨gap, hgap, ht⟩ := Text.exists_of_append_eq_append heq hgap
    refine ⟨{ k with gap }, ⟨?_, hk.line, hk.body⟩, ?_⟩
    · rw [ht, Cut.upTo, List.append_assoc]
    · simp [Cut.block, Cut.options, Cut.upTo, Cut.upToBody, hgap]
  · rintro ⟨k, hk, rfl⟩
    refine ⟨⟨{ k with gap := before ++ k.gap }, ⟨?_, hk.line, hk.body⟩, ?_⟩, Nat.le_add_right _ _⟩
    · rw [hk.eq]
      simp [Cut.upTo]
    · simp [Cut.block, Cut.options, Cut.upTo, Cut.upToBody]

/-- Every other block of a text starts behind the start of the first one. -/
theorem eq_or_start_lt_of_cut? {k j : Cut} (h : cut? t = some k) (hj : j.Cuts t) (pos : Nat) :
    j.block pos = k.block pos ∨ (k.block pos).start < (j.block pos).start := by
  obtain ⟨hk, hleast⟩ := cut?_eq_some_iff.mp h
  have hkt : k.gap <+: t := ⟨written k.line k.body ++ k.rest, by
    rw [hk.eq, Cut.upTo, List.append_assoc]⟩
  have hjt : j.gap <+: t := ⟨written j.line j.body ++ j.rest, by
    rw [hj.eq, Cut.upTo, List.append_assoc]⟩
  obtain ⟨x, hx⟩ := List.prefix_of_prefix_length_le hkt hjt (hleast j hj)
  cases x with
  | nil =>
    left
    rw [hj.eq_of_length_gap hk (by rw [← hx, List.append_nil])]
  | cons c x =>
    right
    have := Char.utf8Size_pos c
    simp [Cut.block, ← hx]
    omega

end

/-! ### Blocks by their spelling -/

/-- At offset `start` of the source a block is written: the mark and a line, a
body, the closing mark. -/
structure BlockAt (source : Text) (start : Nat) (line body rest : Text) : Prop where
  boundary : source.IsBoundary start
  eq : source.after start =
    "/* wat2wasm".toList ++ line ++ '\n' :: body ++ "*/".toList ++ rest
  line : '\n' ∉ line
  body : '*' ∉ body

/-- The block is the one that is written at its offset, taken apart as it is
written there. -/
structure IsWritten (b : Block) (source line rest : Text) : Prop where
  blockAt : BlockAt source b.start line b.body rest
  /-- The options are the non-empty pieces of the line between white space. -/
  options : b.options = (line.splitOnP Text.isBlank).filter (!·.isEmpty)
  bodyStart : b.bodyStart = b.start + Text.size ("/* wat2wasm".toList ++ line ++ ['\n'])
  body : source.slice? b.bodyStart b.bodyStop = some b.body
  stop : b.stop = b.bodyStop + Text.size "*/".toList

/-- The block is the first of those that start at `pos` or later. -/
def IsFirst (b : Block) (source : Text) (pos : Nat) : Prop :=
  pos ≤ b.start ∧ (∃ line rest, b.IsWritten source line rest) ∧
    ∀ start line body rest, pos ≤ start → BlockAt source start line body rest → b.start ≤ start

section

variable {source line body rest : Text} {start : Nat} {b : Block} {k : Cut}

/-- A block that is written somewhere is a cut of the source. -/
theorem blockAt_iff :
    BlockAt source start line body rest ↔
      ∃ gap, Cut.Cuts ⟨gap, line, body, rest⟩ source ∧ Text.size gap = start := by
  constructor
  · intro h
    obtain ⟨gap, behind, rfl, rfl⟩ := Text.isBoundary_iff.mp h.boundary
    have heq := h.eq
    rw [Text.after_eq rfl] at heq
    change behind = written line body ++ rest at heq
    exact ⟨gap, ⟨by rw [heq, Cut.upTo, List.append_assoc], h.line, h.body⟩, rfl⟩
  · rintro ⟨gap, hcuts, rfl⟩
    have heq : source = gap ++ (written line body ++ rest) := by
      rw [← List.append_assoc]
      exact hcuts.eq
    exact ⟨Text.isBoundary_iff.mpr ⟨gap, _, heq, rfl⟩, Text.after_eq heq, hcuts.line, hcuts.body⟩

/-- The block of a cut is written in the text as the cut says. -/
theorem Cut.Cuts.isWritten_block (h : k.Cuts source) : (k.block 0).IsWritten source k.line k.rest where
  blockAt := blockAt_iff.mpr ⟨k.gap, h, (Nat.zero_add _).symm⟩
  options := Text.pieces_eq_filter_splitOnP _ _
  bodyStart := by
    change 0 + Text.size k.upToBody = 0 + Text.size k.gap + Text.size (openMark ++ k.line ++ ['\n'])
    simp [upToBody]
  body := by
    refine Text.slice?_eq_some_iff.mpr ⟨k.upToBody, closeMark ++ k.rest, ?_, ?_, ?_⟩
    · rw [h.eq]
      simp [upTo, upToBody, written, block]
    · simp [block]
    · simp [block, bodyStop]
  stop := by
    change 0 + Text.size k.upTo = 0 + Text.size k.upToBody + Text.size k.body + Text.size closeMark
    simp [upTo, upToBody, written, Nat.add_assoc]

/-- A block that is written in the source stands in it. -/
theorem IsWritten.standsIn (h : b.IsWritten source line rest) : b.StandsIn source := by
  obtain ⟨gap, hcuts, hgap⟩ := blockAt_iff.mp h.blockAt
  have hk := hcuts.isWritten_block
  have hstart : (Cut.block ⟨gap, line, b.body, rest⟩ 0).start = b.start := by
    rw [← hgap]
    exact Nat.zero_add _
  have hoptions := hk.options.trans h.options.symm
  have hbodyStart : (Cut.block ⟨gap, line, b.body, rest⟩ 0).bodyStart = b.bodyStart := by
    rw [hk.bodyStart, h.bodyStart, hstart]
  have hstop : (Cut.block ⟨gap, line, b.body, rest⟩ 0).stop = b.stop := by
    rw [hk.stop, h.stop, bodyStop, bodyStop, hbodyStart]
    rfl
  refine ⟨_, hcuts, ?_⟩
  cases b
  simp only [Cut.block, mk.injEq] at hstart hoptions hbodyStart hstop ⊢
  exact ⟨hstart, hoptions, trivial, hbodyStart, hstop⟩

theorem standsIn_iff : b.StandsIn source ↔ ∃ line rest, b.IsWritten source line rest := by
  constructor
  · rintro ⟨k, hk, rfl⟩
    exact ⟨_, _, hk.isWritten_block⟩
  · rintro ⟨line, rest, h⟩
    exact h.standsIn

theorem BlockAt.exists_standsIn (h : BlockAt source start line body rest) :
    ∃ b : Block, b.StandsIn source ∧ b.start = start := by
  obtain ⟨gap, hcuts, hgap⟩ := blockAt_iff.mp h
  exact ⟨_, ⟨_, hcuts, rfl⟩, by rw [← hgap]; exact Nat.zero_add _⟩

/-- A block is written at one offset in one way. -/
theorem BlockAt.unique {line' body' rest' : Text} (h : BlockAt source start line body rest)
    (h' : BlockAt source start line' body' rest') : line = line' ∧ body = body' ∧ rest = rest' := by
  have heq := h.eq.symm.trans h'.eq
  have hhead : head? (written line body ++ rest) = some (line, body, rest) :=
    head?_eq_some_iff.mpr ⟨rfl, h.line, h.body⟩
  have hhead' : head? (written line' body' ++ rest') = some (line', body', rest') :=
    head?_eq_some_iff.mpr ⟨rfl, h'.line, h'.body⟩
  have hsame : written line body ++ rest = written line' body' ++ rest' := heq
  rw [hsame, hhead'] at hhead
  simp only [Option.some.injEq, Prod.mk.injEq] at hhead
  exact ⟨hhead.1.symm, hhead.2.1.symm, hhead.2.2.symm⟩

end

/-! ### The search -/

variable {source : Text} {pos : Nat}

theorem find?_eq_none_iff (hpos : source.IsBoundary pos) :
    find? source pos = none ↔ ∀ b : Block, b.StandsIn source → b.start < pos := by
  obtain ⟨before, t, rfl, rfl⟩ := Text.isBoundary_iff.mp hpos
  rw [find?_append, Option.map_eq_none_iff, cut?_eq_none_iff]
  constructor
  · intro h b hb
    refine Nat.lt_of_not_le fun hle => ?_
    obtain ⟨k, hk, -⟩ := standsIn_append_iff.mp ⟨hb, hle⟩
    exact h k hk
  · intro h k hk
    obtain ⟨hb, hle⟩ := standsIn_append_iff.mpr ⟨k, hk, rfl⟩
    exact absurd (h _ hb) (Nat.not_lt.mpr hle)

theorem find?_eq_some_iff (hpos : source.IsBoundary pos) {b : Block} :
    find? source pos = some b ↔ (b.StandsIn source ∧ pos ≤ b.start) ∧
      ∀ c : Block, c.StandsIn source → pos ≤ c.start → b.start ≤ c.start := by
  obtain ⟨before, t, rfl, rfl⟩ := Text.isBoundary_iff.mp hpos
  rw [find?_append, Option.map_eq_some_iff]
  constructor
  · rintro ⟨k, hk, rfl⟩
    refine ⟨standsIn_append_iff.mpr ⟨k, cuts_of_cut?_eq_some hk, rfl⟩, fun c hc hle => ?_⟩
    obtain ⟨j, hj, rfl⟩ := standsIn_append_iff.mp ⟨hc, hle⟩
    rcases eq_or_start_lt_of_cut? hk hj (Text.size before) with hsame | hlt
    · exact Nat.le_of_eq (congrArg start hsame).symm
    · exact Nat.le_of_lt hlt
  · rintro ⟨hb, hleast⟩
    obtain ⟨j, hj, rfl⟩ := standsIn_append_iff.mp hb
    obtain ⟨k, hk, -⟩ := exists_cut?_of_cuts hj
    obtain ⟨hk', hle⟩ :=
      standsIn_append_iff.mpr ⟨k, cuts_of_cut?_eq_some hk, rfl⟩
    refine ⟨k, hk, ?_⟩
    rcases eq_or_start_lt_of_cut? hk hj (Text.size before) with hsame | hlt
    · exact hsame.symm
    · exact absurd (hleast _ hk' hle) (Nat.not_le.mpr hlt)

/-- The search from a character boundary answers nothing exactly when no block
is written there or later, and otherwise the first block that is; and what is
written at an offset is a block in one way only. -/
theorem find?_exact (hpos : source.IsBoundary pos) :
    (find? source pos = none ↔
        ∀ start line body rest, pos ≤ start → ¬ BlockAt source start line body rest) ∧
      (∀ b, find? source pos = some b ↔ b.IsFirst source pos) ∧
      ∀ start line body rest line' body' rest', BlockAt source start line body rest →
        BlockAt source start line' body' rest' → line = line' ∧ body = body' ∧ rest = rest' := by
  refine ⟨?_, fun b => ?_, fun _ _ _ _ _ _ _ h h' => h.unique h'⟩
  · rw [find?_eq_none_iff hpos]
    constructor
    · intro h start line body rest hle hat
      obtain ⟨b, hb, rfl⟩ := hat.exists_standsIn
      exact absurd (h b hb) (Nat.not_lt.mpr hle)
    · intro h b hb
      obtain ⟨line, rest, hwritten⟩ := standsIn_iff.mp hb
      exact Nat.lt_of_not_le fun hle => h _ _ _ _ hle hwritten.blockAt
  · rw [find?_eq_some_iff hpos, standsIn_iff]
    constructor
    · rintro ⟨⟨hwritten, hle⟩, hleast⟩
      refine ⟨hle, hwritten, fun start line body rest hstart hat => ?_⟩
      obtain ⟨c, hc, rfl⟩ := hat.exists_standsIn
      exact hleast c hc hstart
    · rintro ⟨hle, hwritten, hleast⟩
      refine ⟨⟨hwritten, hle⟩, fun c hc hstart => ?_⟩
      obtain ⟨line, rest, hc⟩ := standsIn_iff.mp hc
      exact hleast _ _ _ _ hstart hc.blockAt

/-- A mark whose body has a star that closes nothing, another one on the line
of the block that is found, and options with white space of several kinds. -/
def rejectedSource : Text :=
  "é/* wat2wasm\n(;*;)*/ /* wat2wasm /* wat2wasm --a\u00a0\t--b\r\n(é)*/".toList

theorem find?_exact_sample :
    rejectedSource.IsBoundary 2 ∧
      ∃ b, find? rejectedSource 2 = some b ∧ b.IsFirst rejectedSource 2 ∧
        b.start = 22 ∧ b.options = ["/*".toList, "wat2wasm".toList, "--a".toList, "--b".toList] := by
  have hpos : rejectedSource.IsBoundary 2 := by decide
  have hcut : cut? (rejectedSource.drop 1) =
      some ⟨"/* wat2wasm\n(;*;)*/ ".toList, " /* wat2wasm --a\u00a0\t--b\r".toList,
        "(é)".toList, []⟩ := by cbv
  have hoptions : Text.pieces Text.isBlank " /* wat2wasm --a\u00a0\t--b\r".toList =
      ["/*".toList, "wat2wasm".toList, "--a".toList, "--b".toList] := by
    rw [Text.pieces_eq_filter_splitOnP]
    decide
  have hfound := find?_append ['é'] (rejectedSource.drop 1)
  rw [hcut] at hfound
  exact ⟨hpos, _, hfound, ((find?_exact hpos).2.1 _).mp hfound, rfl, hoptions⟩

end Block

end WatInlay
