/-
Cursors stay on character boundaries.

From a character boundary every call moves a cursor over a beginning of what is
left to read (`Cursor.Call.movesOver_run`), so that no sequence of calls takes it
back, past the end or into a character; away from a boundary nothing is left to
read and no call moves it (`Cursor.runAll_of_not_onBoundary`). On a boundary the
searches answer the first offset at which the bytes looked for stand, and no
offset only where there is none (`Cursor.find?_eq_some_iff`,
`Cursor.findByte?_eq_some_iff`); that the bytes of a word never stand inside a
character is `Text.bytes_prefix_drop_iff`.
-/

import Mathlib.Order.Bounds.Defs
import WatInlay.Proofs.Encoding
import WatInlay.Proofs.Literal
import WatInlay.Proofs.Occurrence

namespace WatInlay

namespace Cursor

/-! ### Calls -/

/-- What can move a cursor. -/
inductive Call where
  | eat (word : Text)
  | skipBlanks
  | word
  deriving DecidableEq, Repr

/-- The cursor after a call. One that does not find what it is for leaves it. -/
def Call.run : Call → Cursor → Cursor
  | .eat w, c => (c.eat? w).getD c
  | .skipBlanks, c => c.skipBlanks
  | .word, c => c.word?.getD c

/-- The cursor after all calls, in order. -/
def runAll (c : Cursor) (calls : List Call) : Cursor :=
  calls.foldl (fun c call => call.run c) c

/-- The cursor stands between two characters of its source, or at an end. -/
def OnBoundary (c : Cursor) : Prop :=
  c.source.IsBoundary c.pos

instance (c : Cursor) : Decidable c.OnBoundary :=
  inferInstanceAs (Decidable (Text.IsBoundary _ _))

/-- `d` stands behind `a`, which `c` has still to read. -/
structure MovesOver (c : Cursor) (a : Text) (d : Cursor) : Prop where
  source : d.source = c.source
  pos : d.pos = c.pos + a.size
  rest : c.rest = a ++ d.rest
  boundary : d.OnBoundary

variable {c d : Cursor}

/-- What can be read can be moved over. -/
theorem movesOver_advance {a r : Text} (hc : c.OnBoundary) (h : c.rest = a ++ r) :
    c.MovesOver a (c.advance a.size) ∧ (c.advance a.size).rest = r := by
  obtain ⟨source, pos⟩ := c
  obtain ⟨p, u, rfl, rfl⟩ := Text.isBoundary_iff.mp hc
  rw [rest_append] at h
  subst h
  have hplace : advance ⟨p ++ (a ++ r), Text.size p⟩ a.size =
      ⟨(p ++ a) ++ r, Text.size (p ++ a)⟩ := by simp [advance]
  rw [hplace]
  refine ⟨⟨by simp, by simp, ?_, Text.isBoundary_iff.mpr ⟨p ++ a, r, rfl, rfl⟩⟩, rest_append _ _⟩
  rw [rest_append, rest_append]

theorem movesOver_nil (hc : c.OnBoundary) : c.MovesOver [] c :=
  ⟨rfl, rfl, rfl, hc⟩

/-- The step of the invariant: a call moves over a beginning of what is left. -/
theorem Call.movesOver_run (call : Call) (hc : c.OnBoundary) :
    ∃ a, c.MovesOver a (call.run c) := by
  cases call with
  | eat w =>
    simp only [run, eat?]
    split
    · rename_i hword
      obtain ⟨r, hr⟩ := List.isPrefixOf_iff_prefix.mp hword
      exact ⟨w, (movesOver_advance hc hr.symm).1⟩
    · exact ⟨[], movesOver_nil hc⟩
  | skipBlanks =>
    have hsplit := List.takeWhile_append_dropWhile (p := Text.isBlank) (l := c.rest)
    exact ⟨_, (movesOver_advance hc hsplit.symm).1⟩
  | word =>
    have hsplit := List.takeWhile_append_dropWhile (p := Text.isWordChar) (l := c.rest)
    simp only [run, word?]
    split
    · exact ⟨[], movesOver_nil hc⟩
    · exact ⟨_, (movesOver_advance hc hsplit.symm).1⟩

theorem MovesOver.trans {e : Cursor} {a b : Text} (h : c.MovesOver a d) (h' : d.MovesOver b e) :
    c.MovesOver (a ++ b) e where
  source := h'.source.trans h.source
  pos := by rw [h'.pos, h.pos, Text.size_append, Nat.add_assoc]
  rest := by rw [h.rest, h'.rest, List.append_assoc]
  boundary := h'.boundary

theorem MovesOver.le {a : Text} (h : c.MovesOver a d) : c.pos ≤ d.pos := by
  rw [h.pos]
  exact Nat.le_add_right _ _

theorem movesOver_runAll (hc : c.OnBoundary) (calls : List Call) :
    ∃ a, c.MovesOver a (c.runAll calls) := by
  induction calls generalizing c with
  | nil => exact ⟨[], movesOver_nil hc⟩
  | cons call calls ih =>
    obtain ⟨a, ha⟩ := call.movesOver_run hc
    obtain ⟨b, hb⟩ := ih ha.boundary
    exact ⟨a ++ b, ha.trans hb⟩

theorem runAll_append (c : Cursor) (calls more : List Call) :
    c.runAll (calls ++ more) = (c.runAll calls).runAll more :=
  List.foldl_append

/-! ### Away from a boundary -/

theorem rest_eq_nil_of_not_onBoundary (hc : ¬ c.OnBoundary) : c.rest = [] := by
  have hnone : Text.splitAt? c.source c.pos = none := by
    simpa [OnBoundary, Text.IsBoundary] using hc
  rw [rest, Text.after, hnone]

theorem Call.run_of_rest_eq_nil (call : Call) (h : c.rest = []) : call.run c = c := by
  cases call with
  | eat w =>
    simp only [run, eat?, h]
    split
    · rename_i hword
      rw [List.isPrefixOf_iff_prefix, List.prefix_nil] at hword
      rw [hword]
      rfl
    · rfl
  | skipBlanks =>
    rw [run, Cursor.skipBlanks, h]
    rfl
  | word =>
    rw [run, word?, h]
    rfl

theorem runAll_of_not_onBoundary (hc : ¬ c.OnBoundary) (calls : List Call) :
    c.runAll calls = c := by
  induction calls with
  | nil => rfl
  | cons call calls ih =>
    have hrun := call.run_of_rest_eq_nil (rest_eq_nil_of_not_onBoundary hc)
    unfold runAll at ih ⊢
    rw [List.foldl_cons, hrun, ih]

/-! ### Longest runs -/

/-- `d` is `c` past all characters of the class that stand next to it. -/
structure Munches (p : Char → Bool) (c d : Cursor) : Prop where
  moves : ∃ a, c.MovesOver a d ∧ ∀ x ∈ a, p x = true
  stops : ∀ x, d.rest.head? = some x → p x = false

theorem munches_advance (hc : c.OnBoundary) (p : Char → Bool) :
    Munches p c (c.advance (Text.size (c.rest.takeWhile p))) := by
  have hsplit := List.takeWhile_append_dropWhile (p := p) (l := c.rest)
  obtain ⟨hover, hrest⟩ := movesOver_advance hc hsplit.symm
  constructor
  · refine ⟨_, hover, ?_⟩
    intro x hx
    exact List.all_eq_true.mp List.all_takeWhile x hx
  · intro x hx
    have hnot := List.head?_dropWhile_not p c.rest
    rw [hrest] at hx
    rw [hx] at hnot
    exact hnot

theorem munches_skipBlanks (hc : c.OnBoundary) : Munches Text.isBlank c c.skipBlanks :=
  munches_advance hc Text.isBlank

/-- Reading an identifier is moving over all word characters, also over none. -/
theorem run_word (c : Cursor) :
    Call.word.run c = c.advance (Text.size (c.rest.takeWhile Text.isWordChar)) := by
  simp only [Call.run, word?]
  split
  · rename_i hempty
    rw [List.isEmpty_iff.mp hempty]
    rfl
  · rfl

theorem munches_word (hc : c.OnBoundary) : Munches Text.isWordChar c (Call.word.run c) := by
  rw [run_word]
  exact munches_advance hc Text.isWordChar

theorem isSome_word?_iff (c : Cursor) : c.word?.isSome = true ↔ c.pos < (Call.word.run c).pos := by
  rw [run_word, pos_advance]
  simp only [word?]
  split
  · rename_i hempty
    rw [List.isEmpty_iff.mp hempty]
    simp
  · rename_i hsome
    have hsize : Text.size (c.rest.takeWhile Text.isWordChar) ≠ 0 := by
      rw [ne_eq, Text.size_eq_zero_iff, ← List.isEmpty_iff]
      exact hsome
    simp only [Option.isSome_some, true_iff]
    omega

end Cursor

/-! ### Occurrences -/

namespace Text

/-- At offset `n` of the text stand the bytes of the word. -/
def OccursAt (word t : Text) (n : Nat) : Prop :=
  word.bytes <+: t.bytes.drop n

variable {word p r t : Text} {n : Nat}

theorem OccursAt.isBoundary (hword : word ≠ []) (h : OccursAt word t n) : t.IsBoundary n := by
  obtain ⟨q, s, rfl, rfl⟩ := (bytes_prefix_drop_iff hword).mp h
  exact isBoundary_iff.mpr ⟨q, word ++ s, List.append_assoc _ _ _, rfl⟩

/-- Occurrences behind a seam are those in the second part. -/
theorem occursAt_append_iff (hword : word ≠ []) :
    size p ≤ n ∧ OccursAt word (p ++ r) n ↔
      ∃ q s, r = q ++ word ++ s ∧ n = size p + size q := by
  constructor
  · rintro ⟨hle, h⟩
    obtain ⟨q, s, heq, rfl⟩ := (bytes_prefix_drop_iff hword).mp h
    rw [List.append_assoc] at heq
    obtain ⟨e, rfl, rfl⟩ := exists_of_append_eq_append heq hle
    exact ⟨e, s, (List.append_assoc _ _ _).symm, size_append _ _⟩
  · rintro ⟨q, s, rfl, rfl⟩
    refine ⟨Nat.le_add_right _ _, (bytes_prefix_drop_iff hword).mpr ⟨p ++ q, s, ?_, size_append _ _⟩⟩
    simp

/-- Of two beginnings of a text the one with fewer characters has fewer bytes. -/
theorem length_le_iff_size_le {a b x y : Text} (h : a ++ x = b ++ y) :
    a.length ≤ b.length ↔ size a ≤ size b := by
  constructor
  · intro hle
    obtain ⟨e, rfl⟩ := List.prefix_of_prefix_length_le ⟨x, h⟩ (List.prefix_append b y) hle
    simp
  · intro hle
    obtain ⟨e, rfl, -⟩ := exists_of_append_eq_append h hle
    simp

theorem isFirst_iff {q s : Text} (hr : r = q ++ word ++ s) :
    IsFirst word q r ↔ ∀ q' s', r = q' ++ word ++ s' → size q ≤ size q' := by
  have hlengths : ∀ q' s', r = q' ++ word ++ s' →
      (q.length ≤ q'.length ↔ size q ≤ size q') := by
    intro q' s' hr'
    rw [hr, List.append_assoc, List.append_assoc] at hr'
    exact length_le_iff_size_le hr'
  constructor
  · intro h q' s' hr'
    exact (hlengths q' s' hr').mp (h q' s' hr')
  · intro h q' s' hr'
    exact (hlengths q' s' hr').mpr (h q' s' hr')

end Text

namespace Cursor

variable {c : Cursor} {word : Text} {n : Nat}

theorem find?_eq_none_iff (hc : c.OnBoundary) (hword : word ≠ []) :
    c.find? word = none ↔ ∀ m, c.pos ≤ m → ¬ word.OccursAt c.source m := by
  obtain ⟨source, pos⟩ := c
  obtain ⟨p, r, rfl, rfl⟩ := Text.isBoundary_iff.mp hc
  rw [find?, rest_append, Text.find?_eq_map_breakAt?, Option.map_eq_none_iff,
    Option.map_eq_none_iff, Text.breakAt?_eq_none_iff]
  constructor
  · intro h m hle hm
    obtain ⟨q, s, hr, -⟩ := (Text.occursAt_append_iff hword).mp ⟨hle, hm⟩
    exact h ⟨q, s, hr.symm⟩
  · rintro h ⟨q, s, hr⟩
    obtain ⟨hle, hm⟩ := (Text.occursAt_append_iff (p := p) hword).mpr ⟨q, s, hr.symm, rfl⟩
    exact h _ hle hm

theorem find?_eq_some_iff (hc : c.OnBoundary) (hword : word ≠ []) :
    c.find? word = some n ↔ IsLeast {m | c.pos ≤ m ∧ word.OccursAt c.source m} n := by
  obtain ⟨source, pos⟩ := c
  obtain ⟨p, r, rfl, rfl⟩ := Text.isBoundary_iff.mp hc
  have hset : {m | Text.size p ≤ m ∧ word.OccursAt (p ++ r) m} =
      {m | ∃ q s, r = q ++ word ++ s ∧ m = Text.size p + Text.size q} :=
    Set.ext fun m => Text.occursAt_append_iff hword
  rw [find?, rest_append, Text.find?_eq_map_breakAt?, hset]
  simp only [Option.map_eq_some_iff, Prod.exists]
  constructor
  · rintro ⟨_, ⟨q, s, hbreak, rfl⟩, rfl⟩
    obtain ⟨hr, hfirst⟩ := Text.breakAt?_eq_some_iff.mp hbreak
    refine ⟨⟨q, s, hr, rfl⟩, ?_⟩
    rintro m ⟨q', s', hr', rfl⟩
    exact Nat.add_le_add_left ((Text.isFirst_iff hr).mp hfirst q' s' hr') _
  · rintro ⟨⟨q, s, hr, rfl⟩, hleast⟩
    refine ⟨_, ⟨q, s, Text.breakAt?_eq_some_iff.mpr ⟨hr, ?_⟩, rfl⟩, rfl⟩
    refine (Text.isFirst_iff hr).mpr fun q' s' hr' => ?_
    exact Nat.le_of_add_le_add_left (hleast ⟨q', s', hr', rfl⟩)

/-! ### Bytes -/

variable {b : UInt8}

theorem findByte?_eq_none_iff :
    c.findByte? b = none ↔ ∀ m, c.pos ≤ m → c.source.bytes[m]? ≠ some b := by
  rw [findByte?, Option.map_eq_none_iff, List.findIdx?_eq_none_iff]
  constructor
  · intro h m hle hm
    obtain ⟨i, rfl⟩ := Nat.exists_eq_add_of_le hle
    rw [← List.getElem?_drop] at hm
    have hne := h b (List.mem_of_getElem? hm)
    simp at hne
  · intro h x hx
    obtain ⟨i, hi⟩ := List.mem_iff_getElem?.mp hx
    rw [List.getElem?_drop] at hi
    rw [beq_eq_false_iff_ne]
    rintro rfl
    exact h _ (Nat.le_add_right _ _) hi

theorem findByte?_eq_some_iff :
    c.findByte? b = some n ↔ IsLeast {m | c.pos ≤ m ∧ c.source.bytes[m]? = some b} n := by
  rw [findByte?, Option.map_eq_some_iff]
  constructor
  · rintro ⟨i, hi, rfl⟩
    obtain ⟨hlt, hb, hfirst⟩ := List.findIdx?_eq_some_iff_getElem.mp hi
    refine ⟨⟨Nat.le_add_right _ _, ?_⟩, ?_⟩
    · rw [← List.getElem?_drop, List.getElem?_eq_getElem hlt, eq_of_beq hb]
    · rintro m ⟨hle, hm⟩
      obtain ⟨j, rfl⟩ := Nat.exists_eq_add_of_le hle
      refine Nat.add_le_add_left (Nat.le_of_not_lt fun hji => ?_) _
      rw [← List.getElem?_drop, List.getElem?_eq_getElem (Nat.lt_trans hji hlt),
        Option.some.injEq] at hm
      exact hfirst j hji (beq_iff_eq.mpr hm)
  · rintro ⟨⟨hle, hn⟩, hleast⟩
    obtain ⟨i, rfl⟩ := Nat.exists_eq_add_of_le hle
    rw [← List.getElem?_drop] at hn
    obtain ⟨hlt, hb⟩ := List.getElem?_eq_some_iff.mp hn
    refine ⟨i, List.findIdx?_eq_some_iff_getElem.mpr ⟨hlt, beq_iff_eq.mpr hb, ?_⟩, rfl⟩
    intro j hji hj
    have hge : c.pos + i ≤ c.pos + j := by
      refine hleast ⟨Nat.le_add_right _ _, ?_⟩
      rw [← List.getElem?_drop, List.getElem?_eq_getElem (Nat.lt_trans hji hlt), eq_of_beq hj]
    omega

end Cursor

/-- The byte of an ASCII character stands between two character boundaries. -/
theorem Text.isBoundary_of_getElem? {b : UInt8} (hb : b.toNat < 128) {t : Text} {n : Nat}
    (h : t.bytes[n]? = some b) : t.IsBoundary n := by
  have hcode : (Char.ofUInt8 b).toNat = b.toNat := UInt8.toNat_toUInt32 b
  have hform : bytes [Char.ofUInt8 b] = [b] := by
    rw [bytes, List.flatMap_singleton, utf8EncodeChar_of_lt (by omega), hcode, UInt8.ofNat_toNat]
  have hword : [Char.ofUInt8 b] ≠ [] := List.cons_ne_nil _ _
  refine OccursAt.isBoundary hword ?_
  rw [OccursAt, hform]
  obtain ⟨hlt, hb⟩ := List.getElem?_eq_some_iff.mp h
  rw [List.drop_eq_getElem_cons hlt, hb]
  exact ⟨_, rfl⟩

namespace Cursor

/-! ### All calls -/

/-- What the calls and searches of a cursor answer is exact. -/
structure Exact (c : Cursor) : Prop where
  blanks : Munches Text.isBlank c c.skipBlanks
  word : Munches Text.isWordChar c (Call.word.run c)
  word_isSome : c.word?.isSome = true ↔ c.pos < (Call.word.run c).pos
  find : ∀ word : Text, word ≠ [] →
    (∀ n, c.find? word = some n ↔ IsLeast {m | c.pos ≤ m ∧ word.OccursAt c.source m} n) ∧
      (c.find? word = none ↔ ∀ m, c.pos ≤ m → ¬ word.OccursAt c.source m) ∧
      ∀ n, c.find? word = some n → c.source.IsBoundary n
  findByte : ∀ b : UInt8, b.toNat < 128 →
    (∀ n, c.findByte? b = some n ↔ IsLeast {m | c.pos ≤ m ∧ c.source.bytes[m]? = some b} n) ∧
      (c.findByte? b = none ↔ ∀ m, c.pos ≤ m → c.source.bytes[m]? ≠ some b) ∧
      ∀ n, c.findByte? b = some n → c.source.IsBoundary n

theorem exact_of_onBoundary {c : Cursor} (hc : c.OnBoundary) : c.Exact where
  blanks := munches_skipBlanks hc
  word := munches_word hc
  word_isSome := isSome_word?_iff c
  find := by
    intro word hword
    refine ⟨fun n => find?_eq_some_iff hc hword, find?_eq_none_iff hc hword, ?_⟩
    intro n hn
    exact ((find?_eq_some_iff hc hword).mp hn).1.2.isBoundary hword
  findByte := by
    intro b hb
    refine ⟨fun n => findByte?_eq_some_iff, findByte?_eq_none_iff, ?_⟩
    intro n hn
    exact Text.isBoundary_of_getElem? hb (findByte?_eq_some_iff.mp hn).1.2

/-- From a character boundary no sequence of calls takes a cursor back, past the
end, or into a character, and wherever it comes its calls and searches answer
exactly; from anywhere else none moves it. -/
theorem runAll_exact (c : Cursor) (calls : List Call) :
    (c.OnBoundary →
        (c.runAll calls).source = c.source ∧ (c.runAll calls).OnBoundary ∧
          c.pos ≤ (c.runAll calls).pos ∧ (c.runAll calls).pos ≤ c.source.size ∧
          (∀ more, (c.runAll calls).pos ≤ (c.runAll (calls ++ more)).pos) ∧
          (c.runAll calls).Exact) ∧
      (¬ c.OnBoundary → c.runAll calls = c) := by
  constructor
  · intro hc
    obtain ⟨a, ha⟩ := movesOver_runAll hc calls
    have hin := ha.boundary.le_size
    rw [ha.source] at hin
    refine ⟨ha.source, ha.boundary, ha.le, hin, ?_, exact_of_onBoundary ha.boundary⟩
    intro more
    obtain ⟨b, hb⟩ := movesOver_runAll ha.boundary more
    rw [runAll_append]
    exact hb.le
  · intro hc
    exact runAll_of_not_onBoundary hc calls

/-- An identifier with a character of two bytes, then a word that does not stand
there and one that does. -/
theorem runAll_exact_sample :
    OnBoundary ⟨"é= é;".toList, 0⟩ ∧ ¬ OnBoundary ⟨"é= é;".toList, 1⟩ ∧
      (runAll ⟨"é= é;".toList, 0⟩ [.word, .eat " =".toList, .eat "=".toList, .skipBlanks]) =
        ⟨"é= é;".toList, 4⟩ ∧
      IsLeast {m | 4 ≤ m ∧ Text.OccursAt "é;".toList "é= é;".toList m} 4 ∧
      IsLeast {m | 4 ≤ m ∧ (Text.bytes "é= é;".toList)[m]? = some 0x3B} 6 ∧
      runAll ⟨"é= é;".toList, 1⟩ [.word, .eat []] = ⟨"é= é;".toList, 1⟩ := by
  have hc : OnBoundary ⟨"é= é;".toList, 0⟩ := by decide
  have hnot : ¬ OnBoundary ⟨"é= é;".toList, 1⟩ := by decide
  have hrun : runAll ⟨"é= é;".toList, 0⟩ [.word, .eat " =".toList, .eat "=".toList, .skipBlanks] =
      ⟨"é= é;".toList, 4⟩ := by decide
  obtain ⟨-, -, -, -, -, hexact⟩ := (runAll_exact _ _).1 hc
  rw [hrun] at hexact
  exact ⟨hc, hnot, hrun, ((hexact.find "é;".toList (by decide)).1 4).mp (by decide),
    ((hexact.findByte 0x3B (by decide)).1 6).mp (by decide), (runAll_exact _ _).2 hnot⟩

end Cursor

end WatInlay
