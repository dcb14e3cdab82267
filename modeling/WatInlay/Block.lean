/-
Module blocks: comments that carry the text of a module.

    /* wat2wasm [options...]
    (module ...)
    */

The options stand between the mark and the end of its line. The body runs up
to the first `*`, which must start the closing `*/`; comments do not nest. A
mark that no such comment follows is passed over.
-/

import WatInlay.Text
import WatInlay.Text.Blank

namespace WatInlay

/-- A module block and where it stands in its source. -/
structure Block where
  /-- The offset of the opening mark. -/
  start : Nat
  options : List Text
  body : Text
  /-- The offset of the body. -/
  bodyStart : Nat
  /-- The offset just past the closing mark. -/
  stop : Nat
  deriving DecidableEq, Repr

namespace Block

/-- What opens a block. -/
def openMark : Text :=
  "/* wat2wasm".toList

/-- What closes a block. -/
def closeMark : Text :=
  "*/".toList

/-- The offset just past the body. -/
def bodyStop (b : Block) : Nat :=
  b.bodyStart + b.body.size

/-- The block that starts at the head of `t`, a text that stands at offset
`pos` of its source. -/
def atHead? (pos : Nat) (t : Text) : Option Block := do
  let afterMark ← openMark.strip? t
  let line := afterMark.takeWhile (· != '\n')
  let '\n' :: inside := afterMark.dropWhile (· != '\n') | none
  let body := inside.takeWhile (· != '*')
  let _ ← closeMark.strip? (inside.dropWhile (· != '*'))
  let bodyStart := pos + openMark.size + Text.size line + 1
  return { start := pos
           options := Text.pieces Text.isBlank line
           body
           bodyStart
           stop := bodyStart + Text.size body + closeMark.size }

/-- The first block in `t`, a text that stands at offset `pos` of its source. -/
def firstIn? (pos : Nat) : Text → Option Block
  | [] => none
  | c :: t =>
    match atHead? pos (c :: t) with
    | some b => some b
    | none => firstIn? (pos + c.utf8Size) t

/-- The first block of `source` that starts at or after offset `pos`. -/
def find? (source : Text) (pos : Nat) : Option Block := do
  let (_, rest) ← source.splitAt? pos
  firstIn? pos rest

/-! ### Where a block stands -/

/-- The shape of a block: the mark and the rest of its line, the body, the
closing mark. -/
theorem exists_of_atHead?_eq_some {pos : Nat} {t : Text} {b : Block}
    (h : atHead? pos t = some b) :
    ∃ line rest, t = openMark ++ line ++ '\n' :: b.body ++ closeMark ++ rest ∧
      '\n' ∉ line ∧ '*' ∉ b.body ∧ b.options = Text.pieces Text.isBlank line ∧
      b.start = pos ∧ b.bodyStart = pos + openMark.size + Text.size line + 1 ∧
      b.stop = b.bodyStart + Text.size b.body + closeMark.size := by
  simp only [atHead?, Option.bind_eq_bind, Option.bind_eq_some_iff] at h
  obtain ⟨after, hafter, h⟩ := h
  split at h
  · rename_i inside hinside
    simp only [Option.bind_eq_some_iff, Option.pure_def, Option.some.injEq] at h
    obtain ⟨rest, hrest, rfl⟩ := h
    have hline := List.takeWhile_append_dropWhile (p := (· != '\n')) (l := after)
    have hbody := List.takeWhile_append_dropWhile (p := (· != '*')) (l := inside)
    rw [Text.strip?_eq_some_iff] at hafter hrest
    refine ⟨after.takeWhile (· != '\n'), rest, ?_, ?_, ?_, rfl, rfl, rfl, rfl⟩
    · rw [hinside] at hline
      rw [hrest] at hbody
      simp only [hafter, List.append_assoc, List.cons_append, hbody, hline]
    · intro hmem
      have := List.all_takeWhile (p := (· != '\n')) (l := after)
      rw [List.all_eq_true] at this
      simpa using this _ hmem
    · intro hmem
      have := List.all_takeWhile (p := (· != '*')) (l := inside)
      rw [List.all_eq_true] at this
      simpa using this _ hmem
  · simp at h

theorem atHead?_bounds {pos : Nat} {t : Text} {b : Block} (h : atHead? pos t = some b) :
    b.start = pos ∧ pos + 14 ≤ b.stop ∧ b.stop ≤ pos + t.size ∧
      ∃ p r, t = p ++ r ∧ pos + Text.size p = b.stop := by
  obtain ⟨line, rest, rfl, -, -, -, hstart, hbody, hstop⟩ := exists_of_atHead?_eq_some h
  have hopen : Text.size openMark = 11 := by decide
  have hclose : Text.size closeMark = 2 := by decide
  have hbreak : Char.utf8Size '\n' = 1 := by decide
  refine ⟨hstart, by omega, by simp; omega, openMark ++ line ++ '\n' :: b.body ++ closeMark,
    rest, rfl, by simp; omega⟩

/-- A block found from `pos` on starts there or later, is at least as long as
its two marks and the line break between them, and ends on a character boundary. -/
theorem firstIn?_bounds {pos : Nat} {t : Text} {b : Block} (h : firstIn? pos t = some b) :
    pos ≤ b.start ∧ b.start + 14 ≤ b.stop ∧
      ∃ p r, t = p ++ r ∧ pos + Text.size p = b.stop := by
  induction t generalizing pos with
  | nil => simp [firstIn?] at h
  | cons c t ih =>
    rw [firstIn?] at h
    split at h
    · rename_i hhead
      cases h
      obtain ⟨rfl, hlen, -, hcut⟩ := atHead?_bounds hhead
      exact ⟨Nat.le_refl _, hlen, hcut⟩
    · obtain ⟨hpos, hlen, p, r, rfl, hp⟩ := ih h
      exact ⟨by omega, hlen, c :: p, r, rfl, by simp; omega⟩

theorem find?_bounds {source : Text} {pos : Nat} {b : Block} (h : find? source pos = some b) :
    pos ≤ b.start ∧ b.start + 14 ≤ b.stop ∧ source.IsBoundary b.stop := by
  simp only [find?, Option.bind_eq_bind, Option.bind_eq_some_iff, Prod.exists] at h
  obtain ⟨p, rest, hsplit, h⟩ := h
  obtain ⟨rfl, rfl⟩ := Text.splitAt?_eq_some_iff.mp hsplit
  obtain ⟨hpos, hlen, q, r, rfl, hq⟩ := firstIn?_bounds h
  refine ⟨hpos, hlen, Text.isBoundary_iff.mpr ⟨p ++ q, r, by simp, by simp; omega⟩⟩

end Block

end WatInlay
