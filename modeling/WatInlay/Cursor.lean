/-
A reading position in a text.

A cursor only moves forward, and only over what it has recognised. Its offset
may be any number: away from a character boundary, or past the end, nothing is
left to read and the cursor stays where it is.
-/

import WatInlay.Text
import WatInlay.Text.Blank
import WatInlay.Text.WordChar

namespace WatInlay

/-- A byte offset `pos` into `source`. -/
structure Cursor where
  source : Text
  pos : Nat
  deriving DecidableEq, Repr

namespace Cursor

/-- What is left to read. -/
def rest (c : Cursor) : Text :=
  c.source.after c.pos

/-- The cursor `n` bytes further on. -/
def advance (c : Cursor) (n : Nat) : Cursor :=
  { c with pos := c.pos + n }

/-- Past `word`, when what is left starts with it. -/
def eat? (c : Cursor) (word : Text) : Option Cursor :=
  if word.isPrefixOf c.rest then some (c.advance word.size) else none

/-- Past all white space at the cursor. -/
def skipBlanks (c : Cursor) : Cursor :=
  c.advance (Text.size (c.rest.takeWhile Text.isBlank))

/-- Past the identifier at the cursor, when there is one. -/
def word? (c : Cursor) : Option Cursor :=
  let word := c.rest.takeWhile Text.isWordChar
  if word.isEmpty then none else some (c.advance (Text.size word))

/-- The offset of the next `needle` at or after the cursor. -/
def find? (c : Cursor) (needle : Text) : Option Nat :=
  (Text.find? needle c.rest).map (c.pos + ·)

/-- The offset of the next byte `b` at or after the cursor, characters aside:
the search starts at the cursor even inside a character. -/
def findByte? (c : Cursor) (b : UInt8) : Option Nat :=
  ((c.source.bytes.drop c.pos).findIdx? (· == b)).map (c.pos + ·)

@[simp] theorem source_advance (c : Cursor) (n : Nat) : (c.advance n).source = c.source := rfl

@[simp] theorem pos_advance (c : Cursor) (n : Nat) : (c.advance n).pos = c.pos + n := rfl

theorem pos_le_of_eat?_eq_some {c d : Cursor} {word : Text} (h : c.eat? word = some d) :
    c.pos ≤ d.pos := by
  unfold eat? at h
  split at h <;> cases h
  simp

theorem pos_le_skipBlanks (c : Cursor) : c.pos ≤ c.skipBlanks.pos := by
  simp [skipBlanks]

theorem pos_le_of_word?_eq_some {c d : Cursor} (h : c.word? = some d) : c.pos ≤ d.pos := by
  simp only [word?] at h
  split at h <;> cases h
  simp

theorem pos_le_of_findByte?_eq_some {c : Cursor} {b : UInt8} {n : Nat}
    (h : c.findByte? b = some n) : c.pos ≤ n ∧ n < c.source.size := by
  unfold findByte? at h
  obtain ⟨i, hi, rfl⟩ := Option.map_eq_some_iff.mp h
  obtain ⟨hlt, -⟩ := List.findIdx?_eq_some_iff_getElem.mp hi
  rw [List.length_drop, Text.length_bytes] at hlt
  omega

end Cursor

end WatInlay
