/-
Literal statements: statements of a host language that carry a compiled module
as a hex string, such as

    const auto wasm = from_hex("0061736d01000000");

A `Grammar` says how the statement is spelled around its payload. The payload
may be split into adjacent string pieces over several lines; it ends where the
grammar's tail begins, at the first `;` after the opening quote.
-/

import WatInlay.Cursor

namespace WatInlay.Literal

/-! ### Grammars -/

/-- One element of the text before a payload. -/
inductive Step where
  /-- Any amount of white space. -/
  | blanks
  /-- This word. -/
  | word (w : Text)
  /-- This word or nothing. -/
  | maybe (w : Text)
  /-- An identifier. -/
  | identifier
  deriving DecidableEq, Repr

/-- Moves over the element at the cursor; the longest run or word is taken and
never given back. -/
def Step.run? : Step → Cursor → Option Cursor
  | .blanks, c => some c.skipBlanks
  | .word w, c => c.eat? w
  | .maybe w, c => some ((c.eat? w).getD c)
  | .identifier, c => c.word?

/-- How a host language spells a literal statement. -/
structure Grammar where
  /-- Everything up to and including the opening quote of the payload. -/
  lead : List Step
  /-- What stands between the payload and the end of the statement. -/
  tail : Text
  /-- The text before the payload of a newly written statement. -/
  opening : Text
  deriving DecidableEq, Repr

/-- Where a recognised statement stands. -/
structure Statement where
  payloadStart : Nat
  payloadStop : Nat
  /-- The offset just past the terminating `;`. -/
  stop : Nat
  deriving DecidableEq, Repr

/-- The bytes of the payload in `source`. -/
def Statement.payload (s : Statement) (source : Text) : Text :=
  (source.slice? s.payloadStart s.payloadStop).getD []

/-- Moves over all elements in order. -/
def Grammar.lead? (g : Grammar) (c : Cursor) : Option Cursor :=
  g.lead.foldlM (fun c s => s.run? c) c

/-- The statement that starts at offset `pos`. White space before it belongs to
it when the grammar begins with white space. -/
def Grammar.match? (g : Grammar) (source : Text) (pos : Nat) : Option Statement := do
  let c ← g.lead? ⟨source, pos⟩
  let semicolon ← c.findByte? 0x3B
  let stop := semicolon + 1
  let payloadStop := stop - g.tail.size
  if g.tail.size ≤ stop ∧ c.pos ≤ payloadStop ∧ source.slice? payloadStop stop = some g.tail then
    return { payloadStart := c.pos, payloadStop, stop }
  else none

/-- A new statement for `hex`, on one line. -/
def Grammar.emit (g : Grammar) (hex : Text) : Text :=
  g.opening ++ hex ++ g.tail

/-! ### Payloads -/

/-- What may stand between the pieces of a payload: spaces, line breaks and
quotes. -/
def isSeparator (c : Char) : Bool :=
  c == ' ' || c == '\r' || c == '\n' || c == '"'

/-- A payload without the characters between its pieces. -/
def normalize (payload : Text) : Text :=
  payload.filter (!isSeparator ·)

/-! ### Where a statement stands -/

theorem Step.pos_le_of_run?_eq_some {s : Step} {c d : Cursor} (h : s.run? c = some d) :
    c.pos ≤ d.pos ∧ d.source = c.source := by
  cases s with
  | blanks =>
    cases h
    exact ⟨c.pos_le_skipBlanks, rfl⟩
  | word w =>
    refine ⟨Cursor.pos_le_of_eat?_eq_some h, ?_⟩
    simp only [run?, Cursor.eat?] at h
    split at h <;> cases h
    rfl
  | maybe w =>
    cases h
    simp only [Cursor.eat?]
    split <;> simp
  | identifier =>
    refine ⟨Cursor.pos_le_of_word?_eq_some h, ?_⟩
    simp only [run?, Cursor.word?] at h
    split at h <;> cases h
    rfl

theorem pos_le_of_foldlM_run? {steps : List Step} {c d : Cursor}
    (h : steps.foldlM (fun c s => s.run? c) c = some d) :
    c.pos ≤ d.pos ∧ d.source = c.source := by
  induction steps generalizing c with
  | nil =>
    cases h
    exact ⟨Nat.le_refl _, rfl⟩
  | cons s steps ih =>
    simp only [List.foldlM_cons, Option.bind_eq_bind, Option.bind_eq_some_iff] at h
    obtain ⟨e, he, h⟩ := h
    obtain ⟨hce, hse⟩ := Step.pos_le_of_run?_eq_some he
    obtain ⟨hed, hsd⟩ := ih h
    exact ⟨Nat.le_trans hce hed, hsd.trans hse⟩

/-- The parts of a statement follow each other inside the source, and the tail
stands between the payload and the end. -/
theorem Grammar.match?_bounds {g : Grammar} {source : Text} {pos : Nat} {s : Statement}
    (h : g.match? source pos = some s) :
    pos ≤ s.payloadStart ∧ s.payloadStart ≤ s.payloadStop ∧
      s.payloadStop + g.tail.size = s.stop ∧ s.stop ≤ source.size ∧
      source.slice? s.payloadStop s.stop = some g.tail := by
  simp only [match?, Option.bind_eq_bind, Option.bind_eq_some_iff] at h
  obtain ⟨c, hc, semicolon, hsemi, h⟩ := h
  obtain ⟨hpos, hsource⟩ := pos_le_of_foldlM_run? hc
  obtain ⟨hle, hlt⟩ := Cursor.pos_le_of_findByte?_eq_some hsemi
  simp only at hpos hsource
  rw [hsource] at hlt
  split at h
  · rename_i hcond
    cases h
    refine ⟨hpos, hcond.2.1, ?_, hlt, hcond.2.2⟩
    simp only
    omega
  · cases h

end WatInlay.Literal
