/-
A source text that is brought up to date in place.

`Buffer.sync` makes the literal statement at an offset carry given digits: it
keeps a statement that already does, replaces the payload of one that does
not, and inserts a new statement where there is none. It answers where reading
goes on.
-/

import WatInlay.Literal

namespace WatInlay

/-! ### Edits -/

/-- Replacement of the bytes from `start` up to `stop` by `text`. -/
structure Edit where
  start : Nat
  stop : Nat
  text : Text
  deriving DecidableEq, Repr

namespace Edit

/-- Both ends are character boundaries of `t`, in order. -/
def Fits (e : Edit) (t : Text) : Prop :=
  e.start ≤ e.stop ∧ t.IsBoundary e.start ∧ t.IsBoundary e.stop

instance (e : Edit) (t : Text) : Decidable (e.Fits t) :=
  inferInstanceAs (Decidable (_ ∧ _ ∧ _))

/-- The text after the edit; an edit that does not fit changes nothing. -/
def result (e : Edit) (t : Text) : Text :=
  if e.start ≤ e.stop then
    match t.splitAt? e.start, t.splitAt? e.stop with
    | some (before, _), some (_, rest) => before ++ e.text ++ rest
    | _, _ => t
  else t

theorem exists_of_fits {e : Edit} {t : Text} (h : e.Fits t) :
    ∃ before old rest, t = before ++ old ++ rest ∧ before.size = e.start ∧
      Text.size (before ++ old) = e.stop ∧ e.result t = before ++ e.text ++ rest := by
  obtain ⟨hle, hstart, hstop⟩ := h
  obtain ⟨⟨before, tail⟩, hb⟩ := Option.isSome_iff_exists.mp hstart
  obtain ⟨⟨upto, rest⟩, hr⟩ := Option.isSome_iff_exists.mp hstop
  obtain ⟨ht, hbs⟩ := Text.splitAt?_eq_some_iff.mp hb
  obtain ⟨ht', hus⟩ := Text.splitAt?_eq_some_iff.mp hr
  have hcut : ∃ old, upto = before ++ old ∧ tail = old ++ rest := by
    rcases List.append_eq_append_iff.mp (ht.symm.trans ht') with ⟨old, h1, h2⟩ | ⟨old, h1, h2⟩
    · exact ⟨old, h1, h2⟩
    · have : old = [] := by
        rw [← Text.size_eq_zero_iff]
        have := congrArg Text.size h1
        simp at this
        omega
      subst this
      exact ⟨[], by simpa using h1.symm, by simpa using h2.symm⟩
  obtain ⟨old, rfl, rfl⟩ := hcut
  refine ⟨before, old, rest, by simp [ht], hbs, hus, ?_⟩
  simp [result, hle, hb, hr]

theorem size_result_of_fits {e : Edit} {t : Text} (h : e.Fits t) :
    (e.result t).size + (e.stop - e.start) = t.size + e.text.size := by
  obtain ⟨before, old, rest, rfl, hbefore, hupto, hresult⟩ := exists_of_fits h
  rw [hresult]
  simp at hupto ⊢
  omega

theorem result_of_not_fits {e : Edit} {t : Text} (h : ¬ e.Fits t) : e.result t = t := by
  unfold result
  split
  · split
    · rename_i hle _ _ before _ _ rest hb hr
      exact absurd ⟨hle, by simp [Text.IsBoundary, hb], by simp [Text.IsBoundary, hr]⟩ h
    · rfl
  · rfl

end Edit

/-! ### Buffers -/

/-- What became of the literal statement at an offset. -/
inductive Change where
  | unchanged
  | updated
  | inserted
  deriving DecidableEq, Repr

/-- The answer to a synchronisation. -/
structure Splice where
  change : Change
  /-- The offset just past the statement as it now stands. -/
  resume : Nat
  deriving DecidableEq, Repr

/-- A source text, and whether it differs from what was read. -/
structure Buffer where
  text : Text
  modified : Bool := false
  deriving DecidableEq, Repr

namespace Buffer

/-- The edit that makes the statement at `pos` carry `hex`, if one is needed. -/
def syncEdit? (b : Buffer) (pos : Nat) (g : Literal.Grammar) (hex : Text) : Option Edit :=
  match g.match? b.text pos with
  | none => some ⟨pos, pos, g.emit hex⟩
  | some s =>
    if Literal.normalize (s.payload b.text) = hex then none
    else some ⟨s.payloadStart, s.payloadStop, hex⟩

/-- Makes the literal statement at `pos` carry `hex`. The offset must be a
character boundary, such as the end of a block. -/
def sync (b : Buffer) (pos : Nat) (g : Literal.Grammar) (hex : Text) : Buffer × Splice :=
  match g.match? b.text pos with
  | none =>
    let statement := g.emit hex
    (⟨Edit.result ⟨pos, pos, statement⟩ b.text, true⟩, ⟨.inserted, pos + statement.size⟩)
  | some s =>
    if Literal.normalize (s.payload b.text) = hex then (b, ⟨.unchanged, s.stop⟩)
    else
      (⟨Edit.result ⟨s.payloadStart, s.payloadStop, hex⟩ b.text, true⟩,
        ⟨.updated, s.stop - (s.payloadStop - s.payloadStart) + hex.size⟩)

/-- A synchronisation makes the one edit that is needed. -/
theorem text_sync (b : Buffer) (pos : Nat) (g : Literal.Grammar) (hex : Text) :
    (b.sync pos g hex).1.text =
      match b.syncEdit? pos g hex with
      | none => b.text
      | some e => e.result b.text := by
  simp only [sync, syncEdit?]
  split
  · rfl
  · split <;> rfl

/-- What is left to read after a synchronisation is no longer than what stood
after the offset before it, however much the text has grown. -/
theorem tail_sync_le (b : Buffer) (pos : Nat) (g : Literal.Grammar) (hex : Text) :
    (b.sync pos g hex).1.text.size - (b.sync pos g hex).2.resume ≤ b.text.size - pos := by
  unfold sync
  split
  · by_cases hfits : Edit.Fits ⟨pos, pos, g.emit hex⟩ b.text
    · have := Edit.size_result_of_fits hfits
      simp at this ⊢
      omega
    · simp [Edit.result_of_not_fits hfits]
      omega
  · rename_i s hs
    obtain ⟨h1, h2, h3, h4, -⟩ := Literal.Grammar.match?_bounds hs
    split
    · simp
      omega
    · by_cases hfits : Edit.Fits ⟨s.payloadStart, s.payloadStop, hex⟩ b.text
      · have := Edit.size_result_of_fits hfits
        simp at this ⊢
        omega
      · simp [Edit.result_of_not_fits hfits]
        omega

end Buffer

end WatInlay
