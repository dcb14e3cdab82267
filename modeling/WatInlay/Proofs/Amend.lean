/-
Bringing a statement up to date, without offsets.

`Grammar.amend` says what a text that is to begin with a statement for given
digits becomes: the statement, and what follows it. A buffer that is brought up
to date at an offset is this, moved to the offset, for every grammar
(`Buffer.sync_append`). Under a grammar that delimits its statements the new
statement reads back with the digits before any text
(`Grammar.SelfDelimiting.read?_amend`), and needs no second amendment
(`Grammar.SelfDelimiting.amend_statement`).
-/

import WatInlay.Buffer
import WatInlay.Proofs.Delimited
import WatInlay.Proofs.Hex

namespace WatInlay

/-! ### Amending -/

namespace Literal

/-- A text that begins with a statement as it is wanted. -/
structure Amended where
  statement : Text
  /-- What became of the statement that stood there. -/
  change : Change
  /-- What follows the statement. -/
  rest : Text
  deriving DecidableEq, Repr

/-- Makes a text begin with a statement for `hex`: a statement that already
carries it is kept, another payload is replaced, and where there is no
statement a new one is put. -/
def Grammar.amend (g : Grammar) (hex t : Text) : Amended :=
  match g.read? t with
  | none => ⟨g.emit hex, .inserted, t⟩
  | some k =>
    if normalize k.payload = hex then ⟨k.statement g, .unchanged, k.rest⟩
    else ⟨{ k with payload := hex }.statement g, .updated, k.rest⟩

namespace Grammar

variable {g : Grammar} {hex t : Text}

theorem rest_amend_of_none (h : g.read? t = none) : (g.amend hex t).rest = t := by
  rw [amend, h]

theorem rest_amend_of_some {k : Reading} (h : g.read? t = some k) :
    (g.amend hex t).rest = k.rest := by
  rw [amend, h]
  dsimp only
  split <;> rfl

/-- A statement that is kept stood in the text, before what is left. -/
theorem eq_append_of_change_eq_unchanged (h : (g.amend hex t).change = .unchanged) :
    t = (g.amend hex t).statement ++ (g.amend hex t).rest := by
  unfold amend at h ⊢
  cases hread : g.read? t with
  | none =>
    rw [hread] at h
    cases h
  | some k =>
    rw [hread] at h
    dsimp only at h ⊢
    split at h
    · rename_i hpayload
      rw [if_pos hpayload]
      exact eq_append_of_read? hread
    · cases h

/-- What an amendment leaves behind the statement stood in the text. -/
theorem exists_eq_append_amend (g : Grammar) (hex t : Text) :
    ∃ old, t = old ++ (g.amend hex t).rest := by
  cases hread : g.read? t with
  | none => exact ⟨[], (rest_amend_of_none hread).symm⟩
  | some k => exact ⟨k.statement g, by rw [rest_amend_of_some hread, ← eq_append_of_read? hread]⟩

end Grammar

end Literal

/-! ### The buffer -/

theorem Edit.result_append (p old rest new : Text) :
    Edit.result ⟨Text.size p, Text.size (p ++ old), new⟩ (p ++ old ++ rest) = p ++ new ++ rest := by
  have hstart : Text.splitAt? (p ++ old ++ rest) (Text.size p) = some (p, old ++ rest) :=
    Text.splitAt?_eq_some_iff.mpr ⟨by simp, rfl⟩
  have hle : Text.size p ≤ Text.size (p ++ old) := by simp
  simp only [result, if_pos hle, hstart, Text.splitAt?_size]

theorem Literal.Reading.payload_place {g : Grammar} {k : Reading} {t : Text} (h : g.read? t = some k)
    (p : Text) : (k.place g (Text.size p)).payload (p ++ t) = k.payload := by
  have hslice : Text.slice? (p ++ t) (Text.size p + Text.size k.lead)
      (Text.size p + Text.size (k.lead ++ k.payload)) = some k.payload := by
    refine Text.slice?_eq_some_iff.mpr ⟨p ++ k.lead, g.tail ++ k.rest, ?_, by simp, by simp⟩
    rw [Grammar.eq_append_of_read? h]
    simp [statement]
  simp only [Statement.payload, place, hslice, Option.getD_some]

/-- Bringing a buffer up to date at an offset amends the text behind it and
touches nothing before it; reading goes on behind the statement. -/
theorem Buffer.sync_append (p r : Text) (modified : Bool) (g : Literal.Grammar) (hex : Text) :
    Buffer.sync ⟨p ++ r, modified⟩ (Text.size p) g hex =
      (⟨p ++ (g.amend hex r).statement ++ (g.amend hex r).rest,
          modified || (g.amend hex r).change != .unchanged⟩,
        ⟨(g.amend hex r).change, Text.size (p ++ (g.amend hex r).statement)⟩) := by
  rw [sync, Literal.Grammar.match?_append, Literal.Grammar.amend]
  cases hread : g.read? r with
  | none =>
    have hins := Edit.result_append p [] r (g.emit hex)
    rw [List.append_nil] at hins
    simp [hins]
  | some k =>
    have hr := Literal.Grammar.eq_append_of_read? hread
    simp only [Option.map_some, Literal.Reading.payload_place hread]
    split
    · rw [List.append_assoc, ← hr]
      simp [Literal.Reading.place]
    · have hupd := Edit.result_append (p ++ k.lead) k.payload (g.tail ++ k.rest) hex
      have htext : p ++ r = p ++ k.lead ++ k.payload ++ (g.tail ++ k.rest) := by
        rw [hr]
        simp [Literal.Reading.statement]
      have hstart : (k.place g (Text.size p)).payloadStart = Text.size (p ++ k.lead) := by
        simp [Literal.Reading.place]
      have hstop : (k.place g (Text.size p)).payloadStop = Text.size (p ++ k.lead ++ k.payload) := by
        simp [Literal.Reading.place]
      rw [← htext] at hupd
      rw [hstart, hstop, hupd]
      simp [Literal.Reading.place, Literal.Reading.statement]
      omega

/-- Reading goes on at or behind the offset, on a character boundary of the new
text. -/
theorem Buffer.resume_sync {b : Buffer} {pos : Nat} (hpos : b.text.IsBoundary pos)
    (g : Literal.Grammar) (hex : Text) :
    pos ≤ (b.sync pos g hex).2.resume ∧
      (b.sync pos g hex).1.text.IsBoundary (b.sync pos g hex).2.resume := by
  obtain ⟨text, modified⟩ := b
  obtain ⟨p, r, rfl, rfl⟩ := Text.isBoundary_iff.mp hpos
  rw [sync_append]
  exact ⟨by simp, Text.isBoundary_iff.mpr ⟨_, _, rfl, rfl⟩⟩

/-- An edit that is needed at a character boundary can be made: a new statement
goes to the boundary, and a payload stands between two others. -/
theorem Buffer.fits_syncEdit? {b : Buffer} {pos : Nat} (hpos : b.text.IsBoundary pos)
    {g : Literal.Grammar} {hex : Text} {e : Edit} (h : b.syncEdit? pos g hex = some e) :
    e.Fits b.text := by
  obtain ⟨text, modified⟩ := b
  obtain ⟨p, r, rfl, rfl⟩ := Text.isBoundary_iff.mp hpos
  rw [syncEdit?, Literal.Grammar.match?_append] at h
  cases hread : g.read? r with
  | none =>
    rw [hread] at h
    cases h
    exact ⟨Nat.le_refl _, hpos, hpos⟩
  | some k =>
    rw [hread] at h
    simp only [Option.map_some] at h
    split at h
    · cases h
    · cases h
      have hr := Literal.Grammar.eq_append_of_read? hread
      refine ⟨by simp [Literal.Reading.place],
        Text.isBoundary_iff.mpr ⟨p ++ k.lead, k.payload ++ g.tail ++ k.rest, ?_, ?_⟩,
        Text.isBoundary_iff.mpr ⟨p ++ k.lead ++ k.payload, g.tail ++ k.rest, ?_, ?_⟩⟩
      · simp [hr, Literal.Reading.statement]
      · simp [Literal.Reading.place]
      · simp [hr, Literal.Reading.statement]
      · simp [Literal.Reading.place]

/-! ### Amended statements -/

namespace Literal.Grammar.SelfDelimiting

variable {g : Grammar} {hex : Text}

/-- An amended statement reads back before any text, at its full length and
with the digits it was given. -/
theorem read?_amend (hg : g.SelfDelimiting) (hsemi : ';' ∉ hex) (hhex : normalize hex = hex)
    (t y : Text) :
    ∃ k, g.read? ((g.amend hex t).statement ++ y) = some k ∧
      k.statement g = (g.amend hex t).statement ∧ k.rest = y ∧ normalize k.payload = hex := by
  unfold amend
  cases hread : g.read? t with
  | none =>
    exact ⟨⟨g.opening, hex, y⟩, hg.read?_eq hg.opening hsemi y, rfl, rfl, hhex⟩
  | some k =>
    have hlead := (read?_eq_some_iff.mp hread).1
    simp only
    split
    · rename_i hpayload
      have hkept := hg.read?_eq hlead (hg.semicolon_not_mem_payload hread) y
      exact ⟨⟨k.lead, k.payload, y⟩, hkept, rfl, rfl, hpayload⟩
    · exact ⟨⟨k.lead, hex, y⟩, hg.read?_eq hlead hsemi y, rfl, rfl, hhex⟩

/-- A second amendment changes nothing, whatever stands behind the statement. -/
theorem amend_statement (hg : g.SelfDelimiting) (hsemi : ';' ∉ hex) (hhex : normalize hex = hex)
    (t y : Text) :
    g.amend hex ((g.amend hex t).statement ++ y) = ⟨(g.amend hex t).statement, .unchanged, y⟩ := by
  obtain ⟨k, hread, hstatement, hrest, hpayload⟩ := hg.read?_amend hsemi hhex t y
  rw [amend, hread]
  simp only [hpayload, ↓reduceIte, hstatement, hrest]

/-- A text that begins with the amended statement is not changed: it would be
read there already. -/
theorem change_eq_unchanged (hg : g.SelfDelimiting) (hsemi : ';' ∉ hex) (hhex : normalize hex = hex)
    {t y : Text} (h : t = (g.amend hex t).statement ++ y) : (g.amend hex t).change = .unchanged := by
  have hkept := hg.amend_statement hsemi hhex t y
  rw [← h] at hkept
  exact congrArg Amended.change hkept

end Literal.Grammar.SelfDelimiting

/-! ### Digits as payload -/

namespace Hex

theorem semicolon_not_mem_encode (bs : Bytes) : ';' ∉ encode bs := by
  intro h
  have := mem_digits_of_mem_encode h
  revert this
  decide

/-- Digits are never taken for what may stand between the pieces of a payload. -/
theorem normalize_encode (bs : Bytes) : Literal.normalize (encode bs) = encode bs := by
  have hdigits : digits.all (!Literal.isSeparator ·) = true := by decide
  refine List.filter_eq_self.mpr fun c hc => ?_
  exact List.all_eq_true.mp hdigits c (mem_digits_of_mem_encode hc)

end Hex

end WatInlay
