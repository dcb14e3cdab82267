/-
A buffer that was brought up to date is up to date.

`Buffer.Settled` says what is left when the statement at an offset was made to
carry a text: a statement that reads back with the text and ends where reading
goes on, all else as it was, and nothing to do a second time. Inserting,
keeping, growing and shrinking are one case here, since the buffer is amended
behind the offset (`Buffer.sync_append`) and an amended statement reads back
before any text (`Grammar.SelfDelimiting.read?_amend`).
-/

import WatInlay.Proofs.Amend

namespace WatInlay

/-! ### Plain payloads -/

namespace Literal

/-- The text holds nothing that may stand between the pieces of a payload, and
no semicolon. -/
def IsPlain (hex : Text) : Prop :=
  ∀ c ∈ hex, c ≠ ' ' ∧ c ≠ '\r' ∧ c ≠ '\n' ∧ c ≠ '"' ∧ c ≠ ';'

instance (hex : Text) : Decidable (IsPlain hex) :=
  List.decidableBAll _ hex

theorem IsPlain.semicolon_not_mem {hex : Text} (h : IsPlain hex) : ';' ∉ hex :=
  fun hmem => (h _ hmem).2.2.2.2 rfl

theorem IsPlain.normalize_eq {hex : Text} (h : IsPlain hex) : normalize hex = hex := by
  refine List.filter_eq_self.mpr fun c hc => ?_
  obtain ⟨hspace, hreturn, hbreak, hquote, -⟩ := h c hc
  simp [isSeparator, hspace, hreturn, hbreak, hquote]

theorem isPlain_encode (module : Bytes) : IsPlain (Hex.encode module) := by
  have hdigits : IsPlain Hex.digits := by decide
  exact fun c hc => hdigits c (Hex.mem_digits_of_mem_encode hc)

/-! ### Statements at an offset -/

namespace Grammar

/-- The offset just past the statement at `pos`, or `pos` where there is none. -/
def stopAt (g : Grammar) (source : Text) (pos : Nat) : Nat :=
  match g.match? source pos with
  | some s => s.stop
  | none => pos

/-- There is a statement at `pos`, and its payload says `hex`. -/
def SaysAt (g : Grammar) (source : Text) (pos : Nat) (hex : Text) : Prop :=
  ∃ s, g.match? source pos = some s ∧ normalize (s.payload source) = hex

variable {g : Grammar} {hex : Text}

/-- What an amendment leaves is what stands behind the statement. -/
theorem stopAt_append (g : Grammar) (hex p r : Text) :
    g.stopAt (p ++ r) (Text.size p) + Text.size (g.amend hex r).rest = Text.size (p ++ r) := by
  rw [stopAt, match?_append]
  cases hread : g.read? r with
  | none =>
    rw [rest_amend_of_none hread, Text.size_append]
    rfl
  | some k =>
    have hsize := congrArg Text.size (eq_append_of_read? hread)
    rw [rest_amend_of_some hread, Text.size_append, hsize]
    simp [Reading.place, Nat.add_assoc]

theorem saysAt_append_iff (p r : Text) :
    g.SaysAt (p ++ r) (Text.size p) hex ↔ (g.amend hex r).change = .unchanged := by
  rw [SaysAt, match?_append, amend]
  cases hread : g.read? r with
  | none => simp
  | some k =>
    simp only [Option.map_some, Option.some.injEq, exists_eq_left',
      Reading.payload_place hread p]
    split
    · rename_i hpayload
      exact ⟨fun _ => rfl, fun _ => hpayload⟩
    · rename_i hpayload
      exact ⟨fun h => absurd h hpayload, fun h => by cases h⟩

end Grammar

end Literal

/-! ### Settled buffers -/

/-- In `b'` the statement at `pos` carries `hex`, `b` was the buffer before, and
`s` says what was done. -/
structure Buffer.Settled (g : Literal.Grammar) (hex : Text) (pos : Nat) (b b' : Buffer)
    (s : Splice) : Prop where
  /-- Nothing changed but the statement, from the offset up to where reading
  goes on. -/
  frame : ∃ before old new rest, b.text = before ++ old ++ rest ∧
    b'.text = before ++ new ++ rest ∧ Text.size before = pos ∧
    Text.size (before ++ old) = g.stopAt b.text pos ∧ Text.size (before ++ new) = s.resume
  statement : ∃ st, g.match? b'.text pos = some st ∧
    Literal.normalize (st.payload b'.text) = hex ∧ st.stop = s.resume
  unchanged_iff : s.change = .unchanged ↔ g.SaysAt b.text pos hex
  eq_of_unchanged : s.change = .unchanged → b' = b
  modified_of_changed : s.change ≠ .unchanged → b'.modified = true
  again : b'.sync pos g hex = (b', ⟨.unchanged, s.resume⟩)

/-- A grammar that delimits its statements settles every plain text. -/
theorem Literal.Grammar.SelfDelimiting.settled {g : Literal.Grammar} (hg : g.SelfDelimiting)
    {hex : Text} (hhex : Literal.IsPlain hex) {b : Buffer} {pos : Nat}
    (hpos : b.text.IsBoundary pos) :
    Buffer.Settled g hex pos b (b.sync pos g hex).1 (b.sync pos g hex).2 := by
  obtain ⟨text, modified⟩ := b
  obtain ⟨p, r, rfl, rfl⟩ := Text.isBoundary_iff.mp hpos
  have hsemi := hhex.semicolon_not_mem
  have hnormal := hhex.normalize_eq
  obtain ⟨old, hold⟩ := g.exists_eq_append_amend hex r
  rw [Buffer.sync_append]
  refine ⟨?_, ?_, (Literal.Grammar.saysAt_append_iff p r).symm, ?_, ?_, ?_⟩
  · refine ⟨p, old, _, _, by rw [List.append_assoc, ← hold], rfl, rfl, ?_, rfl⟩
    have hstop := g.stopAt_append hex p r
    have hsize := congrArg Text.size hold
    simp only [Text.size_append] at hstop hsize ⊢
    omega
  · obtain ⟨k, hread, hstatement, -, hpayload⟩ :=
      hg.read?_amend hsemi hnormal r (g.amend hex r).rest
    refine ⟨k.place g (Text.size p), ?_, ?_, ?_⟩
    · rw [List.append_assoc, Literal.Grammar.match?_append, hread]
      rfl
    · rw [List.append_assoc, Literal.Reading.payload_place hread p, hpayload]
    · simp [Literal.Reading.place, hstatement]
  · intro hkept
    have hkept : (g.amend hex r).change = .unchanged := hkept
    have hr := Literal.Grammar.eq_append_of_change_eq_unchanged hkept
    rw [List.append_assoc, ← hr, hkept]
    simp
  · intro hchanged
    simpa using Or.inr hchanged
  · rw [List.append_assoc, Buffer.sync_append, hg.amend_statement hsemi hnormal]
    simp

/-- In each language, bringing a buffer up to date at a character boundary
settles every plain text there, such as the digits of any module. -/
theorem Buffer.sync_settles {d : Dialect} (hd : d ∈ Dialect.all) {b : Buffer} {pos : Nat}
    (hpos : b.text.IsBoundary pos) :
    (∀ hex, Literal.IsPlain hex → Settled d.literal hex pos b
        (b.sync pos d.literal hex).1 (b.sync pos d.literal hex).2) ∧
      ∀ module, Settled d.literal (Hex.encode module) pos b
        (b.sync pos d.literal (Hex.encode module)).1
        (b.sync pos d.literal (Hex.encode module)).2 := by
  have hg := Literal.selfDelimiting_of_mem_all hd
  constructor
  · intro hex hhex
    exact hg.settled hhex hpos
  · intro module
    exact hg.settled (Literal.isPlain_encode module) hpos

/-- A buffer that was not changed before, with a payload in two pieces. -/
def Buffer.inPieces : Buffer :=
  ⟨['é'] ++ " let w =hex::decode(\"00\" \"61\").unwrap();!".toList, false⟩

theorem Buffer.sync_settles_sample :
    Dialect.rust ∈ Dialect.all ∧ inPieces.text.IsBoundary 2 ∧ Literal.IsPlain "xé".toList ∧
      Settled Dialect.rust.literal "xé".toList 2 inPieces
        ⟨['é'] ++ " let w =hex::decode(\"xé\").unwrap();".toList ++ ['!'], true⟩
        ⟨.updated, 38⟩ := by
  have hd : Dialect.rust ∈ Dialect.all := by decide
  have hpos : inPieces.text.IsBoundary 2 := by decide
  have hplain : Literal.IsPlain "xé".toList := by decide
  have hamend : Dialect.rust.literal.amend "xé".toList
      " let w =hex::decode(\"00\" \"61\").unwrap();!".toList =
        ⟨" let w =hex::decode(\"xé\").unwrap();".toList, .updated, ['!']⟩ := by decide
  have hsync : inPieces.sync 2 Dialect.rust.literal "xé".toList = _ :=
    sync_append ['é'] _ false Dialect.rust.literal "xé".toList
  rw [hamend] at hsync
  have h := (sync_settles hd hpos).1 _ hplain
  rw [hsync] at h
  exact ⟨hd, hpos, hplain, h⟩

end WatInlay
